import Descent.Parser.Combinator
import Descent.Value

/-!
# Parsers written by hand

Parsers that are no combination of others: they look at the state themselves. The first ones keep
to the rule that a parser which succeeds has read the text in front of it, and one which fails
hands back its start; `jumpTo` and `half` break it on purpose.
-/

namespace Descent.Parser

/-- Any one character. -/
def anyChar : Parser Value := fun s =>
  match s.remaining with
  | [] => fail "any character" s
  | c :: _ => (Reply.ofAdvance (s.advance c.utf8Size)).map .text

/-- Yields the offset and reads nothing. -/
def position : Parser Value := fun s => .success (.int s.consumed) s

/-- Yields the text that is left and reads nothing. -/
def lookRest : Parser Value := fun s => .success (.text (.ofList s.remaining)) s

/-- Sets the offset, whatever has been read. -/
def jumpTo (offset : UInt64) : Parser Value := fun s =>
  .success (.int offset.toNat)
    ⟨s.remaining, offset.toNat, Nat.le_of_lt_succ offset.toNat_lt⟩

/-- Always fails, with the state after the next character instead of its start. -/
def half : Parser Value := fun s =>
  let cause := Failure.structural "half" s.consumed
  match s.remaining with
  | [] => .failure cause s
  | c :: _ =>
    match s.advance c.utf8Size with
    | .ok (_, next) => .failure cause next
    | .error reason => .fault reason

/-- Fails with a given failure. -/
def failWith (cause : Failure) : Parser Value := fun s => .failure cause s

end Descent.Parser
