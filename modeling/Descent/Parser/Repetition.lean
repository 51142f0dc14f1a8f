import Descent.Parser.Combinator

/-!
# Repetition

Two loops. `times` counts: it runs its parser until an upper bound is met or the parser fails,
and then asks for a least number of values. With the bound `maxOffset`, which stands for "no
bound", it also stops at a match of the empty text, once it has its least number, because such
matches would never end. `delimited` reads a first element, and then delimiters and elements for
as long as each round gets past where it began.

Neither loop can run forever. The rounds of `times` are counted; those of `delimited` strictly
increase an offset that has a bound.
-/

namespace Descent.Parser

variable {α β : Type}

/-! ## Counted repetition -/

/-- Collects up to `rounds` further values from `s`, where `values` holds in reverse those that
the run from `start` already has. A failure is final only while fewer than `least` are there; if
`endless`, a match of the empty text beyond those ends the loop and is dropped. -/
def collect (p : Parser α) (least : Nat) (endless : Bool) (start : State) :
    Nat → List α → State → Reply (List α)
  | 0, values, s =>
    if values.length < least then
      .failure ⟨"at least " ++ Nat.repr least ++ " repetitions", s.consumed, .quantity⟩ start
    else .success values.reverse s
  | rounds + 1, values, s =>
    match p s with
    | .success v s' =>
      if endless && s'.consumed == s.consumed && least ≤ values.length then
        .success values.reverse s
      else collect p least endless start rounds (v :: values) s'
    | .failure e _ =>
      if values.length < least then .failure (e.withKind .quantity) start
      else .success values.reverse s
    | .fault r => .fault r
    | .unfinished => .unfinished

/-- Between `least` and `most` values in a row, as many as there are. -/
def times (p : Parser α) (least most : Nat) : Parser (List α) := fun s =>
  collect p least (most == maxOffset) s most [] s

/-- Exactly `count` values in a row. -/
def exactly (p : Parser α) (count : Nat) : Parser (List α) := p.times count count

/-- Up to `most` values in a row. -/
def atMost (p : Parser α) (most : Nat) : Parser (List α) := p.times 0 most

/-! ## Delimited repetition -/

/-- What stands between the elements of a repetition: `parser` if it is given, else a fixed text if
one is given, else nothing. -/
structure Delimiter (γ : Type) where
  text : Option String := none
  parser : Option γ := none

namespace Delimiter

variable {γ : Type}

/-- Sets the text, and leaves a parser that was given in force. -/
def withText (d : Delimiter γ) (text : String) : Delimiter γ := { d with text := some text }

/-- Sets the parser, which takes precedence over a text. -/
def withParser (d : Delimiter γ) (parser : γ) : Delimiter γ := { d with parser := some parser }

/-- The delimiter in force, where `ofText` matches a fixed text. -/
def resolve (ofText : String → γ) (d : Delimiter γ) : Option γ := d.parser.or (d.text.map ofText)

end Delimiter

/-- One round of a delimited repetition: the delimiter, if there is one, and an element. -/
def round (p : Parser α) : Option (Parser β) → Parser α
  | some d => fun s => (d s).bind fun _ s' => p s'
  | none => p

/-- Runs `p` from `s` for as long as each match ends beyond where it began. Here `values` holds in
reverse what has been read before. -/
def advancing (p : Parser α) (values : List α) (s : State) : Reply (List α) :=
  match p s with
  | .success v s' =>
    if s.consumed < s'.consumed then advancing p (v :: values) s'
    else .success values.reverse s
  | .failure _ _ => .success values.reverse s
  | .fault r => .fault r
  | .unfinished => .unfinished
termination_by maxOffset - s.consumed
decreasing_by
  have := s'.consumed_le
  omega

/-- Elements with delimiters between them. Without a first element this fails if
`atLeastOne`, and otherwise succeeds with no values. -/
def delimited (p : Parser α) (atLeastOne : Bool) (delimiter : Option (Parser β)) :
    Parser (List α) := fun s =>
  match p s with
  | .success v s' => advancing (round p delimiter) [v] s'
  | .failure e _ => if atLeastOne then .failure (e.withKind .quantity) s else .success [] s
  | .fault r => .fault r
  | .unfinished => .unfinished

/-- One element or more, with delimiters between them. -/
def oneOrMore (p : Parser α) (d : Delimiter (Parser Unit)) : Parser (List α) :=
  p.delimited true (d.resolve fun text => (literal text).value ())

/-- Any number of elements, with delimiters between them. -/
def zeroOrMore (p : Parser α) (d : Delimiter (Parser Unit)) : Parser (List α) :=
  p.delimited false (d.resolve fun text => (literal text).value ())

end Descent.Parser
