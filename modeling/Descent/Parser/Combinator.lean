import Descent.Parser.Basic

/-!
# Primitives and combinators

The parsers that match a fixed text, the end, or nothing, and the ways to put parsers together:
one after another, one instead of another, and with changed values or labels.

A parser that runs several stages goes back to its own start when any of them fails. `map` and
`desc` have one stage and hand its state through. Among alternatives the first success wins; if
all fail, the failure that got furthest is reported, the first of those that got equally far.
-/

namespace Descent.Parser

variable {α β γ : Type}

/-! ## Primitives -/

/-- Succeeds without reading anything. -/
def succeed (value : α) : Parser α := fun s => .success value s

/-- Fails at once: `label` was expected here. -/
def fail (label : String) : Parser α := fun s => .failure (.structural label s.consumed) s

/-- Matches exactly the given text. -/
def literal (text : String) : Parser String := fun s =>
  if text.toList.isPrefixOf s.remaining then
    .ofAdvance (s.advance (utf8Length text.toList))
  else fail text s

/-- Matches the end of the text. -/
def eof : Parser String := fun s => if s.atEnd then succeed "" s else fail Failure.endOfInput s

/-! ## One parser -/

/-- Changes the value. -/
def map (f : α → β) (p : Parser α) : Parser β := fun s => (p s).map f

/-- Replaces the value. -/
def value (v : β) (p : Parser α) : Parser β := p.map fun _ => v

/-- Describes what `p` expects: its failures carry the label. -/
def desc (label : String) (p : Parser α) : Parser α := fun s =>
  (p s).mapFailure (·.relabel label)

/-! ## One after another -/

/-- Runs `p`, and then the parser that its value selects. -/
def bind (p : Parser α) (next : α → Parser β) : Parser β := fun s =>
  ((p s).bind fun v s' => next v s').restart s

/-- Runs both and pairs their values. -/
def product (p : Parser α) (q : Parser β) : Parser (α × β) := fun s =>
  ((p s).bind fun a s' => (q s').map fun b => (a, b)).restart s

/-- Runs both and keeps the first value. -/
def skip (p : Parser α) (trailing : Parser β) : Parser α := (product p trailing).map Prod.fst

/-- Runs both and keeps the second value. -/
def andThen (p : Parser α) (next : Parser β) : Parser β := (product p next).map Prod.snd

/-- Runs every parser from where the one before it stopped. -/
def chain : List (Parser α) → Parser (List α)
  | [], s => .success [] s
  | p :: ps, s => (p s).bind fun v s' => (chain ps s').map (v :: ·)

/-- Runs all of the parsers in order and lists their values. -/
def sequence (ps : List (Parser α)) : Parser (List α) := fun s => (chain ps s).restart s

/-- Matches `p` between two other parsers and keeps its value. -/
def between (p : Parser α) (opening : Parser β) (closing : Parser γ) : Parser α := fun s =>
  ((opening s).bind fun _ s₁ => (p s₁).bind fun v s₂ =>
    (closing s₂).map fun _ => v).restart s

/-- Matches `p` between two fixed texts. -/
def surroundedBy (p : Parser α) (before after : String) : Parser α :=
  p.between (literal before) (literal after)

/-! ## One instead of another -/

/-- Tries the parsers in order from `s`. Here `best` is the furthest failure so far. -/
def firstOf (s : State) : List (Parser α) → Option Failure → Reply α
  | [], none => fail "no alternatives" s
  | [], some e => .failure e s
  | p :: ps, best =>
    match p s with
    | .failure e _ => firstOf s ps (some (best.elim e (·.furthest e)))
    | r => r

/-- The first of the parsers that succeeds, or else the furthest failure. -/
def alternatives (ps : List (Parser α)) : Parser α := fun s => firstOf s ps none

/-- The first parser, or else the second. -/
def orElse (p q : Parser α) : Parser α := alternatives [p, q]

/-- `p` if it matches, and otherwise nothing. -/
def optional (p : Parser α) : Parser (Option α) := fun s =>
  match p s with
  | .success v s' => .success (some v) s'
  | .failure _ _ => .success none s
  | .fault r => .fault r
  | .unfinished => .unfinished

end Descent.Parser
