import Descent.Parser.Basic
import Descent.Pattern.Ast

/-!
# Reports

A report is what a reader is shown: a failure together with the name and text of its source and
the span that it points at, or a pattern that does not compile.

A failure points at the character at its position. A position past the end points at the end, and
one inside a character at that character.
-/

namespace Descent

/-- A place in a text: a byte offset and the number of bytes from there on. -/
structure Span where
  offset : Nat
  length : Nat
deriving DecidableEq, Repr

namespace Span

/-- The character of a text that holds the byte at `position`, where `offset` bytes come before the
text. At the end there is no character, and the span is empty. -/
def around (position : Nat) : (offset : Nat) → List Char → Span
  | offset, [] => ⟨offset, 0⟩
  | offset, c :: rest =>
    if position < offset + c.utf8Size then ⟨offset, c.utf8Size⟩
    else around position (offset + c.utf8Size) rest

end Span

/-- What a reader is shown. -/
inductive Report where
  | parse (failure : Failure) (name : String) (source : List Char) (span : Span)
  | invalidPattern (pattern : String) (cause : Pattern.PatternError)

namespace Report

/-- The report of a failure in a named text. -/
def located (f : Failure) (name : String) (source : List Char) : Report :=
  .parse f name source (Span.around f.position 0 source)

/-- The report in one sentence. -/
def message : Report → String
  | parse f _ _ _ => "Parse error: " ++ f.message
  | invalidPattern pattern _ => "Invalid pattern '" ++ pattern ++ "'"

/-- The identifier of this sort of report. -/
def code : Report → String
  | parse .. => "weave::parse::expected"
  | invalidPattern .. => "weave::pattern::invalid"

/-- Advice for the reader. -/
def help : Report → Option String
  | parse f _ _ _ => f.kind.help
  | invalidPattern .. => some "patterns use the syntax of the `regex` crate"

/-- What the report points at, with what is said there. -/
def labels : Report → List (String × Span)
  | parse _ _ _ span => [("parsing stopped here", span)]
  | invalidPattern .. => []

def failure? : Report → Option Failure
  | parse f _ _ _ => some f
  | invalidPattern .. => none

/-- What lies behind the report. -/
def cause : Report → Option String
  | parse .. => none
  | invalidPattern .. => some "error parsing pattern 0"

end Report

/-- Runs a parser on a whole named text and reports its failure. -/
def Parser.parseSource {α : Type} (p : Parser α) (name : String) (text : List Char) :
    Outcome Report α :=
  (p.parse text).mapError fun f => .located f name text

end Descent
