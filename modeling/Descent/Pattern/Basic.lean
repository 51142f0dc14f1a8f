import Descent.Pattern.Lowering
import Descent.Pattern.Program
import Descent.Pattern.Reader
import Descent.Text

/-!
# Patterns

A pattern is compiled once and then matched against the front of texts. Among the ways to match,
the preferred one counts: earlier branches before later ones, more rounds before fewer unless the
repetition is lazy. A text has no left context: its front is the start of the text for every
condition.

Where only UTF-8 text can match, the units are characters and every match ends between two of
them. Otherwise the units are bytes, and a match may end inside a character; only a pattern that
can match the empty text then gives up instead.
-/

namespace Descent

/-- A compiled pattern. -/
structure Pattern where
  program : Pattern.Program
  /-- The units are bytes, so that a match can end inside a character. -/
  bytewise : Bool
  nullable : Bool
deriving DecidableEq

namespace Pattern

/-- The pattern of an expression over characters. -/
def ofExpr (e : Expr) : Pattern := ⟨e.program, false, e.nullable⟩

/-- Compiles a pattern. -/
def compile (text : String) (o : Options) : Except PatternError Pattern := do
  let ast ← Ast.read text.toList o.ignoreWhitespace o.octal
  if o.nestLimit < ast.depth then throw .nestingTooDeep
  let (e, _) ← ast.lower o
  return ⟨e.program, !o.utf8, e.nullable⟩

/-- The byte offset at which the preferred match at the front of a text ends. -/
def matchEnd? (p : Pattern) (text : List Char) : Option Nat :=
  if p.bytewise then
    (p.program.matchEnd? byteUnits text).filter fun n => !p.nullable || (cut? n text).isSome
  else p.program.matchEnd? charUnits text

end Pattern

end Descent
