import Descent.Parser.Combinator
import Descent.Pattern.Basic

/-!
# Parsing by pattern

The parser that matches a pattern at the cursor and yields the text of the match. The pattern sees
only the text that is left.
-/

namespace Descent.Parser

/-- Matches a pattern. A match that ends inside a character is a fault. -/
def matching (p : Pattern) (label : String) : Parser String := fun s =>
  match p.matchEnd? s.remaining with
  | some n => .ofAdvance (s.advance n)
  | none => fail label s

end Descent.Parser
