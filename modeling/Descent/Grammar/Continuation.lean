import Descent.Grammar.Basic

/-!
# Continuations

Ways to choose the grammar for what comes next from a value that has just been parsed, for use with
`Grammar.bind`. The parts that they are built from are fixed with the grammar.
-/

namespace Descent.Grammar.Continuation

/-- As many elements as the value is long. -/
def repeatLength (of : Grammar) : Value → Grammar := fun v => of.exactly v.length

/-- As many elements as the value says. -/
def count (of : Grammar) : Value → Grammar
  | .int n => if 0 ≤ n then of.exactly n.toNat else fail "count"
  | _ => fail "count"

/-- The text of a value; other values have the empty one. -/
def textOf : Value → String
  | .text s => s
  | _ => ""

/-- The same text once more. -/
def same : Value → Grammar := fun v => literal (textOf v)

/-- The inner grammar and then the text of the value between two fixed texts. Yields the value and
what is inside. -/
def close (of : Grammar) (before after : String) : Value → Grammar := fun v =>
  (of.skip (literal (before ++ textOf v ++ after))).map fun inner => .list [v, inner]

/-- One grammar for an integer above a bound, and another one for all other values. -/
def ifAbove (bound : Nat) (yes no : Grammar) : Value → Grammar
  | .int n => if (bound : Int) < n then yes else no
  | _ => no

/-- The grammar that is listed for the text of the value. -/
def case (cases : List (String × Grammar)) : Value → Grammar
  | .text s => (cases.lookup s).getD (fail "no case")
  | _ => fail "no case"

end Descent.Grammar.Continuation
