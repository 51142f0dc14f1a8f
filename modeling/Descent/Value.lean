import Descent.Number.Decimal
import Descent.Text

/-!
# Values

The values that parsers of the grammar language yield, and the functions that a grammar can apply
to them. All of these functions are total: where a value has not the form that a function is for,
the result is a fixed one.
-/

namespace Descent

/-- A value of the grammar language. -/
inductive Value where
  | null
  | bool (b : Bool)
  | int (n : Int)
  /-- A double-precision number, by its bits. -/
  | float (bits : UInt64)
  | text (s : String)
  | list (items : List Value)
  /-- The value of something optional that is there; `null` says that it is not. -/
  | present (v : Value)
  | object (members : List (String × Value))

namespace Value

/-- The value of an optional match. -/
def ofOption : Option Value → Value
  | some v => present v
  | none => null

def pair (v : Value × Value) : Value := list [v.1, v.2]

/-- The bytes of a text, the items of a list, and otherwise 0. -/
def length : Value → Nat
  | text s => utf8Length s.toList
  | list items => items.length
  | _ => 0

/-- The item of a list at an index, if there is one. -/
def item (i : Nat) : Value → Value
  | list items => (items[i]?).getD null
  | _ => null

/-- A value with a tag in front. -/
def tagged (tag : String) (v : Value) : Value := list [text tag, v]

/-! ## Arithmetic -/

/-- An integer of 64 bits with a sign, as the operand of an operation. -/
def operand? : Value → Option Int
  | int n => Number.checked n
  | _ => none

/-- Applies an operation to two integers. Division truncates. There is no result for a division by
zero, or if the result does not fit 64 bits. -/
def applyOperator (operator : String) (a b : Int) : Option Int :=
  Option.bind (match operator with
    | "+" => some (a + b)
    | "-" => some (a - b)
    | "*" => some (a * b)
    | "/" => if b = 0 then none else some (a.tdiv b)
    | _ => none) Number.checked

/-- Applies the operations of a chain from left to right. -/
def foldChain : Option Int → List Value → Option Int
  | acc, [] => acc
  | acc, list [text operator, v] :: rest =>
    let next := do applyOperator operator (← acc) (← v.operand?)
    foldChain next rest
  | _, _ => none

/-- The value of a first operand and a list of operators with their right operands, or null if any
step has no result. -/
def foldOperators : Value → Value
  | list [first, list chain] => ((foldChain first.operand? chain).map int).getD null
  | _ => null

end Value

end Descent
