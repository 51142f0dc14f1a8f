import Descent.Failure
import Descent.Json.Printer
import Descent.Json.Reader
import Descent.Number.Decimal

/-!
# Failures as JSON

A failure is written as an object with the members `expected`, `position` and `kind`. It is read
from an object that has each of these exactly once, in any order and among any others, or from an
array of the three values in this order. A kind is its name, or an object whose only member has
that name and the value null.
-/

namespace Descent

namespace FailureKind

/-- The kind that a JSON value denotes. -/
def ofJson? : Json → Option FailureKind
  | .string codes => (Json.text? codes).bind ofName?
  | .object [(name, .null)] => (Json.text? name).bind ofName?
  | _ => none

end FailureKind

namespace Failure

/-! ## Writing -/

/-- The JSON text of a failure. -/
def toJson (f : Failure) : List Char :=
  "\x7b\"expected\":".toList ++ Json.quote f.expected.toList ++
    ",\"position\":".toList ++ (Nat.repr f.position).toList ++
    ",\"kind\":".toList ++ Json.quote f.kind.name.toList ++ ['}']

/-! ## Reading -/

/-- A text in a JSON value. -/
def textOf? : Json → Option String
  | .string codes => Json.text? codes
  | _ => none

/-- An offset in a JSON value: an integer in range, written with digits alone. -/
def positionOf? : Json → Option Nat
  | .number numeral => (Number.readNat? numeral).filter (· ≤ maxOffset)
  | _ => none

/-- The value of the only member with a name. -/
def member? (name : String) (members : List (List Nat × Json)) : Option Json :=
  match members.filter fun m => m.1 == Json.codes name with
  | [(_, value)] => some value
  | _ => none

/-- The failure with three JSON values for its parts. -/
def ofParts? (expected position kind : Json) : Option Failure := do
  return ⟨← textOf? expected, ← positionOf? position, ← FailureKind.ofJson? kind⟩

/-- The failure that a JSON value denotes. The names of the members of an object must be texts. -/
def ofJson? : Json → Option Failure
  | .object members => do
    if members.all fun m => (Json.text? m.1).isSome then
      ofParts? (← member? "expected" members) (← member? "position" members)
        (← member? "kind" members)
    else none
  | .array [expected, position, kind] => ofParts? expected position kind
  | _ => none

/-- Reads a failure from JSON text. -/
def readJson? (text : List Char) : Option Failure := (Json.read? text).bind ofJson?

end Failure

end Descent
