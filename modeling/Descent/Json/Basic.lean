/-!
# JSON documents

A document as it is written: the members of an object in their order and with repetitions, a number
by its characters, and a string by its code points. Escapes can put single surrogates into a
string; such a string is well formed as syntax, but stands for no text (`text?`).
-/

namespace Descent

/-- A JSON value. -/
inductive Json where
  | null
  | bool (b : Bool)
  | number (numeral : List Char)
  | string (codes : List Nat)
  | array (items : List Json)
  | object (members : List (List Nat × Json))

namespace Json

/-- The text that a list of code points stands for, if none of them is a surrogate. -/
def text? (codes : List Nat) : Option String :=
  (codes.mapM char?).map .ofList
where
  char? (n : Nat) : Option Char := if h : n.isValidChar then some (Char.ofNatAux n h) else none

/-- The code points of a text. -/
def codes (text : String) : List Nat := text.toList.map Char.toNat

end Json

end Descent
