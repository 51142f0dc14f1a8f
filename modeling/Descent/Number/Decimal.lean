/-!
# Decimal numerals

Numerals as they are written: digits, a minus sign, and a fraction. Reading refuses a text that is
no numeral. Integers must fit 64 bits with a sign (`InRange`).
-/

namespace Descent.Number

/-- The number that a list of decimal digits denotes, after the digits for `n`. -/
def ofDigits (n : Nat) (digits : List Char) : Nat :=
  digits.foldl (fun n c => 10 * n + (c.toNat - '0'.toNat)) n

/-- Reads one digit or more, and nothing else. -/
def readNat? (text : List Char) : Option Nat :=
  if !text.isEmpty && text.all Char.isDigit then some (ofDigits 0 text) else none

/-- The integers of 64 bits with a sign. -/
def InRange (n : Int) : Prop := -0x8000000000000000 ≤ n ∧ n < 0x8000000000000000

instance (n : Int) : Decidable (InRange n) := inferInstanceAs (Decidable (_ ∧ _))

/-- The number, if it is in range. -/
def checked (n : Int) : Option Int := if InRange n then some n else none

theorem checked_of_inRange {n : Int} (h : InRange n) : checked n = some n := if_pos h

theorem bind_checked_eq_some_iff {o : Option Int} {n : Int} :
    o.bind checked = some n ↔ o = some n ∧ InRange n := by
  rw [Option.bind_eq_some_iff]
  constructor
  · rintro ⟨m, rfl, hm⟩
    by_cases hrange : InRange m
    · rw [checked_of_inRange hrange] at hm
      cases hm
      exact ⟨rfl, hrange⟩
    · rw [checked, if_neg hrange] at hm
      cases hm
  · rintro ⟨rfl, hrange⟩
    exact ⟨n, rfl, checked_of_inRange hrange⟩

/-- Reads digits after an optional minus sign, if the number is in range. -/
def readInt? (text : List Char) : Option Int :=
  Option.bind (match text with
    | '-' :: digits => (readNat? digits).map fun n : Nat => -(n : Int)
    | digits => (readNat? digits).map fun n : Nat => (n : Int)) checked

/-- The number `coefficient / 10 ^ places`, or its negative. Zero has a sign, too. -/
structure Decimal where
  negative : Bool
  coefficient : Nat
  places : Nat
deriving DecidableEq, Repr

/-- Reads digits, and digits after a point if there is one. -/
def readUnsigned? (negative : Bool) (text : List Char) : Option Decimal :=
  let (whole, after) := text.span Char.isDigit
  match after with
  | [] => (readNat? whole).map fun n => ⟨negative, n, 0⟩
  | '.' :: fraction =>
    match readNat? whole, readNat? fraction with
    | some n, some _ => some ⟨negative, ofDigits n fraction, fraction.length⟩
    | _, _ => none
  | _ => none

/-- Reads a numeral after an optional minus sign. -/
def readDecimal? : List Char → Option Decimal
  | '-' :: text => readUnsigned? true text
  | text => readUnsigned? false text

end Descent.Number
