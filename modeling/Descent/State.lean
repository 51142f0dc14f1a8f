import Descent.Text

/-!
# Parsing states

A state is the text that is still to be read together with the byte offset at which it starts in
the whole input. Offsets are 64-bit: no state stands beyond `maxOffset`, which the type records.

Moving a state forward is the one operation that can go wrong as a fault rather than as an answer
of the parser: the offset may fall inside a character, or the counter may pass its bound.

Main statement: a state moves forward by `n` bytes exactly when the text has a prefix of `n` bytes
and the counter has room for them (`State.advance_eq_ok_iff`).
-/

namespace Descent

/-- The largest offset, 2⁶⁴ − 1. As an upper bound on a number of repetitions it means that there is
none. -/
def maxOffset : Nat := UInt64.size - 1

/-- Ways in which a run can break down without an answer. -/
inductive Fault where
  /-- An offset does not fall between two characters of the text. -/
  | splitCharacter
  /-- An offset passes `maxOffset`. -/
  | offsetOverflow
deriving DecidableEq, Repr

/-- What is left to read, and the number of bytes read before it. -/
structure State where
  remaining : List Char
  consumed : Nat
  consumed_le : consumed ≤ maxOffset
deriving DecidableEq

namespace State

/-- The state before any of the text has been read. -/
def start (text : List Char) : State := ⟨text, 0, Nat.zero_le _⟩

/-- The state with the given text to read and the given offset, if the offset is in range. -/
def at? (remaining : List Char) (consumed : Nat) : Option State :=
  if h : consumed ≤ maxOffset then some ⟨remaining, consumed, h⟩ else none

/-- Nothing is left to read. -/
def atEnd (s : State) : Bool := s.remaining.isEmpty

/-- Moves forward by a number of bytes and gives the text passed over. -/
def advance (s : State) (bytes : Nat) : Except Fault (List Char × State) :=
  match cut? bytes s.remaining with
  | none => .error .splitCharacter
  | some (front, rest) =>
    if h : s.consumed + bytes ≤ maxOffset then .ok (front, ⟨rest, s.consumed + bytes, h⟩)
    else .error .offsetOverflow

theorem ext_iff' {s t : State} :
    s = t ↔ s.remaining = t.remaining ∧ s.consumed = t.consumed := by
  cases s; cases t; simp

/-- **A state moves forward over exactly the prefix of the given length.** -/
theorem advance_eq_ok_iff {s t : State} {bytes : Nat} {front : List Char} :
    s.advance bytes = .ok (front, t) ↔
      s.remaining = front ++ t.remaining ∧ utf8Length front = bytes ∧
        t.consumed = s.consumed + bytes := by
  unfold advance
  constructor
  · intro h
    split at h
    · cases h
    · next f r hcut =>
      split at h
      · obtain ⟨ht, hn⟩ := cut?_eq_some_iff.1 hcut
        cases h
        exact ⟨ht, hn, rfl⟩
      · cases h
  · rintro ⟨ht, hn, hc⟩
    rw [cut?_eq_some_iff.2 ⟨ht, hn⟩]
    have hle : s.consumed + bytes ≤ maxOffset := hc ▸ t.consumed_le
    simp only [hle, dif_pos]
    congr 2
    exact ext_iff'.2 ⟨rfl, hc.symm⟩

/-- A state fails to move inside a character or past the end, and only there. -/
theorem advance_eq_split_iff {s : State} {bytes : Nat} :
    s.advance bytes = .error .splitCharacter ↔ cut? bytes s.remaining = none := by
  unfold advance
  split
  · simp_all
  · split <;> simp_all

/-- Only a text that does not fit makes the counter pass its bound. -/
theorem lt_of_advance_eq_overflow {s : State} {bytes : Nat}
    (h : s.advance bytes = .error .offsetOverflow) :
    maxOffset < s.consumed + utf8Length s.remaining := by
  unfold advance at h
  split at h
  · simp at h
  · next front rest hcut =>
    obtain ⟨ht, hn⟩ := cut?_eq_some_iff.1 hcut
    split at h
    · cases h
    · rw [ht, utf8Length_append]
      omega

end State

end Descent
