import Descent.State

/-!
# Failures

A failure says what was expected, at which offset, and of which kind the mismatch is. When several
attempts at one place fail, the failure that got furthest is the one worth reporting, and of two
that got equally far the earlier attempt's.

Main statements: `furthest` is associative and idempotent (`furthest_assoc`, `furthest_self`), and
its position is the larger of the two (`furthest_position`).
-/

namespace Descent

/-- What kind of mismatch a failure reports. -/
inductive FailureKind where
  /-- A required piece of input is missing or different. -/
  | structural
  /-- A repetition ended before its least number of elements. -/
  | quantity
  /-- The grammar matched, and input is left after the match. -/
  | trailingInput
deriving DecidableEq, Repr

namespace FailureKind

/-- The kind as it reads in a sentence. -/
def text : FailureKind → String
  | structural => "structural"
  | quantity => "quantity"
  | trailingInput => "trailing input"

/-- The kind as an identifier. -/
def name : FailureKind → String
  | structural => "structural"
  | quantity => "quantity"
  | trailingInput => "trailing_input"

/-- The kind that an identifier names. -/
def ofName? : String → Option FailureKind
  | "structural" => some structural
  | "quantity" => some quantity
  | "trailing_input" => some trailingInput
  | _ => none

/-- Advice for the reader of a report. -/
def help : FailureKind → Option String
  | structural => none
  | quantity => some "too few repetitions matched here"
  | trailingInput => some "the grammar matched, but input remains after it"

end FailureKind

/-- What was expected, at which byte offset, and the kind of the mismatch. -/
structure Failure where
  expected : String
  position : Nat
  kind : FailureKind
deriving DecidableEq, Repr

namespace Failure

/-- The label for a match that should have reached the end. -/
def endOfInput : String := "end of input"

def structural (expected : String) (position : Nat) : Failure := ⟨expected, position, .structural⟩

/-- The match ended at `position` and input is left. -/
def trailingInput (position : Nat) : Failure := ⟨endOfInput, position, .trailingInput⟩

/-- Replaces what was expected. -/
def relabel (f : Failure) (label : String) : Failure := { f with expected := label }

def withKind (f : Failure) (kind : FailureKind) : Failure := { f with kind := kind }

/-- The one of two failures that got further; of two at the same position, the first. -/
def furthest (f g : Failure) : Failure := if f.position < g.position then g else f

/-- The failure in one sentence. -/
def message (f : Failure) : String :=
  "expected " ++ f.expected ++ " at offset " ++ Nat.repr f.position

@[simp] theorem furthest_self (f : Failure) : f.furthest f = f := by simp [furthest]

theorem furthest_position (f g : Failure) :
    (f.furthest g).position = max f.position g.position := by
  unfold furthest
  split <;> omega

theorem furthest_assoc (f g h : Failure) :
    (f.furthest g).furthest h = f.furthest (g.furthest h) := by
  unfold furthest
  by_cases hfg : f.position < g.position <;> by_cases hgh : g.position < h.position <;>
    simp [hfg, hgh]
  · omega
  · omega

end Failure

end Descent
