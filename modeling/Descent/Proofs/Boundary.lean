import Descent.Pattern.Basic

/-!
# Where matches end

A pattern that is matched by characters ends every match between two of them. The run of its
program keeps two facts: its offset is the number of bytes read, and the best match so far ends at
a boundary of what has been read.
-/

namespace Descent.Pattern

namespace Program.Run

/-- The run has read `front`, and its best match is a prefix of it. -/
structure Reads (r : Run) (front : List Char) : Prop where
  offset : r.offset = utf8Length front
  best {n} : r.best = some n → ∃ a b, front = a ++ b ∧ utf8Length a = n

theorem Reads.settle {r : Run} {front : List Char} (p : Program)
    (hoff : r.offset = utf8Length front)
    (hbest : ∀ n, r.best = some n → ∃ a b, front = a ++ b ∧ utf8Length a = n) :
    (r.settle p).Reads front where
  offset := hoff
  best {n} h := by
    rw [Run.settle] at h
    split at h
    · cases h
      exact ⟨front, [], by simp, hoff.symm⟩
    · exact hbest n h

theorem reads_start (p : Program) (text : List Char) : (Run.start p text).Reads [] :=
  .settle p rfl fun _ h => by cases h

theorem Reads.feed {r : Run} {front : List Char} (h : r.Reads front) (p : Program) (c : Char)
    (after : Side) : (r.feedAll p c after (charUnits c)).Reads (front ++ [c]) := by
  refine .settle p ?_ fun n hn => ?_
  · simp [h.offset]
  · obtain ⟨a, b, rfl, ha⟩ := h.best hn
    exact ⟨a, b ++ [c], by simp, ha⟩

end Program.Run

/-- The end of a match is the best one of some run, and has what every step of the run keeps. -/
theorem Program.exists_run_of_finish {p : Program} {motive : List Char → Run → Prop}
    (hfeed : ∀ c rest r, motive (c :: rest) r →
      motive rest (r.feedAll p c (.ofText rest) (charUnits c)))
    {text : List Char} {r : Run} {n : Nat} (hr : motive text r)
    (h : p.finish charUnits text r = some n) : ∃ rest r', motive rest r' ∧ r'.best = some n := by
  induction text generalizing r with
  | nil => exact ⟨[], r, hr, h⟩
  | cons c text ih =>
    rw [finish] at h
    split at h
    · exact ⟨c :: text, r, hr, h⟩
    · exact ih (hfeed c text r hr) h

/-- **A match by characters is a prefix of the text.** -/
theorem Program.matchEnd?_charUnits {p : Program} {text : List Char} {n : Nat}
    (h : p.matchEnd? charUnits text = some n) :
    ∃ front rest, text = front ++ rest ∧ utf8Length front = n := by
  have hfeed : ∀ c rest (r : Run), (∃ front, text = front ++ c :: rest ∧ r.Reads front) →
      ∃ front, text = front ++ rest ∧
        (r.feedAll p c (.ofText rest) (charUnits c)).Reads front := by
    rintro c rest r ⟨front, htext, hr⟩
    exact ⟨front ++ [c], by simp [htext], hr.feed p c _⟩
  obtain ⟨rest, r, ⟨front, rfl, hr⟩, hbest⟩ :=
    exists_run_of_finish (motive := fun rest r => ∃ front, text = front ++ rest ∧ r.Reads front)
      hfeed ⟨[], rfl, Run.reads_start p text⟩ h
  obtain ⟨a, b, rfl, ha⟩ := hr.best hbest
  exact ⟨a, b ++ rest, by simp, ha⟩

/-- **A program that does not accept at once reads something.** -/
theorem Program.matchEnd?_pos {p : Program} {text : List Char} {n : Nat}
    (hstart : (Run.start p text).best = none) (h : p.matchEnd? charUnits text = some n) :
    0 < n := by
  have hfeed : ∀ c (rest : List Char) (r : Run), (∀ n, r.best = some n → 0 < n) →
      ∀ n, (r.feedAll p c (.ofText rest) (charUnits c)).best = some n → 0 < n := by
    intro c rest r hr n hn
    have hc := c.utf8Size_pos
    simp only [charUnits, Run.feedAll, Run.feed, Run.settle] at hn
    split at hn
    · cases hn
      omega
    · exact hr n hn
  obtain ⟨rest, r, hr, hbest⟩ :=
    exists_run_of_finish (motive := fun _ r => ∀ n, r.best = some n → 0 < n)
      hfeed (fun n hn => by simp [hstart] at hn) h
  exact hr n hbest

/-- **A pattern that is matched by characters never ends inside one.** -/
theorem cut?_isSome_of_matchEnd? {p : Pattern} (hp : p.bytewise = false) {text : List Char}
    {n : Nat} (h : p.matchEnd? text = some n) : (cut? n text).isSome := by
  have h' : p.program.matchEnd? charUnits text = some n := by simpa [matchEnd?, hp] using h
  obtain ⟨front, rest, rfl, rfl⟩ := Program.matchEnd?_charUnits h'
  rw [cut?_eq_some_iff.2 ⟨rfl, rfl⟩]
  rfl

end Descent.Pattern
