import Descent.Proofs.Spans

/-!
# Locating any failure

A failure need not come from a run on the text in which it is located: its position may lie past the
end or inside a character. The span that a report shows is fixed by the boundaries of the text all
the same. It begins at the last boundary that is no later than the position, and there is always one
at most three bytes back, since no character takes more than four. It ends with the character that
begins there.

What a boundary is does not depend on how this library walks through a text: `Boundary` is the
validity of a position in a string, that is, the first byte of a character or the end.

Main statement: `Report.located_snaps`.
-/

namespace Descent

variable {text front rest : List Char} {n : Nat}

/-! ## Boundaries -/

/-- The offset is a valid position in the text as a string. -/
def Boundary (text : List Char) (offset : Nat) : Prop :=
  String.Pos.Raw.IsValid (.ofList text) ⟨offset⟩

theorem utf8ByteSize_ofList (text : List Char) :
    (String.ofList text).utf8ByteSize = utf8Length text := by
  induction text with
  | nil => rfl
  | cons c text ih =>
    rw [← List.singleton_append, String.ofList_append, String.utf8ByteSize_append, ih,
      ← String.singleton_eq_ofList, String.utf8ByteSize_singleton, utf8Length_append,
      utf8Length_cons, utf8Length_nil, Nat.add_zero]

/-- **A text splits exactly at its boundaries.** -/
theorem boundary_iff :
    Boundary text n ↔ ∃ front rest, text = front ++ rest ∧ utf8Length front = n := by
  rw [Boundary, String.Pos.Raw.isValid_ofList]
  simp only [utf8ByteSize_ofList]
  constructor
  · rintro ⟨i, hi⟩
    exact ⟨text.take i, text.drop i, (List.take_append_drop i text).symm, hi.symm⟩
  · rintro ⟨front, rest, rfl, hn⟩
    exact ⟨front.length, by rw [List.take_left, hn]⟩

theorem boundary_iff_isSome_cut? : Boundary text n ↔ (cut? n text).isSome := by
  rw [boundary_iff, Option.isSome_iff_exists]
  simp only [Prod.exists, cut?_eq_some_iff]

/-- Strictly inside a character there is no boundary. -/
theorem not_boundary_inside (hlt : utf8Length front < n)
    (hn : n < utf8Length front + leadWidth rest) : ¬ Boundary (front ++ rest) n := by
  cases rest with
  | nil =>
    rw [leadWidth, Nat.add_zero] at hn
    omega
  | cons c rest =>
    rw [boundary_iff_isSome_cut?, cut?_inside hlt hn]
    exact Bool.false_ne_true

theorem boundary_front (front rest : List Char) : Boundary (front ++ rest) (utf8Length front) :=
  boundary_iff.2 ⟨front, rest, rfl, rfl⟩

/-- Behind the character at a boundary is the next boundary. -/
theorem boundary_behind (front rest : List Char) :
    Boundary (front ++ rest) (utf8Length front + leadWidth rest) := by
  cases rest with
  | nil => exact boundary_front front []
  | cons c rest => exact boundary_iff.2 ⟨front ++ [c], rest, by simp, by simp [leadWidth]⟩

theorem leadWidth_le_utf8Length (rest : List Char) : leadWidth rest ≤ utf8Length rest := by
  cases rest with
  | nil => exact Nat.le_refl _
  | cons c rest =>
    rw [utf8Length_cons]
    exact Nat.le_add_right _ _

theorem leadWidth_le_four (rest : List Char) : leadWidth rest ≤ 4 := by
  cases rest with
  | nil => exact Nat.zero_le _
  | cons c rest => exact c.utf8Size_le_four

/-! ## Reports -/

/-- **Every failure is located.** Whatever its position, walking back from it through the text
arrives, and the report carries the failure, the name and the text unchanged. Its span begins at the
last boundary up to the position, or up to the end of the text if the position lies beyond that, and
at most three bytes are skipped. It has the width of the character there and so ends at a boundary;
it is empty exactly at the end. A position in the text lies within it, and a failure at its offset
has the same span. -/
theorem Report.located_snaps (f : Failure) (name : String) (source : List Char) :
    let reached := min f.position (utf8Length source)
    ∃ span : Span, located f name source = .parse f name source span ∧
      Span.search? f.position source = some span ∧
      Boundary source span.offset ∧ span.offset ≤ reached ∧ reached - span.offset ≤ 3 ∧
      (∀ n, span.offset < n → n ≤ reached → ¬ Boundary source n) ∧
      Boundary source (span.offset + span.length) ∧
      span.offset + span.length ≤ utf8Length source ∧
      (∃ front rest, source = front ++ rest ∧ utf8Length front = span.offset ∧
        leadWidth rest = span.length) ∧
      (span.length = 0 ↔ span.offset = utf8Length source) ∧
      (f.position < utf8Length source →
        span.offset ≤ f.position ∧ f.position < span.offset + span.length) ∧
      located { f with position := span.offset } name source =
        .parse { f with position := span.offset } name source span := by
  intro reached
  obtain ⟨front, rest, rfl, hspan, hle, hrest⟩ := Span.exists_around (Nat.zero_le f.position) source
  rw [Nat.zero_add] at hspan hle hrest
  have hlength : utf8Length (front ++ rest) = utf8Length front + utf8Length rest :=
    utf8Length_append front rest
  have hwidth := leadWidth_le_utf8Length rest
  have hfour := leadWidth_le_four rest
  have hfront : utf8Length front ≤ reached := Nat.le_min.2 ⟨hle, hlength ▸ Nat.le_add_right _ _⟩
  -- The position is clamped only where no character is left.
  have hreached : reached < utf8Length front + leadWidth rest ∨ reached = utf8Length front := by
    rcases hrest with rfl | hlt
    · have hend : reached ≤ utf8Length (front ++ []) := Nat.min_le_right _ _
      rw [List.append_nil] at hend
      exact .inr (Nat.le_antisymm hend hfront)
    · exact .inl (Nat.lt_of_le_of_lt (Nat.min_le_left _ _) hlt)
  have hskipped : reached - utf8Length front ≤ 3 := by omega
  have hempty : leadWidth rest = 0 ↔ utf8Length front = utf8Length (front ++ rest) := by
    rw [leadWidth_eq_zero, hlength, ← utf8Length_eq_zero]
    omega
  refine ⟨⟨utf8Length front, leadWidth rest⟩, ?_, ?_, boundary_front front rest, hfront, hskipped,
    fun n hlt hn => not_boundary_inside hlt ?_, boundary_behind front rest, ?_,
    ⟨front, rest, rfl, rfl, rfl⟩, hempty, fun hlt => ⟨hle, ?_⟩, located_append rfl name⟩
  · rw [located, hspan]
  · rw [Span.search?_eq_around, hspan]
  · dsimp only at hlt
    omega
  · rw [hlength]
    exact Nat.add_le_add_left hwidth _
  · rcases hrest with rfl | hin
    · rw [List.append_nil] at hlt
      omega
    · exact hin

/-- At the last byte of a character of four bytes, and past the end. -/
theorem Report.located_snaps_emoji :
    (∃ span, located ⟨"x", 4, .structural⟩ "n" ['a', '😀'] =
        .parse ⟨"x", 4, .structural⟩ "n" ['a', '😀'] span ∧ span = ⟨1, 4⟩ ∧
        4 < utf8Length ['a', '😀'] ∧ 4 < span.offset + span.length) ∧
    ∃ span, located ⟨"x", maxOffset, .trailingInput⟩ "n" ['a', '😀'] =
        .parse ⟨"x", maxOffset, .trailingInput⟩ "n" ['a', '😀'] span ∧ span = ⟨5, 0⟩ := by
  have hlt : 4 < utf8Length ['a', '😀'] := by decide
  obtain ⟨span, hreport, -, -, -, -, -, -, -, -, -, hin, -⟩ :=
    located_snaps ⟨"x", 4, .structural⟩ "n" ['a', '😀']
  obtain ⟨last, hlast, -⟩ := located_snaps ⟨"x", maxOffset, .trailingInput⟩ "n" ['a', '😀']
  have hspan : span = ⟨1, 4⟩ := by
    have h : located ⟨"x", 4, .structural⟩ "n" ['a', '😀'] = .parse _ _ _ ⟨1, 4⟩ := rfl
    rw [h] at hreport
    cases hreport
    rfl
  have hend : last = ⟨5, 0⟩ := by
    have h : located ⟨"x", maxOffset, .trailingInput⟩ "n" ['a', '😀'] = .parse _ _ _ ⟨5, 0⟩ := rfl
    rw [h] at hlast
    cases hlast
    rfl
  exact ⟨⟨span, hreport, hspan, hlt, (hin hlt).2⟩, last, hlast, hend⟩

end Descent
