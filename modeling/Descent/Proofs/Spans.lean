import Descent.Proofs.Position

/-!
# Spans found by walking back

A report points at the character that holds the byte at a position. `Span.around` finds it from the
front of the text. It can also be found from the position itself: clamp it to the text, walk back
byte by byte to the last boundary between two characters, and split the text there. Each of these
steps is partial. The walk would have no answer if it went below offset 0, and a text does not split
inside a character.

Main statement: the walk always arrives, and at the same span (`Span.search?_eq_around`).
-/

namespace Descent

/-! ## Boundaries -/

/-- Inside a character there is no boundary. -/
theorem cut?_inside {front rest : List Char} {c : Char} {n : Nat} (hlt : utf8Length front < n)
    (hn : n < utf8Length front + c.utf8Size) : cut? n (front ++ c :: rest) = none := by
  by_contra hne
  obtain ⟨⟨a, b⟩, hab⟩ := Option.ne_none_iff_exists'.1 hne
  obtain ⟨htext, rfl⟩ := cut?_eq_some_iff.1 hab
  rcases List.append_eq_append_iff.1 htext with ⟨middle, rfl, hmiddle⟩ | ⟨middle, rfl, -⟩
  · -- What lies between `front` and the split is empty, or holds all of `c`.
    cases middle with
    | nil =>
      rw [List.append_nil] at hlt
      exact absurd hlt (Nat.lt_irrefl _)
    | cons d middle =>
      obtain ⟨rfl, -⟩ := List.cons.inj hmiddle
      rw [utf8Length_append, utf8Length_cons] at hn
      omega
  · rw [utf8Length_append] at hlt
    omega

namespace Span

/-- The last boundary at an offset or before it, one byte after another. -/
def boundaryBefore? (text : List Char) : (offset : Nat) → Option Nat
  | 0 => if (cut? 0 text).isSome then some 0 else none
  | n + 1 => if (cut? (n + 1) text).isSome then some (n + 1) else boundaryBefore? text n

/-- The character that holds the byte at a position, found from there. -/
def search? (position : Nat) (text : List Char) : Option Span := do
  let offset ← boundaryBefore? text (min position (utf8Length text))
  let (_, rest) ← cut? offset text
  return ⟨offset, leadWidth rest⟩

/-- The walk stops at the first boundary that it meets. -/
theorem boundaryBefore?_eq {text : List Char} {m n : Nat} (hm : (cut? m text).isSome) (hmn : m ≤ n)
    (hbetween : ∀ k, m < k → k ≤ n → cut? k text = none) :
    boundaryBefore? text n = some m := by
  induction n with
  | zero =>
    obtain rfl : m = 0 := by omega
    simp [boundaryBefore?, hm]
  | succ n ih =>
    by_cases hlast : m = n + 1
    · subst hlast
      simp [boundaryBefore?, hm]
    · have hnone : cut? (n + 1) text = none := hbetween (n + 1) (by omega) (by omega)
      rw [boundaryBefore?, hnone]
      exact ih (by omega) fun k hk hkn => hbetween k hk (by omega)

/-- Where the span of a position begins: at a boundary, with the position in the character there or
behind the end of the text. -/
theorem exists_around {position offset : Nat} (h : offset ≤ position) (text : List Char) :
    ∃ front rest, text = front ++ rest ∧
      around position offset text = ⟨offset + utf8Length front, leadWidth rest⟩ ∧
      offset + utf8Length front ≤ position ∧
      (rest = [] ∨ position < offset + utf8Length front + leadWidth rest) := by
  induction text generalizing offset with
  | nil => exact ⟨[], [], rfl, rfl, h, .inl rfl⟩
  | cons c text ih =>
    rw [around]
    by_cases hc : position < offset + c.utf8Size
    · rw [if_pos hc]
      exact ⟨[], c :: text, rfl, rfl, h, .inr hc⟩
    · rw [if_neg hc]
      have hc' : offset + c.utf8Size ≤ position := Nat.le_of_not_lt hc
      obtain ⟨front, rest, rfl, hspan, hle, hrest⟩ := ih hc'
      refine ⟨c :: front, rest, rfl, ?_, ?_, ?_⟩
      · rw [hspan, utf8Length_cons, Nat.add_assoc]
      · rw [utf8Length_cons]
        omega
      · rw [utf8Length_cons]
        exact hrest.imp_right fun hlt => by omega

/-- **Walking back finds the same span.** It stays within the text, ends between two characters, and
never goes below the front of the text. -/
theorem search?_eq_around (position : Nat) (text : List Char) :
    search? position text = some (around position 0 text) := by
  obtain ⟨front, rest, rfl, hspan, hle, hrest⟩ := exists_around (Nat.zero_le position) text
  rw [Nat.zero_add] at hspan hle hrest
  have hcut : cut? (utf8Length front) (front ++ rest) = some (front, rest) :=
    cut?_eq_some_iff.2 ⟨rfl, rfl⟩
  have hwalk : boundaryBefore? (front ++ rest) (min position (utf8Length (front ++ rest))) =
      some (utf8Length front) := by
    rw [utf8Length_append]
    refine boundaryBefore?_eq (by simp [hcut]) (by omega) fun k hk hkn => ?_
    cases rest with
    | nil =>
      rw [utf8Length_nil] at hkn
      omega
    | cons c rest =>
      have hlt : position < utf8Length front + c.utf8Size := hrest.resolve_left (by simp)
      exact cut?_inside hk (by omega)
  rw [search?, hwalk, hspan]
  simp [hcut]

end Span

end Descent
