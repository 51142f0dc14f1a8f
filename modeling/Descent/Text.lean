/-!
# Text measured in UTF-8 bytes

Text is a list of characters; offsets into it count the bytes of its UTF-8 encoding. `utf8Length`
is the number of those bytes and `cut?` splits a text at a byte offset. A split exists exactly
where an offset falls between two characters, at the front or at the end.

Main statements: the length is additive (`utf8Length_append`), and a text splits at `n` into `a`
and `b` exactly when it is `a ++ b` and `a` has `n` bytes (`cut?_eq_some_iff`).
-/

namespace Descent

/-- The number of bytes in the UTF-8 encoding of a text. -/
def utf8Length (text : List Char) : Nat :=
  text.foldl (fun total c => total + c.utf8Size) 0

theorem foldl_utf8Size (text : List Char) (total : Nat) :
    text.foldl (fun total c => total + c.utf8Size) total = total + utf8Length text := by
  induction text generalizing total with
  | nil => simp [utf8Length]
  | cons c text ih =>
    simp only [utf8Length, List.foldl_cons]
    rw [ih, ih (0 + c.utf8Size)]
    omega

@[simp] theorem utf8Length_nil : utf8Length [] = 0 := rfl

@[simp] theorem utf8Length_cons (c : Char) (text : List Char) :
    utf8Length (c :: text) = c.utf8Size + utf8Length text := by
  rw [utf8Length, List.foldl_cons, foldl_utf8Size]
  omega

@[simp] theorem utf8Length_append (front rest : List Char) :
    utf8Length (front ++ rest) = utf8Length front + utf8Length rest := by
  induction front with
  | nil => simp
  | cons c front ih => simp [ih]; omega

theorem utf8Length_eq_zero {text : List Char} : utf8Length text = 0 ↔ text = [] := by
  cases text with
  | nil => simp
  | cons c text =>
    have := c.utf8Size_pos
    simp
    omega

/-- Splits a text at a byte offset: the characters before it and those after it. There is no
split at an offset past the end or inside the encoding of a character. -/
def cut? (offset : Nat) (text : List Char) : Option (List Char × List Char) :=
  go offset text []
where
  /-- The characters already passed are kept in reverse. -/
  go : Nat → List Char → List Char → Option (List Char × List Char)
    | 0, text, passed => some (passed.reverse, text)
    | _ + 1, [], _ => none
    | n + 1, c :: text, passed =>
      if c.utf8Size ≤ n + 1 then go (n + 1 - c.utf8Size) text (c :: passed) else none

theorem cut?_go_eq_some {n : Nat} {text passed front rest : List Char}
    (h : cut?.go n text passed = some (front, rest)) :
    ∃ middle, front = passed.reverse ++ middle ∧ text = middle ++ rest ∧
      utf8Length middle = n := by
  induction text generalizing n passed with
  | nil =>
    cases n with
    | zero =>
      simp only [cut?.go, Option.some.injEq, Prod.mk.injEq] at h
      exact ⟨[], by simp [h.1], by simp [h.2], rfl⟩
    | succ n => simp [cut?.go] at h
  | cons c text ih =>
    cases n with
    | zero =>
      simp only [cut?.go, Option.some.injEq, Prod.mk.injEq] at h
      exact ⟨[], by simp [h.1], by simp [h.2], rfl⟩
    | succ n =>
      simp only [cut?.go] at h
      split at h
      · obtain ⟨middle, hf, ht, hn⟩ := ih h
        refine ⟨c :: middle, by simp [hf], by simp [ht], ?_⟩
        simp only [utf8Length_cons, hn]
        omega
      · simp at h

theorem cut?_go_utf8Length (front rest passed : List Char) :
    cut?.go (utf8Length front) (front ++ rest) passed =
      some (passed.reverse ++ front, rest) := by
  induction front generalizing passed with
  | nil => cases rest <;> simp [cut?.go]
  | cons c front ih =>
    have hc := c.utf8Size_pos
    obtain ⟨n, hn⟩ : ∃ n, utf8Length (c :: front) = n + 1 :=
      ⟨utf8Length (c :: front) - 1, by simp; omega⟩
    rw [hn, List.cons_append, cut?.go]
    rw [utf8Length_cons] at hn
    have hle : c.utf8Size ≤ n + 1 := by omega
    have hrest : n + 1 - c.utf8Size = utf8Length front := by omega
    rw [if_pos hle, hrest, ih]
    simp

/-- **A text splits at an offset exactly when that offset is the length of a prefix.** -/
theorem cut?_eq_some_iff {n : Nat} {text front rest : List Char} :
    cut? n text = some (front, rest) ↔ text = front ++ rest ∧ utf8Length front = n := by
  constructor
  · intro h
    obtain ⟨middle, hf, ht, hn⟩ := cut?_go_eq_some h
    simp only [List.reverse_nil, List.nil_append] at hf
    subst hf
    exact ⟨ht, hn⟩
  · rintro ⟨rfl, rfl⟩
    simpa [cut?] using cut?_go_utf8Length front rest []

end Descent
