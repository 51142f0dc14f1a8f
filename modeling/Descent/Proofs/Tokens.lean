import Descent.Json.Reader
import Mathlib.Data.List.TakeDrop
import Mathlib.Data.List.TakeWhile

/-!
# The tokens of JSON

White space, numerals and strings, as a grammar apart from the reader: which texts they are, and
which code points a string stands for. The reader finds exactly these. A string ends at its closing
quote. A numeral has no last character of its own, and the reader takes as much as it can, so it
finds a numeral where the text after it does not go on with one (`Ends`).

Main statements: `string?_eq_some_iff`, `numeral?_sound`, `numeral?_complete`.
-/

namespace Descent.Json

variable {a w rest text : List Char} {c : Char} {codes : List Nat}

/-! ## White space -/

/-- White space, or nothing. -/
def Spaces (w : List Char) : Prop := ∀ c ∈ w, isSpace c

theorem spaces_nil : Spaces [] := by simp [Spaces]

theorem spaces_append (ha : Spaces a) (hw : Spaces w) : Spaces (a ++ w) := by
  intro c hc
  rcases List.mem_append.1 hc with hc | hc
  · exact ha c hc
  · exact hw c hc

theorem skipSpace_append_cons (ha : Spaces a) (hc : isSpace c = false) (text : List Char) :
    skipSpace (a ++ c :: text) = c :: text := by
  rw [skipSpace, List.dropWhile_append_of_pos ha, List.dropWhile_cons_of_neg (by simp [hc])]

theorem isSpace_cases (h : isSpace c) : c = ' ' ∨ c = '\t' ∨ c = '\n' ∨ c = '\r' := by
  simpa [isSpace, or_assoc] using h

theorem skipSpace_eq_nil_iff : skipSpace text = [] ↔ Spaces text :=
  List.dropWhile_eq_nil_iff

/-- What is skipped is white space. -/
theorem exists_spaces (text : List Char) : ∃ a, Spaces a ∧ text = a ++ skipSpace text :=
  ⟨text.takeWhile isSpace, fun _ => List.mem_takeWhile_imp, List.takeWhile_append_dropWhile.symm⟩

/-! ## Strings -/

/-- `Letter n w`: inside quotes, the characters `w` are one plain character or one escape, and stand
for the code point or 16-bit unit `n`. -/
inductive Letter : Nat → List Char → Prop
  | plain {c : Char} (hcontrol : 0x20 ≤ c.toNat) (hquote : c ≠ '"') (hescape : c ≠ '\\') :
    Letter c.toNat [c]
  | short {c d : Char} (h : shortEscape? c = some d) : Letter d.toNat ['\\', c]
  | hex {a b c d : Char} {n : Nat} (h : hex4? a b c d = some n) : Letter n ['\\', 'u', a, b, c, d]

/-- A row of letters. -/
inductive Letters : List Nat → List Char → Prop
  | nil : Letters [] []
  | cons {n u ns w} (head : Letter n u) (tail : Letters ns w) : Letters (n :: ns) (u ++ w)

/-- A string in quotes, and the code points that it stands for: two units that make up a pair of
surrogates are one code point. -/
def Quoted (codes : List Nat) (w : List Char) : Prop :=
  ∃ units body, Letters units body ∧ codes = joinPairs units ∧ w = '"' :: body ++ ['"']

theorem Quoted.head (h : Quoted codes w) : ∃ u, w = '"' :: u := by
  obtain ⟨_, body, -, -, rfl⟩ := h
  exact ⟨body ++ ['"'], rfl⟩

theorem units?_sound {units : List Nat} (h : units? text = some (units, rest)) :
    ∃ body, Letters units body ∧ text = body ++ '"' :: rest := by
  fun_induction units? text generalizing units rest with
  | case1 => simp at h
  | case2 tail =>
    simp only [Option.some.injEq, Prod.mk.injEq] at h
    obtain ⟨rfl, rfl⟩ := h
    exact ⟨[], .nil, rfl⟩
  | case3 a b c d tail ih =>
    simp only [Option.bind_eq_bind, Option.bind_eq_some_iff, Option.pure_def, Option.some.injEq,
      Prod.mk.injEq, Prod.exists] at h
    obtain ⟨n, hn, ns, after, htail, rfl, rfl⟩ := h
    obtain ⟨body, hbody, rfl⟩ := ih htail
    exact ⟨_, .cons (.hex hn) hbody, rfl⟩
  | case4 c tail _ ih =>
    simp only [Option.bind_eq_bind, Option.bind_eq_some_iff, Option.pure_def, Option.some.injEq,
      Prod.mk.injEq, Prod.exists] at h
    obtain ⟨d, hd, ns, after, htail, rfl, rfl⟩ := h
    obtain ⟨body, hbody, rfl⟩ := ih htail
    exact ⟨_, .cons (.short hd) hbody, rfl⟩
  | case5 => simp at h
  | case6 c tail hquote _ _ next hc =>
    rename_i ih
    simp only [next, Option.bind_eq_bind, Option.bind_eq_some_iff, Option.pure_def,
      Option.some.injEq, Prod.mk.injEq, Prod.exists] at h
    obtain ⟨ns, after, htail, rfl, rfl⟩ := h
    obtain ⟨body, hbody, rfl⟩ := ih htail
    rw [not_or, not_lt] at hc
    exact ⟨_, .cons (.plain hc.1 hquote hc.2) hbody, rfl⟩

theorem units?_letter {n : Nat} {u : List Char} (hu : Letter n u) (text : List Char) :
    units? (u ++ text) = (units? text).map fun r => (n :: r.1, r.2) := by
  cases hu with
  | plain hcontrol hquote hescape =>
    rw [List.singleton_append, units?]
    · cases units? text <;> simp [hescape, Nat.not_lt.2 hcontrol]
    · simp [hquote]
    · simp [hescape]
    · simp [hescape]
  | @short c d h =>
    have hc : c ≠ 'u' := by
      rintro rfl
      simp [shortEscape?] at h
    rw [List.cons_append, List.singleton_append, units?]
    · cases units? text <;> simp [h]
    · simp [hc]
  | hex h =>
    cases htext : units? text <;> simp [units?, h, htext]

theorem units?_complete {units : List Nat} {body : List Char} (h : Letters units body)
    (rest : List Char) : units? (body ++ '"' :: rest) = some (units, rest) := by
  induction h with
  | nil => rfl
  | cons head _ ih => rw [List.append_assoc, units?_letter head, ih, Option.map_some]

/-- **Reading a string.** After an opening quote, the reader finds the string that ends at the next
quote that is not escaped. -/
theorem string?_eq_some_iff :
    string? text = some (codes, rest) ↔ ∃ w, Quoted codes ('"' :: w) ∧ text = w ++ rest := by
  simp only [string?, Option.map_eq_some_iff, Prod.mk.injEq, Prod.exists]
  constructor
  · intro h
    obtain ⟨units, _, h, rfl, rfl⟩ := h
    obtain ⟨body, hbody, rfl⟩ := units?_sound h
    exact ⟨body ++ ['"'], ⟨units, body, hbody, rfl, rfl⟩, by simp⟩
  · intro h
    obtain ⟨w, ⟨units, body, hbody, rfl, hw⟩, rfl⟩ := h
    obtain rfl : w = body ++ ['"'] := by simpa using hw
    exact ⟨units, rest, by simpa using units?_complete hbody rest, rfl, rfl⟩

/-! ## Numerals -/

/-- One digit or more. -/
def Digits (w : List Char) : Prop := w ≠ [] ∧ ∀ c ∈ w, c.isDigit

/-- The integer part of a numeral: zero, or digits of which the first is not a zero. -/
def Whole (w : List Char) : Prop := Digits w ∧ (w.head? = some '0' → w.length = 1)

/-- The fraction of a numeral, or nothing. -/
inductive Fraction : List Char → Prop
  | absent : Fraction []
  | present {digits} (h : Digits digits) : Fraction ('.' :: digits)

/-- The exponent of a numeral, or nothing. -/
inductive Exponent : List Char → Prop
  | absent : Exponent []
  | present {mark sign digits} (hmark : mark = 'e' ∨ mark = 'E')
      (hsign : sign = [] ∨ sign = ['+'] ∨ sign = ['-']) (h : Digits digits) :
      Exponent (mark :: sign ++ digits)

/-- A numeral. -/
inductive Numeral : List Char → Prop
  | mk {sign whole fraction exponent} (hsign : sign = [] ∨ sign = ['-']) (hwhole : Whole whole)
      (hfraction : Fraction fraction) (hexponent : Exponent exponent) :
      Numeral (sign ++ whole ++ fraction ++ exponent)

theorem digits?_eq_some_iff :
    digits? text = some (w, rest) ↔
      text = w ++ rest ∧ Digits w ∧ ∀ c ∈ rest.head?, ¬ c.isDigit := by
  rw [digits?, List.span_eq_takeWhile_dropWhile]
  constructor
  · intro h
    simp only [List.isEmpty_iff, Option.ite_none_left_eq_some, Option.some.injEq,
      Prod.mk.injEq] at h
    obtain ⟨hne, rfl, rfl⟩ := h
    refine ⟨List.takeWhile_append_dropWhile.symm, ⟨hne, fun c => List.mem_takeWhile_imp⟩, ?_⟩
    intro c hc
    have hstop := List.head?_dropWhile_not Char.isDigit text
    simpa [Option.mem_def.1 hc] using hstop
  · intro h
    obtain ⟨rfl, ⟨hne, hall⟩, hstop⟩ := h
    have htake : rest.takeWhile Char.isDigit = [] := by
      cases rest with
      | nil => rfl
      | cons c rest => simpa using hstop c rfl
    have hdrop : rest.dropWhile Char.isDigit = rest := by
      simpa [htake] using List.takeWhile_append_dropWhile (p := Char.isDigit) (l := rest)
    simp [List.takeWhile_append_of_pos hall, List.dropWhile_append_of_pos hall, htake, hdrop, hne]

theorem whole?_eq_some_iff :
    whole? text = some (w, rest) ↔ text = w ++ rest ∧ Whole w ∧ ∀ c ∈ rest.head?, ¬ c.isDigit := by
  simp only [whole?, Option.bind_eq_bind, Option.bind_eq_some_iff, Prod.exists,
    Option.ite_none_left_eq_some, Option.some.injEq, Prod.mk.injEq, digits?_eq_some_iff]
  constructor
  · intro h
    obtain ⟨_, _, ⟨rfl, hdigits, hstop⟩, hzero, rfl, rfl⟩ := h
    exact ⟨rfl, ⟨hdigits, by simpa using hzero⟩, hstop⟩
  · intro h
    obtain ⟨rfl, ⟨hdigits, hzero⟩, hstop⟩ := h
    exact ⟨w, rest, ⟨rfl, hdigits, hstop⟩, by simpa using hzero, rfl, rfl⟩

theorem fraction?_sound (h : fraction? text = some (w, rest)) : text = w ++ rest ∧ Fraction w := by
  unfold fraction? at h
  split at h
  · simp only [Option.map_eq_some_iff, Prod.mk.injEq, Prod.exists] at h
    obtain ⟨digits, after, hdigits, rfl, rfl⟩ := h
    obtain ⟨rfl, hw, -⟩ := digits?_eq_some_iff.1 hdigits
    exact ⟨rfl, .present hw⟩
  · cases h
    exact ⟨rfl, .absent⟩

theorem fraction?_complete (h : Fraction w) (hdigit : ∀ c ∈ rest.head?, ¬ c.isDigit)
    (hpoint : rest.head? ≠ some '.') : fraction? (w ++ rest) = some (w, rest) := by
  cases h with
  | absent =>
    rw [List.nil_append, fraction?]
    rintro tail rfl
    simp at hpoint
  | present hdigits =>
    rw [List.cons_append, fraction?, digits?_eq_some_iff.2 ⟨rfl, hdigits, hdigit⟩, Option.map_some]

theorem exponent?_sound (h : exponent? text = some (w, rest)) : text = w ++ rest ∧ Exponent w := by
  unfold exponent? at h
  split at h
  · next mark tail =>
    by_cases hmark : mark = 'e' ∨ mark = 'E'
    · rw [if_pos hmark] at h
      split at h
      all_goals
        simp only [Option.map_eq_some_iff, Prod.mk.injEq, Prod.exists] at h
        obtain ⟨digits, after, hdigits, rfl, rfl⟩ := h
        obtain ⟨rfl, hw, -⟩ := digits?_eq_some_iff.1 hdigits
      · exact ⟨rfl, .present hmark (.inr (.inl rfl)) hw⟩
      · exact ⟨rfl, .present hmark (.inr (.inr rfl)) hw⟩
      · exact ⟨rfl, .present hmark (.inl rfl) hw⟩
    · rw [if_neg hmark] at h
      cases h
      exact ⟨rfl, .absent⟩
  · cases h
    exact ⟨rfl, .absent⟩

theorem exponent?_complete (h : Exponent w) (hdigit : ∀ c ∈ rest.head?, ¬ c.isDigit)
    (hmark : rest.head? ≠ some 'e' ∧ rest.head? ≠ some 'E') :
    exponent? (w ++ rest) = some (w, rest) := by
  cases h with
  | absent =>
    cases rest with
    | nil => rfl
    | cons c rest =>
      have hc : ¬ (c = 'e' ∨ c = 'E') := by simpa using hmark
      exact if_neg hc
  | @present mark sign digits hmark hsign hdigits =>
    have hread := digits?_eq_some_iff.2 ⟨rfl, hdigits, hdigit⟩
    rcases hsign with rfl | rfl | rfl
    · -- Without a sign, the mark is followed by a digit, which is no sign either.
      obtain ⟨hne, hall⟩ := hdigits
      cases digits with
      | nil => exact (hne rfl).elim
      | cons c digits =>
        have hc : c.isDigit := hall c List.mem_cons_self
        have hplus : c ≠ '+' := by
          rintro rfl
          simp at hc
        have hminus : c ≠ '-' := by
          rintro rfl
          simp at hc
        simp only [List.cons_append] at hread ⊢
        simp [exponent?, hmark, hplus, hminus, hread]
    · simp [exponent?, hmark, hread]
    · simp [exponent?, hmark, hread]

/-- The text does not go on with a digit, a point or the mark of an exponent. -/
def Ends (rest : List Char) : Prop :=
  ∀ c ∈ rest.head?, ¬ c.isDigit ∧ c ≠ '.' ∧ c ≠ 'e' ∧ c ≠ 'E'

theorem ends_nil : Ends [] := by simp [Ends]

theorem Ends.spaces_append (h : Ends rest) (ha : Spaces a) : Ends (a ++ rest) := by
  cases a with
  | nil => exact h
  | cons d a =>
    intro c hc
    obtain rfl : d = c := by simpa using hc
    rcases isSpace_cases (ha d List.mem_cons_self) with rfl | rfl | rfl | rfl <;> decide

/-- A numeral does not begin with white space. -/
theorem isSpace_eq_false (hc : c = '-' ∨ c.isDigit) : isSpace c = false := by
  rw [← Bool.not_eq_true]
  intro hspace
  rcases isSpace_cases hspace with rfl | rfl | rfl | rfl <;> simp at hc

/-- A numeral is read part by part, after a minus sign if there is one. -/
theorem numeral?_eq_some_iff :
    numeral? text = some (w, rest) ↔
      ∃ sign body whole body₁ fraction body₂ exponent, text = sign ++ body ∧
        (sign = ['-'] ∨ sign = [] ∧ body.head? ≠ some '-') ∧ whole? body = some (whole, body₁) ∧
        fraction? body₁ = some (fraction, body₂) ∧ exponent? body₂ = some (exponent, rest) ∧
        w = sign ++ whole ++ fraction ++ exponent := by
  unfold numeral?
  constructor
  · intro h
    by_cases hminus : text.head? = some '-'
    · obtain ⟨body, rfl⟩ := List.head?_eq_some_iff.1 hminus
      simp only [hminus, if_true, Option.bind_eq_bind, Option.bind_eq_some_iff, Option.pure_def,
        Option.some.injEq, Prod.mk.injEq, Prod.exists] at h
      obtain ⟨whole, body₁, hwhole, fraction, body₂, hfraction, exponent, _, hexponent, rfl,
        rfl⟩ := h
      exact ⟨_, body, whole, body₁, fraction, body₂, exponent, rfl, .inl rfl, hwhole, hfraction,
        hexponent, rfl⟩
    · simp only [if_neg hminus, Option.bind_eq_bind, Option.bind_eq_some_iff, Option.pure_def,
        Option.some.injEq, Prod.mk.injEq, Prod.exists] at h
      obtain ⟨whole, body₁, hwhole, fraction, body₂, hfraction, exponent, _, hexponent, rfl,
        rfl⟩ := h
      exact ⟨_, text, whole, body₁, fraction, body₂, exponent, rfl, .inr ⟨rfl, hminus⟩, hwhole,
        hfraction, hexponent, rfl⟩
  · intro h
    obtain ⟨sign, body, whole, body₁, fraction, body₂, exponent, rfl, hsign, hwhole, hfraction,
      hexponent, rfl⟩ := h
    rcases hsign with rfl | ⟨rfl, hminus⟩
    · simp [hwhole, hfraction, hexponent]
    · simp [hminus, hwhole, hfraction, hexponent]

theorem numeral?_sound (h : numeral? text = some (w, rest)) : text = w ++ rest ∧ Numeral w := by
  obtain ⟨sign, body, whole, body₁, fraction, body₂, exponent, rfl, hsign, hwhole, hfraction,
    hexponent, rfl⟩ := numeral?_eq_some_iff.1 h
  obtain ⟨rfl, hw, -⟩ := whole?_eq_some_iff.1 hwhole
  obtain ⟨rfl, hf⟩ := fraction?_sound hfraction
  obtain ⟨rfl, he⟩ := exponent?_sound hexponent
  exact ⟨by simp, .mk (hsign.symm.imp_left And.left) hw hf he⟩

theorem Exponent.head (h : Exponent w) (hends : Ends rest) :
    ∀ c ∈ (w ++ rest).head?, ¬ c.isDigit ∧ c ≠ '.' := by
  intro c hc
  cases h with
  | absent => exact ⟨(hends c hc).1, (hends c hc).2.1⟩
  | present hmark =>
    obtain rfl : _ = c := by simpa using hc
    rcases hmark with rfl | rfl
    · decide
    · decide

theorem Fraction.head (h : Fraction w) (hrest : ∀ c ∈ rest.head?, ¬ c.isDigit) :
    ∀ c ∈ (w ++ rest).head?, ¬ c.isDigit := by
  intro c hc
  cases h with
  | absent => exact hrest c hc
  | present =>
    obtain rfl : _ = c := by simpa using hc
    decide

theorem Whole.head (h : Whole w) : ∃ c u, w = c :: u ∧ c.isDigit := by
  obtain ⟨⟨hne, hall⟩, -⟩ := h
  cases w with
  | nil => exact (hne rfl).elim
  | cons c w => exact ⟨c, w, rfl, hall c List.mem_cons_self⟩

/-- A numeral begins with a minus sign or a digit. -/
theorem Numeral.head (h : Numeral w) : ∃ c u, w = c :: u ∧ (c = '-' ∨ c.isDigit) := by
  obtain ⟨rfl | rfl, hwhole, -, -⟩ := h
  · obtain ⟨c, u, rfl, hc⟩ := hwhole.head
    exact ⟨c, _, rfl, .inr hc⟩
  · exact ⟨'-', _, rfl, .inl rfl⟩

/-- **Reading a numeral.** The reader finds a numeral where the text does not go on with one. -/
theorem numeral?_complete (h : Numeral w) (hends : Ends rest) :
    numeral? (w ++ rest) = some (w, rest) := by
  obtain ⟨hsign, hwhole, hfraction, hexponent⟩ := h
  have hafter := hexponent.head hends
  have hdigit := hfraction.head fun c hc => (hafter c hc).1
  refine numeral?_eq_some_iff.2 ⟨_, _, _, _, _, _, _, by simp only [List.append_assoc], ?_,
    whole?_eq_some_iff.2 ⟨rfl, hwhole, hdigit⟩,
    fraction?_complete hfraction (fun c hc => (hafter c hc).1) (fun hc => (hafter _ hc).2 rfl),
    exponent?_complete hexponent (fun c hc => (hends c hc).1)
      ⟨fun hc => (hends _ hc).2.2.1 rfl, fun hc => (hends _ hc).2.2.2 rfl⟩, rfl⟩
  obtain ⟨c, u, rfl, hc⟩ := hwhole.head
  refine hsign.symm.imp_right fun h => ⟨h, ?_⟩
  intro hminus
  obtain rfl : c = '-' := by simpa using hminus
  simp at hc

end Descent.Json
