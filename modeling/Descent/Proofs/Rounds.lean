import Descent.Proofs.Success

/-!
# Successes put together

To show that a parser accepts a text, its success has to be put together from those of its parts.
The statements of this file are equivalences, and so serve to take a success apart as well. Failures
count, too: a second choice is made only where the first one fails, and a loop ends only where there
is no further round.

A loop is described by the rounds that it makes (`Parser.Rounds`). Why it stops is part of the
description, so that it makes the rounds that it has to and no others.
-/

namespace Descent.Parser

variable {α β γ : Type} {p q : Parser α} {s t u : State}

/-! ## Primitives -/

theorem eof_eq_success_iff {v : String} :
    eof s = .success v t ↔ s.remaining = [] ∧ v = "" ∧ t = s := by
  rw [eof, State.atEnd]
  constructor
  · intro h
    split at h
    · next hend =>
      cases h
      exact ⟨List.isEmpty_iff.1 hend, rfl, rfl⟩
    · cases h
  · rintro ⟨hend, rfl, rfl⟩
    rw [hend]
    rfl

/-- Where a text does not stand, the parser for it fails. -/
theorem literal_of_not_prefix {text : String} (h : ¬ text.toList <+: s.remaining) :
    ∃ e, literal text s = .failure e s := by
  rw [literal, if_neg (mt List.isPrefixOf_iff_prefix.1 h)]
  exact ⟨_, rfl⟩

/-- With room for the text that is left, a fixed text stands in front or not. -/
theorem answers_literal (hs : s.Fits) (text : String) : (literal text).Answers s := by
  by_cases hpre : text.toList <+: s.remaining
  · obtain ⟨rest, hrest⟩ := hpre
    obtain ⟨u, hreads, -⟩ := hs.exists_reads hrest.symm
    exact .inl ⟨text, u, literal_eq_success_iff.2 ⟨hreads, rfl⟩⟩
  · obtain ⟨e, he⟩ := literal_of_not_prefix hpre
    exact .inr ⟨e, s, he⟩

/-! ## Values changed -/

theorem Advances.map (hp : p.Advances) (f : α → β) : (p.map f).Advances := by
  intro s w t h
  obtain ⟨v, hv, -⟩ := map_eq_success.1 h
  exact hp hv

theorem Answers.map (hp : p.Answers s) (f : α → β) : (p.map f).Answers s := by
  rcases hp with ⟨v, t, hv⟩ | ⟨e, t, he⟩
  · exact .inl ⟨f v, t, map_eq_success.2 ⟨v, hv, rfl⟩⟩
  · exact .inr ⟨e, t, map_eq_failure.2 he⟩

/-! ## One after another -/

theorem skip_eq_success_iff {q : Parser β} {v : α} :
    p.skip q s = .success v u ↔ ∃ t w, p s = .success v t ∧ q t = .success w u := by
  rw [skip, map_eq_success]
  constructor
  · rintro ⟨⟨a, b⟩, h, rfl⟩
    obtain ⟨t, hp, hq⟩ := product_eq_success.1 h
    exact ⟨t, b, hp, hq⟩
  · rintro ⟨t, w, hp, hq⟩
    exact ⟨(v, w), product_eq_success.2 ⟨t, hp, hq⟩, rfl⟩

theorem andThen_eq_success_iff {q : Parser β} {w : β} :
    p.andThen q s = .success w u ↔ ∃ t v, p s = .success v t ∧ q t = .success w u := by
  rw [andThen, map_eq_success]
  constructor
  · rintro ⟨⟨a, b⟩, h, rfl⟩
    obtain ⟨t, hp, hq⟩ := product_eq_success.1 h
    exact ⟨t, a, hp, hq⟩
  · rintro ⟨t, v, hp, hq⟩
    exact ⟨(v, w), product_eq_success.2 ⟨t, hp, hq⟩, rfl⟩

theorem bind_of_failure {f : α → Parser β} {e : Failure} (hp : p s = .failure e t) :
    p.bind f s = .failure e s := by
  rw [bind, hp]
  rfl

theorem product_of_failure {q : Parser β} {e : Failure} {t : State} (hp : p s = .failure e t) :
    p.product q s = .failure e s := by
  rw [product, hp]
  rfl

theorem skip_of_failure {q : Parser β} {e : Failure} {t : State} (hp : p s = .failure e t) :
    p.skip q s = .failure e s := by
  rw [skip, map_eq_failure]
  exact product_of_failure hp

/-! ## Choice -/

/-- The first parser succeeds, or it fails and the second one succeeds. -/
theorem alternatives_pair_eq_success_iff {v : α} :
    alternatives [p, q] s = .success v t ↔
      p s = .success v t ∨ (∃ e u, p s = .failure e u) ∧ q s = .success v t := by
  rw [alternatives, firstOf]
  cases hp : p s with
  | failure e u =>
    simp only [firstOf]
    cases hq : q s <;> simp
  | _ => simp

theorem alternatives_pair_of_failure {e f : Failure} {t u : State} (hp : p s = .failure e t)
    (hq : q s = .failure f u) : ∃ e u, alternatives [p, q] s = .failure e u := by
  rw [alternatives, firstOf, hp]
  simp only [firstOf, hq]
  exact ⟨_, _, rfl⟩

theorem optional_eq_success_iff {v : Option α} :
    p.optional s = .success v t ↔
      (∃ w, p s = .success w t ∧ v = some w) ∨ (∃ e u, p s = .failure e u) ∧ v = none ∧ t = s := by
  rw [optional]
  cases hp : p s with
  | success w u =>
    constructor
    · intro h
      cases h
      exact .inl ⟨w, rfl, rfl⟩
    · rintro (⟨w, h, rfl⟩ | ⟨⟨e, u, h⟩, -⟩)
      · cases h
        rfl
      · cases h
  | failure e u =>
    constructor
    · intro h
      cases h
      exact .inr ⟨⟨e, u, rfl⟩, rfl, rfl⟩
    · rintro (⟨w, h, -⟩ | ⟨-, rfl, rfl⟩)
      · cases h
      · rfl
  | _ => simp

theorem Advances.optional (hp : p.Advances) : p.optional.Advances := by
  intro s v t h
  rcases optional_eq_success_iff.1 h with ⟨w, hw, -⟩ | ⟨-, -, rfl⟩
  · exact hp hw
  · exact .refl t

/-! ## Loops -/

/-- The rounds of a loop from `s` to `t`. It goes on for as long as it gets further. -/
inductive Rounds (p : Parser α) : State → List α → State → Prop
  | fails {s u : State} {e : Failure} : p s = .failure e u → Rounds p s [] s
  | stays {s u : State} {v : α} : p s = .success v u → ¬ s.consumed < u.consumed → Rounds p s [] s
  | round {s u t : State} {v : α} {vs : List α} : p s = .success v u → s.consumed < u.consumed →
      Rounds p u vs t → Rounds p s (v :: vs) t

theorem Rounds.advancing {vs : List α} (h : p.Rounds s vs t) (values : List α) :
    p.advancing values s = .success (values.reverse ++ vs) t := by
  induction h generalizing values with
  | fails hp => rw [Parser.advancing, hp, List.append_nil]
  | stays hp hle =>
    rw [Parser.advancing, hp]
    simp only [if_neg hle, List.append_nil]
  | round hp hlt _ ih =>
    rw [Parser.advancing, hp]
    simp only [if_pos hlt, ih, List.reverse_cons, List.append_assoc, List.singleton_append]

theorem advancing_eq_success_iff {values ws : List α} :
    p.advancing values s = .success ws t ↔
      ∃ vs, p.Rounds s vs t ∧ ws = values.reverse ++ vs := by
  constructor
  · intro h
    fun_induction Parser.advancing p values s with
    | case1 values s v u hp hlt ih =>
      obtain ⟨vs, hrounds, rfl⟩ := ih h
      exact ⟨v :: vs, .round hp hlt hrounds, by simp⟩
    | case2 values s v u hp hle =>
      cases h
      exact ⟨[], .stays hp hle, by simp⟩
    | case3 values s e u hp =>
      cases h
      exact ⟨[], .fails hp, by simp⟩
    | case4 => cases h
    | case5 => cases h
  · rintro ⟨vs, hrounds, rfl⟩
    exact hrounds.advancing values

/-- Where a parser only succeeds further on, a loop without delimiters is its rounds. -/
theorem delimited_eq_success_iff (hp : ∀ v u, p s = .success v u → s.consumed < u.consumed)
    {vs : List α} :
    p.delimited false (none : Option (Parser β)) s = .success vs t ↔ p.Rounds s vs t := by
  rw [delimited]
  constructor
  · intro h
    cases hs : p s with
    | success v u =>
      simp only [hs] at h
      obtain ⟨ws, hrounds, rfl⟩ := advancing_eq_success_iff.1 h
      exact .round hs (hp v u hs) hrounds
    | failure e u =>
      simp only [hs, Bool.false_eq_true, if_false] at h
      cases h
      exact .fails hs
    | fault reason => simp [hs] at h
    | unfinished => simp [hs] at h
  · intro h
    cases h with
    | fails hs => simp [hs]
    | stays hs hle => exact (hle (hp _ _ hs)).elim
    | round hs _ hrounds =>
      rw [hs]
      exact hrounds.advancing _

end Descent.Parser
