import Descent.Parser.Custom
import Descent.Proofs.Rounds

/-!
# Counted repetition

`Parser.times` collects the values of a row of matches, each from where the one before it stopped
(`Parser.Row`). It stops as soon as there is a reason to (`Parser.Stops`): there are as many values
as there may be; or there is no further match; or, without an upper bound and with the least number
at hand, the next match reads nothing. What it answers depends only on where it stops
(`Parser.Counted`).

The loop keeps two facts: what it has is a row from the start, and no shorter row gave it a reason
to stop. Its rounds count down from the upper bound, so when they are used up there are as many
values as there may be.

Main statement: `Parser.times_exact`.
-/

namespace Descent.Parser

variable {α : Type} {p : Parser α} {s t u : State} {v : α} {vs ws : List α} {least most : Nat}

/-! ## Matches in a row -/

/-- The parser succeeds once for each of the values, first at `s`, then always at the state where
it stopped before, at last at `t`. -/
inductive Row (p : Parser α) : State → List α → State → Prop
  | nil (s : State) : Row p s [] s
  | cons {s t u : State} {v : α} {vs : List α} :
      p s = .success v t → Row p t vs u → Row p s (v :: vs) u

theorem Row.append (h : p.Row s vs t) (h' : p.Row t ws u) : p.Row s (vs ++ ws) u := by
  induction h with
  | nil s => exact h'
  | cons hp _ ih => exact .cons hp (ih h')

theorem Row.snoc (h : p.Row s vs t) (hp : p t = .success v u) : p.Row s (vs ++ [v]) u :=
  h.append (.cons hp (.nil u))

theorem Row.split (h : p.Row s (vs ++ ws) u) : ∃ t, p.Row s vs t ∧ p.Row t ws u := by
  induction vs generalizing s with
  | nil => exact ⟨s, .nil s, h⟩
  | cons v vs ih =>
    cases h with
    | cons hp hrow =>
      obtain ⟨t, hvs, hws⟩ := ih hrow
      exact ⟨t, .cons hp hvs, hws⟩

theorem Row.precedes (hp : p.Advances) (h : p.Row s vs t) : s.Precedes t := by
  induction h with
  | nil s => exact .refl s
  | cons hv _ ih => exact (hp hv).trans ih

/-- Rows from one state differ in their length only. -/
theorem Row.unique (h : p.Row s vs t) (h' : p.Row s ws u) (hlength : vs.length = ws.length) :
    vs = ws ∧ t = u := by
  induction h generalizing ws with
  | nil s =>
    obtain rfl : ws = [] := List.length_eq_zero_iff.1 hlength.symm
    cases h'
    exact ⟨rfl, rfl⟩
  | cons hp _ ih =>
    cases h' with
    | nil s => simp at hlength
    | cons hp' hrow' =>
      rw [hp] at hp'
      cases hp'
      obtain ⟨rfl, rfl⟩ := ih hrow' (by simpa using hlength)
      exact ⟨rfl, rfl⟩

/-- A match that reads nothing comes up again and again. -/
theorem Row.eq_of_stays (hp : p s = .success v s) (h : p.Row s vs t) : t = s := by
  induction h with
  | nil s => rfl
  | cons hp' _ ih =>
    rw [hp] at hp'
    cases hp'
    exact ih hp

/-! ## Where a repetition stops -/

/-- With `count` values at hand, a repetition stops at `t`. -/
inductive Stops (p : Parser α) (least most : Nat) : Nat → State → Prop
  /-- There may be no further value. -/
  | full (t : State) : Stops p least most most t
  /-- There is no further match. -/
  | mismatch {count : Nat} {t : State} : (∀ v u, p t ≠ .success v u) → Stops p least most count t
  /-- The next match reads nothing, no value is missing, and there is no upper bound. -/
  | idle {count : Nat} {t u : State} {v : α} : most = maxOffset → least ≤ count →
      p t = .success v u → u.consumed = t.consumed → Stops p least most count t

/-- A repetition from `s` comes to `t` with the values `vs`: no shorter row is one to stop at. -/
structure Reaches (p : Parser α) (least most : Nat) (s : State) (vs : List α) (t : State) :
    Prop where
  row : p.Row s vs t
  first : ∀ ws u, p.Row s ws u → p.Stops least most ws.length u → vs.length ≤ ws.length

/-- A repetition from `s` stops at `t` with the values `vs`, and nowhere before. -/
structure Collects (p : Parser α) (least most : Nat) (s : State) (vs : List α) (t : State) :
    Prop extends p.Reaches least most s vs t where
  stops : p.Stops least most vs.length t

theorem not_stops_of_success {count : Nat} (hp : p t = .success v u) (hcount : count < most)
    (hgo : ¬ (most = maxOffset ∧ u.consumed = t.consumed ∧ least ≤ count)) :
    ¬ p.Stops least most count t := by
  intro hstops
  cases hstops with
  | full => exact Nat.lt_irrefl _ hcount
  | mismatch hne => exact hne v u hp
  | idle hmost hleast hp' hsame =>
    rw [hp] at hp'
    cases hp'
    exact hgo ⟨hmost, hsame, hleast⟩

/-- **A step.** Where a repetition does not stop, it comes to the state after the next match. -/
theorem Reaches.next (h : p.Reaches least most s vs t) (hp : p t = .success v u)
    (hgo : ¬ p.Stops least most vs.length t) : p.Reaches least most s (vs ++ [v]) u where
  row := h.row.snoc hp
  first := by
    intro ws w hws hstops
    have hle := h.first ws w hws hstops
    by_cases heq : vs.length = ws.length
    · obtain ⟨rfl, rfl⟩ := h.row.unique hws heq
      exact (hgo hstops).elim
    · rw [List.length_append, List.length_singleton]
      omega

theorem Collects.unique (h : p.Collects least most s vs t) (h' : p.Collects least most s ws u) :
    vs = ws ∧ t = u :=
  h.row.unique h'.row (Nat.le_antisymm (h.first ws u h'.row h'.stops) (h'.first vs t h.row h.stops))

theorem Collects.length_le (h : p.Collects least most s vs t) : vs.length ≤ most := by
  apply Nat.le_of_not_lt
  intro hlt
  -- The first `most` of the values would have been a row to stop at.
  have hlength : (vs.take most).length = most := List.length_take_of_le (Nat.le_of_lt hlt)
  have hrow := h.row
  rw [← List.take_append_drop most vs] at hrow
  obtain ⟨u, htake, -⟩ := hrow.split
  have hfull : p.Stops least most (vs.take most).length u := by
    rw [hlength]
    exact .full u
  have hle := h.first _ u htake hfull
  omega

/-! ## What a repetition answers -/

/-- The answer of a repetition from `s`, by where it stops. -/
inductive Counted (p : Parser α) (least most : Nat) (s : State) : Reply (List α) → Prop
  /-- No value is missing. -/
  | enough {vs : List α} {t : State} : p.Collects least most s vs t →
      vs.length = most ∨ p.Answers t → least ≤ vs.length → Counted p least most s (.success vs t)
  /-- Values are missing, and there is no further match. -/
  | missing {vs : List α} {t u : State} {e : Failure} : p.Collects least most s vs t →
      vs.length < most → vs.length < least → p t = .failure e u →
      Counted p least most s (.failure ⟨e.expected, e.position, .quantity⟩ s)
  /-- Values are missing, and there may be no further one. -/
  | short {vs : List α} {t : State} : p.Collects least most s vs t →
      vs.length = most → most < least → Counted p least most s
        (.failure ⟨"at least " ++ Nat.repr least ++ " repetitions", t.consumed, .quantity⟩ s)
  | fault {vs : List α} {t : State} {r : Fault} : p.Collects least most s vs t →
      vs.length < most → p t = .fault r → Counted p least most s (.fault r)
  | unfinished {vs : List α} {t : State} : p.Collects least most s vs t →
      vs.length < most → p t = .unfinished → Counted p least most s .unfinished

/-- **A run of the loop.** It goes on for as long as there is no reason to stop, and its rounds are
those that are left up to the upper bound. -/
theorem Reaches.counted {rounds : Nat} (h : p.Reaches least most s vs t)
    (hrounds : vs.length + rounds = most) :
    p.Counted least most s (p.collect least (most == maxOffset) s rounds vs.reverse t) := by
  induction rounds generalizing vs t with
  | zero =>
    -- No rounds are left just if there may be no further value.
    have hfull : vs.length = most := hrounds
    have hc : p.Collects least most s vs t := ⟨h, by rw [hfull]; exact .full t⟩
    simp only [collect, List.length_reverse, List.reverse_reverse]
    by_cases hless : vs.length < least
    · rw [if_pos hless]
      exact .short hc hfull (by omega)
    · rw [if_neg hless]
      exact .enough hc (.inl hfull) (by omega)
  | succ rounds ih =>
    simp only [collect, List.length_reverse, List.reverse_reverse]
    cases hp : p t with
    | success v u =>
      simp only [Bool.and_eq_true, beq_iff_eq, decide_eq_true_eq, and_assoc]
      by_cases hidle : most = maxOffset ∧ u.consumed = t.consumed ∧ least ≤ vs.length
      · obtain ⟨hmost, hsame, hleast⟩ := hidle
        rw [if_pos ⟨hmost, hsame, hleast⟩]
        exact .enough ⟨h, .idle hmost hleast hp hsame⟩ (.inr (.inl ⟨v, u, hp⟩)) hleast
      · rw [if_neg hidle]
        have hgo := not_stops_of_success hp (by omega) hidle
        have hrun := ih (h.next hp hgo) (by simp; omega)
        rwa [List.reverse_append] at hrun
    | failure e u =>
      have hc : p.Collects least most s vs t := ⟨h, .mismatch (by simp [hp])⟩
      by_cases hless : vs.length < least
      · simp only [if_pos hless]
        exact .missing hc (by omega) hless hp
      · simp only [if_neg hless]
        exact .enough hc (.inr (.inr ⟨e, u, hp⟩)) (by omega)
    | fault r => exact .fault ⟨h, .mismatch (by simp [hp])⟩ (by omega) hp
    | unfinished => exact .unfinished ⟨h, .mismatch (by simp [hp])⟩ (by omega) hp

theorem counted_times (p : Parser α) (least most : Nat) (s : State) :
    p.Counted least most s (p.times least most s) :=
  Reaches.counted ⟨.nil s, fun _ _ _ _ => Nat.zero_le _⟩ (Nat.zero_add most)

/-- A repetition has one answer at most: it stops at one place, and the grounds for two different
answers exclude each other there. -/
theorem Counted.unique {r r' : Reply (List α)} (h : p.Counted least most s r)
    (h' : p.Counted least most s r') : r = r' := by
  cases h <;> cases h' <;> grind [Collects.unique, Answers]

theorem times_eq_iff {r : Reply (List α)} :
    p.times least most s = r ↔ p.Counted least most s r := by
  constructor
  · intro h
    rw [← h]
    exact counted_times p least most s
  · exact (counted_times p least most s).unique

/-! ## Successes -/

theorem Counted.collects (h : p.Counted least most s (.success vs t)) :
    p.Collects least most s vs t := by
  cases h with
  | enough hc _ _ => exact hc

/-- With an upper bound, only this bound or a failure ends a repetition that succeeds. -/
theorem Counted.full_or_failure (h : p.Counted least most s (.success vs t))
    (hmost : most ≠ maxOffset) : vs.length = most ∨ ∃ e u, p t = .failure e u := by
  cases h with
  | enough hc hanswers _ =>
    rcases hanswers with hfull | ⟨v, u, hp⟩ | hfails
    · exact .inl hfull
    · by_cases hlt : vs.length < most
      · exact (not_stops_of_success hp hlt (fun hidle => hmost hidle.1) hc.stops).elim
      · have hle := hc.length_le
        exact .inl (by omega)
    · exact .inr hfails

/-- Without an upper bound, each value beyond the least number has read something. -/
theorem Collects.consumed_lt (hp : p.Advances) {front rest : List α}
    (h : p.Collects least maxOffset s (front ++ v :: rest) t) (hfront : least ≤ front.length) :
    ∃ u w, p.Row s front u ∧ p u = .success v w ∧ p.Row w rest t ∧ u.consumed < w.consumed := by
  obtain ⟨u, hrow, htail⟩ := h.row.split
  cases htail with
  | @cons _ w _ _ _ hv hrest =>
    refine ⟨u, w, hrow, hv, hrest, Nat.lt_of_le_of_ne (hp hv).consumed_le fun hsame => ?_⟩
    have hlength := h.first front u hrow (.idle rfl hfront hv hsame.symm)
    rw [List.length_append, List.length_cons] at hlength
    omega

/-- A row gets as far as it has values, or its last match reads nothing and would come up again. -/
theorem Row.consumed_add_length_le (hp : p.Advances) (h : p.Row s vs t) :
    s.consumed + vs.length ≤ t.consumed ∨ ∃ v, p t = .success v t := by
  induction h with
  | nil s => exact .inl (Nat.le_refl _)
  | @cons s u t v vs hv hrow ih =>
    by_cases hsame : u.consumed = s.consumed
    · -- From here on the row does not move.
      obtain rfl := (hp hv).eq_of_consumed_eq hsame
      obtain rfl := hrow.eq_of_stays hv
      exact .inr ⟨v, hv⟩
    · have hle := (hp hv).consumed_le
      rcases ih with hfar | hstays
      · left
        rw [List.length_cons]
        omega
      · exact .inr hstays

/-- Without an upper bound, a repetition stops where the next match reads nothing, if there is any:
as many values as there are offsets reach the last of them. -/
theorem Collects.eq_of_success (hp : p.Advances) (h : p.Collects least maxOffset s vs t)
    (hv : p t = .success v u) : u = t := by
  by_cases hlt : vs.length < maxOffset
  · by_cases hsame : u.consumed = t.consumed
    · exact (hp hv).eq_of_consumed_eq hsame
    · exact (not_stops_of_success hv hlt (fun hidle => hsame hidle.2.1) h.stops).elim
  · -- The loop was cut off at `maxOffset` values, so the row has come to the last offset.
    rcases h.row.consumed_add_length_le hp with hfar | ⟨w, hw⟩
    · have hle := (hp hv).consumed_le
      have hmax := u.consumed_le
      exact (hp hv).eq_of_consumed_eq (by omega)
    · rw [hv] at hw
      cases hw
      rfl

/-- **Counted repetition.** A repetition answers as its stop says: with all values of the row if
none is missing; with the failure of the match that is missing, as one of quantity, or with a label
of its own if there may be no further match, and then at its start. So a success has at least
`least` and at most `most` values. With an upper bound nothing but this bound and a failure ends it,
and matches that read nothing count. Without one, if the parser advances, each value beyond the
least number has read something, and at the end the parser fails or reads nothing. If the parser
answers wherever the repetition comes to and may have a further value, so does the repetition. -/
theorem times_exact (p : Parser α) (least most : Nat) (s : State) :
    (∀ r, p.times least most s = r ↔ p.Counted least most s r) ∧
    (∀ vs t, p.times least most s = .success vs t →
      least ≤ vs.length ∧ vs.length ≤ most ∧
      (most ≠ maxOffset → vs.length = most ∨ ∃ e u, p t = .failure e u) ∧
      (most = maxOffset → p.Advances →
        (∀ front v rest, vs = front ++ v :: rest → least ≤ front.length →
          ∃ u w, p.Row s front u ∧ p u = .success v w ∧ p.Row w rest t ∧
            u.consumed < w.consumed) ∧
        (p.Answers t → (∃ e u, p t = .failure e u) ∨ ∃ v, p t = .success v t))) ∧
    ((∀ vs t, p.Reaches least most s vs t → vs.length < most → p.Answers t) →
      (p.times least most).Answers s) := by
  refine ⟨fun r => times_eq_iff, fun vs t h => ?_, fun hanswers => ?_⟩
  · have hcounted := times_eq_iff.1 h
    have hc := hcounted.collects
    have hleast : least ≤ vs.length := by
      cases hcounted with
      | enough _ _ hleast => exact hleast
    refine ⟨hleast, hc.length_le, hcounted.full_or_failure, ?_⟩
    rintro rfl hp
    refine ⟨?_, ?_⟩
    · rintro front v rest rfl hfront
      exact hc.consumed_lt hp hfront
    · rintro (⟨v, u, hv⟩ | hfails)
      · obtain rfl := hc.eq_of_success hp hv
        exact .inr ⟨v, hv⟩
      · exact .inl hfails
  · generalize hr : p.times least most s = r
    cases times_eq_iff.1 hr with
    | enough _ _ _ => exact .inl ⟨_, _, hr⟩
    | missing _ _ _ _ => exact .inr ⟨_, _, hr⟩
    | short _ _ _ => exact .inr ⟨_, _, hr⟩
    | fault hc hlt hp =>
      rcases hanswers _ _ hc.toReaches hlt with ⟨_, _, h⟩ | ⟨_, _, h⟩ <;> simp [hp] at h
    | unfinished hc hlt hp =>
      rcases hanswers _ _ hc.toReaches hlt with ⟨_, _, h⟩ | ⟨_, _, h⟩ <;> simp [hp] at h

/-- A step that fails behind its start, a bound below the least number, a repetition without a bound
that ends where its parser reads nothing, and one of a text that may be missing. -/
theorem times_exact_letters :
    let s := State.start ['a', 'a', 'b']
    let t : State := ⟨['b'], 2, by decide⟩
    let p := (literal "a").optional
    half.Counted 1 2 s (.failure ⟨"half", 0, .quantity⟩ s) ∧
    (literal "a").Counted 3 2 s (.failure ⟨"at least 3 repetitions", 2, .quantity⟩ s) ∧
    p.times 1 maxOffset s = .success [some "a", some "a"] t ∧
    (∃ u w, p.Row s [some "a"] u ∧ p u = .success (some "a") w ∧ p.Row w [] t ∧
      u.consumed < w.consumed) ∧
    ((∃ e u, p t = .failure e u) ∨ ∃ v, p t = .success v t) ∧
    ((literal "a").times 3 maxOffset).Answers s := by
  intro s t p
  have hp : p.Advances := (advances_literal "a").optional
  have hrun : p.times 1 maxOffset s = .success [some "a", some "a"] t := rfl
  obtain ⟨hfurther, hend⟩ := ((times_exact p 1 maxOffset s).2.1 _ _ hrun).2.2.2 rfl hp
  have hfits : s.Fits := by decide
  refine ⟨((times_exact half 1 2 s).1 _).1 rfl, ((times_exact (literal "a") 3 2 s).1 _).1 rfl, hrun,
    hfurther [some "a"] (some "a") [] rfl (by decide), hend (.inl ⟨none, t, rfl⟩), ?_⟩
  refine (times_exact (literal "a") 3 maxOffset s).2.2 fun vs u hreaches _ => ?_
  exact answers_literal (hfits.of_precedes (hreaches.row.precedes (advances_literal "a"))) "a"

end Descent.Parser
