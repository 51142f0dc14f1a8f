import Descent.Proofs.Choice
import Descent.Proofs.Nesting
import Descent.Proofs.Replies

/-!
# Rewriting choices

A list of alternatives can be cut anywhere. What comes first is tried first, and if it fails, what
comes behind it is tried and keeps the further one of the two failures
(`Parser.alternatives_append`). To keep the further one is associative, and so a part of a list may
be replaced by any other one that chooses alike (`Parser.alternatives_congr`): a choice within a
choice by its branches, or a branch and a copy of it by the branch alone.

Where every branch does the same to its reply, it can be done to the reply of the choice instead, if
it does not change which of two failures is further (`Parser.alternatives_map`).

A list without branches is the exception: it fails with a label of its own.

Main statement: `Parser.choice_refactors`.
-/

namespace Descent

variable {α β : Type}

theorem Failure.IsFurthest.mem {es : List Failure} {e : Failure} (h : IsFurthest es e) :
    e ∈ es := by
  obtain ⟨front, rest, rfl, -, -⟩ := h
  exact List.mem_append_right front List.mem_cons_self

namespace Reply

/-- Goes on after a failure. -/
def recover (r : Reply α) (next : Failure → Reply α) : Reply α :=
  match r with
  | failure e _ => next e
  | r => r

theorem recover_restart (r : Reply α) (s : State) (next : Failure → Reply α) :
    (r.restart s).recover next = r.recover next := by
  cases r <;> rfl

end Reply

/-- Choices of two parsers along a nesting. -/
def Nesting.choices : Nesting (Parser α) → Parser α
  | single p => p
  | pair left right => left.choices.orElse right.choices

namespace Parser

variable {p : Parser α} {ps qs : List (Parser α)} {s t : State} {e : Failure} {es : List Failure}

/-! ## Lists cut in two -/

theorem firstOf_cons (p : Parser α) (ps : List (Parser α)) (best : Option Failure) :
    firstOf s (p :: ps) best =
      (p s).recover fun e => firstOf s ps (some (best.elim e (·.furthest e))) := by
  rw [firstOf]
  cases p s <;> rfl

theorem alternatives_single (p : Parser α) (s : State) : alternatives [p] s = (p s).restart s := by
  rw [alternatives, firstOf_cons]
  cases p s <;> rfl

theorem firstOf_append (hps : ps ≠ []) (qs : List (Parser α)) (best : Option Failure) :
    firstOf s (ps ++ qs) best =
      (firstOf s ps best).recover fun e => firstOf s qs (some e) := by
  induction ps generalizing best with
  | nil => exact (hps rfl).elim
  | cons p ps ih =>
    rw [List.cons_append, firstOf_cons, firstOf_cons]
    cases hp : p s with
    | failure e t =>
      simp only [Reply.recover]
      cases ps with
      | nil => rfl
      | cons q ps => exact ih (List.cons_ne_nil q ps) _
    | _ => rfl

/-- A failure from before is compared with the one that comes out, instead of with every branch. -/
theorem firstOf_furthest (ps : List (Parser α)) (e f : Failure) :
    firstOf s ps (some (e.furthest f)) = (firstOf s ps (some f)).mapFailure e.furthest := by
  induction ps generalizing f with
  | nil => rfl
  | cons p ps ih =>
    rw [firstOf_cons, firstOf_cons]
    cases p s with
    | failure g t =>
      simp only [Reply.recover, Option.elim, Failure.furthest_assoc]
      exact ih _
    | _ => rfl

theorem firstOf_some (hps : ps ≠ []) (e : Failure) :
    firstOf s ps (some e) = (alternatives ps s).mapFailure e.furthest := by
  obtain ⟨p, ps, rfl⟩ := List.exists_cons_of_ne_nil hps
  rw [alternatives, firstOf_cons, firstOf_cons]
  cases p s with
  | failure f t => exact firstOf_furthest ps e f
  | _ => rfl

/-- **Alternatives one list after another.** -/
theorem alternatives_append (hps : ps ≠ []) (hqs : qs ≠ []) (s : State) :
    alternatives (ps ++ qs) s = (alternatives ps s).recover fun e =>
      (alternatives qs s).mapFailure e.furthest := by
  rw [alternatives, firstOf_append hps]
  simp only [firstOf_some hqs]
  rfl

/-- **A part of the alternatives may be replaced by one that chooses alike.** -/
theorem alternatives_congr {xs ys ys' zs : List (Parser α)} (hys : ys ≠ []) (hys' : ys' ≠ [])
    (h : alternatives ys s = alternatives ys' s) :
    alternatives (xs ++ ys ++ zs) s = alternatives (xs ++ ys' ++ zs) s := by
  have hpart : ∀ best, firstOf s ys best = firstOf s ys' best := by
    intro best
    cases best with
    | none => exact h
    | some e => rw [firstOf_some hys, firstOf_some hys', h]
  have hrest : ∀ best, firstOf s (ys ++ zs) best = firstOf s (ys' ++ zs) best := by
    intro best
    rw [firstOf_append hys, firstOf_append hys', hpart]
  rw [List.append_assoc, List.append_assoc]
  cases xs with
  | nil => exact hrest none
  | cons x xs =>
    rw [alternatives, alternatives, firstOf_append (List.cons_ne_nil x xs),
      firstOf_append (List.cons_ne_nil x xs)]
    simp only [hrest]

/-! ## Choices within choices -/

theorem alternatives_single_alternatives (ps : List (Parser α)) (s : State) :
    alternatives [alternatives ps] s = alternatives ps s := by
  rw [alternatives_single, (restores_alternatives ps).restart_eq]

theorem alternatives_flatten (xs zs : List (Parser α)) {ys : List (Parser α)} (hys : ys ≠ []) :
    alternatives (xs ++ [alternatives ys] ++ zs) = alternatives (xs ++ ys ++ zs) :=
  funext fun s =>
    alternatives_congr (List.cons_ne_nil _ _) hys (alternatives_single_alternatives ys s)

theorem alternatives_choices (n : Nesting (Parser α)) (s : State) :
    alternatives [n.choices] s = alternatives n.leaves s := by
  induction n with
  | single p => rfl
  | pair left right ihl ihr =>
    have hpair : [left.choices, right.choices] = [left.choices] ++ [right.choices] := rfl
    rw [Nesting.choices, orElse, alternatives_single_alternatives, hpair,
      alternatives_append (List.cons_ne_nil _ _) (List.cons_ne_nil _ _), ihl, ihr,
      ← alternatives_append left.leaves_ne_nil right.leaves_ne_nil, Nesting.leaves]

theorem choices_pair (left right : Nesting (Parser α)) :
    (Nesting.pair left right).choices = alternatives (Nesting.pair left right).leaves := by
  funext s
  rw [← alternatives_choices, Nesting.choices, orElse, alternatives_single_alternatives]

/-! ## Branches that do the same -/

section Same

variable {F : Parser α → Parser β} {f : α → β} {k : Failure → Failure}

theorem firstOf_map (hk : ∀ e e', k (e.furthest e') = (k e).furthest (k e'))
    (hF : ∀ p, (F p s).restart s = (((p t).map f).mapFailure k).restart s)
    (ps : List (Parser α)) (e : Failure) :
    firstOf s (ps.map F) (some (k e)) =
      (((firstOf t ps (some e)).map f).mapFailure k).restart s := by
  induction ps generalizing e with
  | nil => rfl
  | cons p ps ih =>
    rw [List.map_cons, firstOf_cons, firstOf_cons, ← Reply.recover_restart _ s, hF]
    cases p t with
    | failure g u =>
      simp only [Reply.map, Reply.mapFailure, Reply.restart, Reply.recover, Option.elim, ← hk]
      exact ih _
    | _ => rfl

/-- **What every branch does to its reply can be done to the reply of the choice.** The branches may
run at another state than the choice among them, so long as they go back to it. -/
theorem alternatives_map (hk : ∀ e e', k (e.furthest e') = (k e).furthest (k e'))
    (hF : ∀ p, (F p s).restart s = (((p t).map f).mapFailure k).restart s) (hps : ps ≠ []) :
    alternatives (ps.map F) s = (((alternatives ps t).map f).mapFailure k).restart s := by
  obtain ⟨p, ps, rfl⟩ := List.exists_cons_of_ne_nil hps
  rw [List.map_cons, alternatives, alternatives, firstOf_cons, firstOf_cons,
    ← Reply.recover_restart _ s, hF]
  cases p t with
  | failure g u => exact firstOf_map hk hF ps g
  | _ => rfl

end Same

theorem map_alternatives (ps : List (Parser α)) (f : α → β) :
    (alternatives ps).map f = alternatives (ps.map fun p => p.map f) := by
  funext s
  by_cases hps : ps = []
  · rw [hps]
    rfl
  · have hF : ∀ p : Parser α, (p.map f s).restart s =
        (((p s).map f).mapFailure fun e => e).restart s := by
      intro p
      rw [Reply.mapFailure_id, map]
    rw [alternatives_map (fun _ _ => rfl) hF hps, Reply.mapFailure_id, ← Reply.map_restart,
      (restores_alternatives ps).restart_eq, map]

theorem desc_alternatives (hps : ps ≠ []) (label : String) :
    (alternatives ps).desc label = alternatives (ps.map fun p => p.desc label) := by
  funext s
  have hk : ∀ e e' : Failure, (e.furthest e').relabel label =
      (e.relabel label).furthest (e'.relabel label) := by
    intro e e'
    exact apply_ite (fun f : Failure => f.relabel label) _ _ _
  have hF : ∀ p : Parser α, (p.desc label s).restart s =
      (((p s).map fun v => v).mapFailure (·.relabel label)).restart s := by
    intro p
    rw [Reply.map_id, desc]
  rw [alternatives_map hk hF hps, Reply.map_id, ← Reply.mapFailure_restart,
    (restores_alternatives ps).restart_eq, desc]

theorem alternatives_of_alike {r : Reply α} (hps : ps ≠ []) (h : ∀ p ∈ ps, (p s).restart s = r) :
    alternatives ps s = r := by
  induction ps with
  | nil => exact (hps rfl).elim
  | cons p ps ih =>
    have hp : alternatives [p] s = r := (alternatives_single p s).trans (h p List.mem_cons_self)
    by_cases hrest : ps = []
    · rw [hrest, hp]
    · rw [← List.singleton_append, alternatives_append (List.cons_ne_nil p []) hrest, hp,
        ih hrest fun q hq => h q (List.mem_cons_of_mem p hq)]
      cases r with
      | failure e t => rw [Reply.recover, Reply.mapFailure, Failure.furthest_self]
      | _ => rfl

/-- Whether `p` runs once in front of the choice or again in front of every branch is the same. -/
theorem product_alternatives (p : Parser α) {qs : List (Parser β)} (hqs : qs ≠ []) :
    p.product (alternatives qs) = alternatives (qs.map fun q => p.product q) := by
  funext s
  cases hp : p s with
  | success v t =>
    have hF : ∀ q : Parser β, (p.product q s).restart s =
        (((q t).map fun w => (v, w)).mapFailure fun e => e).restart s := by
      intro q
      rw [product, hp, Reply.restart_restart, Reply.mapFailure_id, Reply.bind]
    rw [alternatives_map (fun _ _ => rfl) hF hqs, Reply.mapFailure_id, product, hp, Reply.bind]
  | _ =>
    refine (alternatives_of_alike (mt List.map_eq_nil_iff.1 hqs) fun q hq => ?_).symm
    obtain ⟨q, -, rfl⟩ := List.mem_map.1 hq
    rw [product, product, hp]
    rfl

/-! ## The failure of a choice -/

theorem FailWith.of_mem_parsers (h : FailWith s ps es) (hp : p ∈ ps) :
    ∃ e ∈ es, ∃ t, p s = .failure e t := by
  induction h with
  | nil => cases hp
  | @cons q e ps es hq _ ih =>
    rcases List.mem_cons.1 hp with rfl | hp
    · exact ⟨e, List.mem_cons_self, hq⟩
    · obtain ⟨f, hf, hpf⟩ := ih hp
      exact ⟨f, List.mem_cons_of_mem e hf, hpf⟩

theorem FailWith.of_mem_failures (h : FailWith s ps es) (he : e ∈ es) :
    ∃ p ∈ ps, ∃ t, p s = .failure e t := by
  induction h with
  | nil => cases he
  | @cons q f ps es hq _ ih =>
    rcases List.mem_cons.1 he with rfl | he
    · exact ⟨q, List.mem_cons_self, hq⟩
    · obtain ⟨p, hp, hpe⟩ := ih he
      exact ⟨p, List.mem_cons_of_mem q hp, hpe⟩

theorem failWith_of_firstOf {best : Option Failure} (h : firstOf s ps best = .failure e t) :
    ∃ es, FailWith s ps es := by
  induction ps generalizing best with
  | nil => exact ⟨[], .nil⟩
  | cons p ps ih =>
    rw [firstOf_cons] at h
    cases hp : p s with
    | failure f u =>
      rw [hp] at h
      obtain ⟨es, hes⟩ := ih h
      exact ⟨f :: es, .cons ⟨u, hp⟩ hes⟩
    | _ => simp [hp, Reply.recover] at h

/-- **The failure of a choice is the failure of a branch, and no branch got further.** -/
theorem furthest_of_alternatives (hps : ps ≠ []) (h : alternatives ps s = .failure e t) :
    (∃ p ∈ ps, ∃ u, p s = .failure e u) ∧
      ∀ p ∈ ps, ∃ f u, p s = .failure f u ∧ f.position ≤ e.position := by
  obtain ⟨es, hes⟩ := failWith_of_firstOf h
  obtain ⟨f, hf, hrun⟩ := alternatives_of_failWith hes hps
  cases h.symm.trans hrun
  refine ⟨hes.of_mem_failures hf.mem, fun p hp => ?_⟩
  obtain ⟨g, hg, u, hpg⟩ := hes.of_mem_parsers hp
  exact ⟨g, u, hpg, hf.position_le hg⟩

/-- A copy fails with the failure that the branch before it had, which gets no further. -/
theorem alternatives_copy (xs ys zs : List (Parser α)) (p : Parser α) :
    alternatives (xs ++ p :: ys ++ p :: zs) = alternatives (xs ++ p :: ys ++ zs) := by
  funext s
  have hne : p :: ys ≠ [] := List.cons_ne_nil p ys
  have hpart : alternatives (p :: ys ++ [p]) s = alternatives (p :: ys) s := by
    rw [alternatives_append hne (List.cons_ne_nil p []), alternatives_single]
    cases h : alternatives (p :: ys) s with
    | failure e t =>
      obtain ⟨f, u, hp, hle⟩ := (furthest_of_alternatives hne h).2 p List.mem_cons_self
      rw [hp, restores_alternatives _ h, Reply.recover, Reply.restart, Reply.mapFailure,
        Failure.furthest_of_le hle]
    | _ => rfl
  have hcopy : xs ++ p :: ys ++ p :: zs = xs ++ (p :: ys ++ [p]) ++ zs := by simp
  rw [hcopy]
  exact alternatives_congr (List.append_ne_nil_of_left_ne_nil hne [p]) hne hpart

/-- **Choices can be rewritten.** A choice within a choice is its branches, and so it does not
matter how choices of two are put in brackets. What stands in front of a choice can be put in front
of every branch, and a label or a function behind it on every branch. A branch that stands in the
list before can be left out. Parsers are equal here if their replies are, failures and states
included; only an empty list in place of a choice would bring in a label of its own. -/
theorem choice_refactors {α β : Type} :
    (∀ xs ys zs : List (Parser α), ys ≠ [] →
      alternatives (xs ++ [alternatives ys] ++ zs) = alternatives (xs ++ ys ++ zs)) ∧
    (∀ p q r : Parser α, (p.orElse q).orElse r = p.orElse (q.orElse r)) ∧
    (∀ left right : Nesting (Parser α),
      (Nesting.pair left right).choices = alternatives (Nesting.pair left right).leaves) ∧
    (∀ (p : Parser α) (qs : List (Parser β)), qs ≠ [] →
      p.product (alternatives qs) = alternatives (qs.map fun q => p.product q)) ∧
    (∀ (ps : List (Parser α)) label, ps ≠ [] →
      (alternatives ps).desc label = alternatives (ps.map fun p => p.desc label)) ∧
    (∀ (ps : List (Parser α)) (f : α → β),
      (alternatives ps).map f = alternatives (ps.map fun p => p.map f)) ∧
    ∀ (xs ys zs : List (Parser α)) p,
      alternatives (xs ++ p :: ys ++ p :: zs) = alternatives (xs ++ p :: ys ++ zs) := by
  refine ⟨fun xs ys zs hys => alternatives_flatten xs zs hys, fun p q r => ?_, choices_pair,
    fun p qs hqs => product_alternatives p hqs, fun ps label hps => desc_alternatives hps label,
    map_alternatives, alternatives_copy⟩
  -- Both sides have the same leaves in the same order.
  have hleft := choices_pair (.pair (.single p) (.single q)) (.single r)
  have hright := choices_pair (.single p) (.pair (.single q) (.single r))
  exact hleft.trans hright.symm

/-- Branches that get past one character. Of two that get equally far the first one is reported, in
whatever way they are put together. -/
theorem choice_refactors_letters :
    let s := State.start ['a', 'c']
    let a := literal "a"
    let b := literal "b"
    let d := literal "d"
    alternatives [b.product a, alternatives [a.product b, a.product d], d.product a] s =
      .failure ⟨"b", 1, .structural⟩ s ∧
    alternatives [a.product b, a.product d] s = .failure ⟨"b", 1, .structural⟩ s ∧
    alternatives [(a.product b).desc "pair", (a.product d).desc "pair"] s =
      .failure ⟨"pair", 1, .structural⟩ s := by
  intro s a b d
  obtain ⟨-, -, -, hfactor, -⟩ := @choice_refactors String String
  obtain ⟨hflatten, -, -, -, hdesc, -⟩ := @choice_refactors (String × String) String
  refine ⟨?_, ?_, ?_⟩
  · have h := hflatten [b.product a] [a.product b, a.product d] [d.product a] (by simp)
    exact (congrFun h s).trans rfl
  · exact (congrFun (hfactor a [b, d] (by simp)) s).symm.trans rfl
  · have h := hdesc [a.product b, a.product d] "pair" (by simp)
    exact (congrFun h s).symm.trans rfl

end Parser

end Descent
