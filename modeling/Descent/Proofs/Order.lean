import Descent.Proofs.Branches

/-!
# The order of alternatives

Alternatives are tried in order, and so their order can matter: which of two successes is the
answer, and which of two failures that got equally far. Nothing else depends on it. Whether a choice
succeeds, and how far its failure got, can be read off the replies of its branches in any order: a
choice fails only where all branches fail, and its failure is one of theirs and the furthest
(`Parser.furthest_of_alternatives`).

Main statement: `Parser.choice_permuted`.
-/

namespace Descent

variable {α : Type}

def Reply.isSuccess : Reply α → Bool
  | success _ _ => true
  | _ => false

namespace Parser

variable {p q : Parser α} {ps qs : List (Parser α)} {s t : State} {e f : Failure}

/-! ## What the branches say about the choice -/

theorem alternatives_answers (h : ∀ p ∈ ps, p.Answers s) : (alternatives ps).Answers s := by
  rcases exists_first_success h with ⟨front, p, rest, es, v, t, rfl, hfront, hp⟩ | ⟨es, hes⟩
  · exact .inl ⟨v, t, firstOf_append_of_success hfront hp none⟩
  · by_cases hps : ps = []
    · rw [hps]
      exact .inr ⟨_, s, rfl⟩
    · obtain ⟨f, -, hf⟩ := alternatives_of_failWith hes hps
      exact .inr ⟨f, s, hf⟩

/-- Where all branches answer, a choice succeeds exactly if a branch does. -/
theorem alternatives_succeeds_iff (h : ∀ p ∈ ps, p.Answers s) :
    (∃ v t, alternatives ps s = .success v t) ↔ ∃ p ∈ ps, ∃ v t, p s = .success v t := by
  constructor
  · rintro ⟨v, t, hv⟩
    obtain ⟨p, hp, hs⟩ := alternatives_eq_success hv
    exact ⟨p, hp, v, t, hs⟩
  · rintro ⟨p, hp, v, t, hv⟩
    rcases alternatives_answers h with hs | ⟨e, u, he⟩
    · exact hs
    · obtain ⟨f, u, hf, -⟩ := (furthest_of_alternatives (List.ne_nil_of_mem hp) he).2 p hp
      cases hv.symm.trans hf

theorem alternatives_fails (h : ∀ p ∈ ps, ∃ e t, p s = .failure e t) :
    ∃ e, alternatives ps s = .failure e s := by
  rcases alternatives_answers fun p hp => .inr (h p hp) with ⟨v, t, hv⟩ | ⟨e, t, he⟩
  · obtain ⟨p, hp, hs⟩ := alternatives_eq_success hv
    obtain ⟨e, u, he⟩ := h p hp
    cases hs.symm.trans he
  · exact ⟨e, restores_alternatives ps he ▸ he⟩

/-- More branches get at least as far. -/
theorem position_le_of_subset (hps : ps ≠ []) (hsub : ps ⊆ qs)
    (he : alternatives ps s = .failure e s) (hf : alternatives qs s = .failure f s) :
    e.position ≤ f.position := by
  obtain ⟨p, hp, u, hpe⟩ := (furthest_of_alternatives hps he).1
  have hq : p ∈ qs := hsub hp
  obtain ⟨g, u', hpg, hle⟩ := (furthest_of_alternatives (List.ne_nil_of_mem hq) hf).2 p hq
  cases hpe.symm.trans hpg
  exact hle

/-- The failure that alone gets furthest is the failure of the choice. -/
theorem eq_of_furthest_alone {front rest : List (Parser α)} (hp : p s = .failure f t)
    (halone : ∀ q ∈ front ++ rest, ∀ g u, q s = .failure g u → g.position < f.position)
    (hmem : ∀ q, q ∈ ps ↔ q ∈ front ++ p :: rest) (he : alternatives ps s = .failure e s) :
    e = f := by
  have hpmem : p ∈ ps := (hmem p).2 (by simp)
  obtain ⟨⟨q, hq, u, hqe⟩, hfurthest⟩ := furthest_of_alternatives (List.ne_nil_of_mem hpmem) he
  obtain ⟨g, u', hpg, hle⟩ := hfurthest p hpmem
  cases hp.symm.trans hpg
  rcases List.mem_append.1 ((hmem q).1 hq) with hfront | hrest
  · have hlt := halone q (List.mem_append_left rest hfront) e u hqe
    omega
  · rcases List.mem_cons.1 hrest with rfl | hrest
    · cases hp.symm.trans hqe
      rfl
    · have hlt := halone q (List.mem_append_right front hrest) e u hqe
      omega

theorem eq_of_countP_le_one {c : Parser α → Bool} (h : ps.countP c ≤ 1) (hp : p ∈ ps) (hq : q ∈ ps)
    (hcp : c p = true) (hcq : c q = true) : p = q := by
  rw [List.countP_eq_length_filter] at h
  have hpc : p ∈ ps.filter c := List.mem_filter.2 ⟨hp, hcp⟩
  have hqc : q ∈ ps.filter c := List.mem_filter.2 ⟨hq, hcq⟩
  match hfilter : ps.filter c with
  | [] =>
    rw [hfilter] at hpc
    cases hpc
  | [r] =>
    rw [hfilter, List.mem_singleton] at hpc hqc
    rw [hpc, hqc]
  | _ :: _ :: _ =>
    rw [hfilter, List.length_cons, List.length_cons] at h
    omega

/-- If at most one branch succeeds, choices among the same branches have no two successes. -/
theorem success_of_countP_le_one (hcount : ps.countP (fun p => (p s).isSuccess) ≤ 1)
    (hsub : qs ⊆ ps) {v w : α} {u : State} (h : alternatives ps s = .success v t)
    (h' : alternatives qs s = .success w u) : alternatives qs s = .success v t := by
  obtain ⟨p, hp, hps⟩ := alternatives_eq_success h
  obtain ⟨q, hq, hqs⟩ := alternatives_eq_success h'
  have hpq : p = q := eq_of_countP_le_one hcount hp (hsub hq) (by simp [hps, Reply.isSuccess])
    (by simp [hqs, Reply.isSuccess])
  rw [h', ← hqs, ← hpq, hps]

/-- **The order of alternatives.** If all of them answer at a state, another order of the same
alternatives succeeds there exactly if they do. If all fail, both orders fail at that state with
equal positions; and with the same failure, if one branch alone gets furthest. If at most one branch
succeeds, both orders have its value and state. In every order, the result of a choice is the result
of one of its branches, unless it has none. -/
theorem choice_permuted (hperm : ps.Perm qs) (hanswers : ∀ p ∈ ps, p.Answers s) :
    ((∃ v t, alternatives ps s = .success v t) ↔ ∃ v t, alternatives qs s = .success v t) ∧
    ((∀ p ∈ ps, ∃ e t, p s = .failure e t) →
      ∃ e f, alternatives ps s = .failure e s ∧ alternatives qs s = .failure f s ∧
        e.position = f.position ∧
        ∀ front p rest g t, ps = front ++ p :: rest → p s = .failure g t →
          (∀ q ∈ front ++ rest, ∀ g' u, q s = .failure g' u → g'.position < g.position) →
            e = g ∧ f = g) ∧
    (ps.countP (fun p => (p s).isSuccess) ≤ 1 →
      ∀ v t, alternatives ps s = .success v t ↔ alternatives qs s = .success v t) ∧
    (ps ≠ [] → (∃ p ∈ ps, ∃ v t, p s = .success v t ∧ alternatives qs s = .success v t) ∨
      ∃ p ∈ ps, ∃ e t, p s = .failure e t ∧ alternatives qs s = .failure e s) := by
  have hanswers' : ∀ p ∈ qs, p.Answers s := fun p hp => hanswers p (hperm.mem_iff.2 hp)
  have hsucceeds : (∃ v t, alternatives ps s = .success v t) ↔
      ∃ v t, alternatives qs s = .success v t := by
    rw [alternatives_succeeds_iff hanswers, alternatives_succeeds_iff hanswers']
    exact exists_congr fun p => and_congr_left fun _ => hperm.mem_iff
  refine ⟨hsucceeds, fun hfails => ?_, fun hcount v t => ⟨fun h => ?_, fun h => ?_⟩, fun hps => ?_⟩
  · obtain ⟨e, he⟩ := alternatives_fails hfails
    obtain ⟨f, hf⟩ := alternatives_fails fun p hp => hfails p (hperm.mem_iff.2 hp)
    refine ⟨e, f, he, hf, ?_, ?_⟩
    · by_cases hps : ps = []
      · subst hps
        rw [hperm.nil_eq] at he
        cases he.symm.trans hf
        rfl
      · have hqs : qs ≠ [] := fun hqs => hps (hqs ▸ hperm).eq_nil
        exact Nat.le_antisymm (position_le_of_subset hps hperm.subset he hf)
          (position_le_of_subset hqs hperm.symm.subset hf he)
    · rintro front p rest g t rfl hp halone
      exact ⟨eq_of_furthest_alone hp halone (fun q => Iff.rfl) he,
        eq_of_furthest_alone hp halone (fun q => hperm.symm.mem_iff) hf⟩
  · obtain ⟨w, u, hqs⟩ := hsucceeds.1 ⟨v, t, h⟩
    exact success_of_countP_le_one hcount hperm.symm.subset h hqs
  · obtain ⟨w, u, hps⟩ := hsucceeds.2 ⟨v, t, h⟩
    exact success_of_countP_le_one (hperm.countP_eq _ ▸ hcount) hperm.subset h hps
  · rcases alternatives_answers hanswers' with ⟨v, t, hv⟩ | ⟨e, t, he⟩
    · obtain ⟨p, hp, hs⟩ := alternatives_eq_success hv
      exact .inl ⟨p, hperm.mem_iff.2 hp, v, t, hs, hv⟩
    · have hqs : qs ≠ [] := fun hqs => hps (hqs ▸ hperm).eq_nil
      obtain ⟨p, hp, u, hpe⟩ := (furthest_of_alternatives hqs he).1
      exact .inr ⟨p, hperm.mem_iff.2 hp, e, u, hpe, restores_alternatives qs he ▸ he⟩

/-- Of two branches that fail, one gets past a letter and is reported in both orders. With a third
one, which succeeds, its value is the answer in both orders. -/
theorem choice_permuted_letters :
    let s := State.start ['a', 'b']
    let x := literal "x"
    let y := (literal "a").andThen (literal "y")
    let b := (literal "a").andThen (literal "b")
    (∀ p ∈ [x, y, b], p.Answers s) ∧
    alternatives [x, y] s = .failure ⟨"y", 1, .structural⟩ s ∧
    alternatives [y, x] s = .failure ⟨"y", 1, .structural⟩ s ∧
    ∃ t, alternatives [x, y, b] s = .success "b" t ∧ alternatives [b, y, x] s = .success "b" t := by
  intro s x y b
  have hx : x s = .failure ⟨"x", 0, .structural⟩ s := rfl
  have hy : y s = .failure ⟨"y", 1, .structural⟩ s := rfl
  have hb : b s = .success "b" ⟨[], 2, by decide⟩ := rfl
  have hfails : ∀ p ∈ [x, y], ∃ e t, p s = .failure e t := by simp [hx, hy]
  have hanswers : ∀ p ∈ [x, y, b], p.Answers s := by simp [Answers, hx, hy, hb]
  have hcount : [x, y, b].countP (fun p => (p s).isSuccess) ≤ 1 := by
    simp [hx, hy, hb, Reply.isSuccess]
  obtain ⟨-, htwo, -, -⟩ := choice_permuted (.swap y x []) fun p hp => .inr (hfails p hp)
  obtain ⟨e, f, he, hf, -, halone⟩ := htwo hfails
  obtain ⟨rfl, rfl⟩ := halone [x] y [] _ _ rfl hy (by simp [hx])
  obtain ⟨-, -, hthree, -⟩ := choice_permuted (List.reverse_perm [x, y, b]).symm hanswers
  exact ⟨hanswers, he, hf, _, rfl, (hthree hcount _ _).1 rfl⟩

end Parser

end Descent
