import Descent.Proofs.Finish
import Descent.Proofs.Forward
import Mathlib.Data.Finset.Prod
import Mathlib.Order.Monotone.Basic

/-!
# The depth of a run

`Grammar.run` unfolds the rules to one depth. This depth is enough: if a run ends at any depth, it
has ended there, as long as the steps written by hand advance.

A run from `s` enters its rules at states after `s` only, and such a state is known by the number of
characters that are left. So there are finitely many questions that a run can ask of its rules. The
set of those that have an answer grows with the depth. Where it does not grow for one step it never
grows again, because the answers at the next depth come from the answers at this one. So it is
complete after as many steps as there are questions.

Main statement: `Grammar.run_eq_of_ends`.
-/

namespace Descent

namespace State.Precedes

/-- A state after `s` is known by the number of characters that are left. -/
theorem eq_of_length_eq {s t u : State} (ht : s.Precedes t) (hu : s.Precedes u)
    (h : t.remaining.length = u.remaining.length) : t = u := by
  have hrem : t.remaining = u.remaining :=
    (List.suffix_of_suffix_length_le ht.suffix hu.suffix h.le).eq_of_length h
  have htotal := ht.total.trans hu.total.symm
  rw [hrem] at htotal
  exact State.ext_iff'.2 ⟨hrem, Nat.add_right_cancel htotal⟩

end State.Precedes

namespace Rules

variable {rules : Rules} {s : State} {depth : Nat}

theorem unfold_advances (hrules : rules.Steps Parser.Advances) (depth : Nat) (name : String) :
    (rules.unfold depth name).Advances :=
  Grammar.parser_advances (g := .rule name) hrules (.of_parts nofun nofun) depth

/-! ## Answers that are there -/

/-- All rules have the same answers at this depth and at the next one, at the states after `s`. -/
def Settled (rules : Rules) (s : State) (depth : Nat) : Prop :=
  ∀ name t, s.Precedes t → rules.unfold depth name t = rules.unfold (depth + 1) name t

/-- Parsers over rules with the same answers have the same answers. -/
theorem Settled.parser_eq (hrules : rules.Steps Parser.Advances) (h : rules.Settled s depth)
    {g : Grammar} (hg : g.Steps Parser.Advances) {t : State} (ht : s.Precedes t) :
    g.parser (rules.unfold depth) t = g.parser (rules.unfold (depth + 1)) t := by
  have hfits : Grammar.Fits (Invariant.after s).coupling .none
      (fun p q => p = q ∧ p.Advances) fun _ => True := by
    refine ⟨(Invariant.lawful_after s).coupling, Coupling.tolerates_none _, ?_, fun _ _ => trivial⟩
    rintro p _ ⟨rfl, hp⟩
    exact Invariant.parsers_self.2 (Invariant.after_keeps hp)
  have hanswers : ∀ name, (Invariant.after s).coupling.Parsers
      (rules.unfold depth name) (rules.unfold (depth + 1) name) := by
    rintro name u _ ⟨rfl, hu⟩
    rw [← h name u hu]
    exact Invariant.replies_self.2 (Invariant.after_keeps (unfold_advances hrules depth name) u hu)
  have hparsers := Grammar.Similar.parsers hfits hanswers
    (Grammar.similar_self (fun p hp => ⟨rfl, hg p hp⟩) fun _ _ _ => trivial)
  exact Invariant.eq_of_replies (hparsers ⟨rfl, ht⟩)

theorem Settled.succ (hrules : rules.Steps Parser.Advances) (h : rules.Settled s depth) :
    rules.Settled s (depth + 1) :=
  fun name _ ht => h.parser_eq hrules (hrules name) ht

/-- Once the answers do not change for one step they never change again. -/
theorem Settled.parser_eq_of_le (hrules : rules.Steps Parser.Advances) (h : rules.Settled s depth)
    {g : Grammar} (hg : g.Steps Parser.Advances) {n : Nat} (hn : depth ≤ n) :
    g.parser (rules.unfold depth) s = g.parser (rules.unfold n) s := by
  suffices key : rules.Settled s n ∧
      g.parser (rules.unfold depth) s = g.parser (rules.unfold n) s from key.2
  induction n, hn using Nat.le_induction with
  | base => exact ⟨h, rfl⟩
  | succ n _ ih => exact ⟨ih.1.succ hrules, ih.2.trans (ih.1.parser_eq hrules hg (.refl s))⟩

/-! ## Answers are there at last -/

open Classical in
/-- The rules that have an answer at this depth, each with the number of characters that are left
at a state after `s` where it has one. -/
noncomputable def answered (rules : Rules) (s : State) (depth : Nat) : Finset (String × Nat) :=
  (rules.names ×ˢ Finset.range (s.remaining.length + 1)).filter fun question =>
    ∃ t, s.Precedes t ∧ t.remaining.length = question.2 ∧
      (rules.unfold depth question.1).Finishes t

theorem mem_answered {name : String} {length : Nat} :
    (name, length) ∈ rules.answered s depth ↔ name ∈ rules.names ∧
      ∃ t, s.Precedes t ∧ t.remaining.length = length ∧ (rules.unfold depth name).Finishes t := by
  classical
  rw [answered, Finset.mem_filter, Finset.mem_product, Finset.mem_range]
  constructor
  · rintro ⟨⟨hname, -⟩, ht⟩
    exact ⟨hname, ht⟩
  · rintro ⟨hname, t, hst, rfl, ht⟩
    exact ⟨⟨hname, Nat.lt_succ_of_le hst.suffix.length_le⟩, t, hst, rfl, ht⟩

theorem card_answered_le (rules : Rules) (s : State) (depth : Nat) :
    (rules.answered s depth).card ≤ rules.entries.length * (s.remaining.length + 1) := by
  classical
  calc (rules.answered s depth).card
      ≤ (rules.names ×ˢ Finset.range (s.remaining.length + 1)).card := Finset.card_filter_le _ _
    _ = rules.names.card * (s.remaining.length + 1) := by
      rw [Finset.card_product, Finset.card_range]
    _ ≤ rules.entries.length * (s.remaining.length + 1) :=
      Nat.mul_le_mul_right _ rules.card_names_le

/-- A rule that has an answer has the same one at the next depth. -/
theorem unfold_succ_eq {name : String} {t : State} (h : (rules.unfold depth name).Finishes t) :
    rules.unfold (depth + 1) name t = rules.unfold depth name t :=
  ((Grammar.parser_mono (.rule name) rules (Nat.le_succ depth) t).resolve_left h).symm

theorem answered_subset (rules : Rules) (s : State) (depth : Nat) :
    rules.answered s depth ⊆ rules.answered s (depth + 1) := by
  rintro ⟨name, length⟩ hmem
  obtain ⟨hname, t, hst, hlength, ht⟩ := mem_answered.1 hmem
  refine mem_answered.2 ⟨hname, t, hst, hlength, ?_⟩
  rw [Parser.Finishes, unfold_succ_eq ht]
  exact ht

/-- The answers are settled if no further question has one at the next depth. -/
theorem settled_of_card_eq
    (h : (rules.answered s (depth + 1)).card = (rules.answered s (depth + 2)).card) :
    rules.Settled s (depth + 1) := by
  have hset : rules.answered s (depth + 1) = rules.answered s (depth + 2) :=
    Finset.eq_of_subset_of_card_le (rules.answered_subset s (depth + 1)) h.ge
  intro name t hst
  by_cases hname : name ∈ rules.names
  · by_cases ht : (rules.unfold (depth + 1) name).Finishes t
    · exact (unfold_succ_eq ht).symm
    · -- An answer at the next depth would be one at this depth, at the same state.
      have ht' : ¬ (rules.unfold (depth + 2) name).Finishes t := by
        intro hnext
        have hmem := mem_answered.2 ⟨hname, t, hst, rfl, hnext⟩
        rw [← hset] at hmem
        obtain ⟨-, u, hsu, hlength, hu⟩ := mem_answered.1 hmem
        exact ht (hsu.eq_of_length_eq hst hlength ▸ hu)
      rw [Parser.Finishes, not_not] at ht ht'
      rw [ht, ht']
  · obtain ⟨label, hbody⟩ := body_of_notMem_names hname
    rw [unfold_succ, unfold_succ, hbody]
    rfl

theorem Settled.answered_eq (h : rules.Settled s depth) :
    rules.answered s depth = rules.answered s (depth + 1) := by
  refine (rules.answered_subset s depth).antisymm ?_
  rintro ⟨name, length⟩ hmem
  obtain ⟨hname, t, hst, hlength, ht⟩ := mem_answered.1 hmem
  refine mem_answered.2 ⟨hname, t, hst, hlength, ?_⟩
  rw [Parser.Finishes, h name t hst]
  exact ht

/-- The answers are settled after as many steps as there are questions. -/
theorem settled_card (hrules : rules.Steps Parser.Advances) (s : State) :
    rules.Settled s (rules.entries.length * (s.remaining.length + 1) + 1) := by
  have hmono : Monotone fun n => (rules.answered s (n + 1)).card :=
    monotone_nat_of_le_succ fun n => Finset.card_le_card (rules.answered_subset s (n + 1))
  have hstable : ∀ n, (rules.answered s (n + 1)).card = (rules.answered s (n + 2)).card →
      (rules.answered s (n + 2)).card = (rules.answered s (n + 3)).card := by
    intro n hn
    rw [((settled_of_card_eq hn).succ hrules).answered_eq]
  refine settled_of_card_eq ?_
  exact (Nat.stabilises_of_monotone hmono (fun n => rules.card_answered_le s (n + 1)) hstable
    (Nat.le_succ _)).symm

theorem card_questions_le_depth (rules : Rules) (s : State) :
    rules.entries.length * (s.remaining.length + 1) + 1 ≤ rules.depth s := by
  calc rules.entries.length * (s.remaining.length + 1) + 1
      ≤ (s.remaining.length + 1) * (rules.entries.length + 1) := by
        rw [Nat.mul_comm, Nat.mul_succ]
        omega
    _ ≤ rules.depth s := Nat.mul_le_mul_right _ (Nat.le_mul_of_pos_right _ (by decide))

end Rules

namespace Grammar

variable {rules : Rules} {g : Grammar} {s : State}

/-- **A run has ended at its depth if it ends at all.** -/
theorem run_eq_of_ends (hrules : rules.Steps Parser.Advances) (hg : g.Steps Parser.Advances)
    {r : Reply Value} (h : g.Ends rules s r) : g.run rules s = r := by
  obtain ⟨hr, n, rfl⟩ := h
  have hle := rules.card_questions_le_depth s
  have hsettled := Rules.settled_card hrules s
  rw [run]
  generalize rules.depth s = depth at hle
  generalize rules.entries.length * (s.remaining.length + 1) + 1 = questions at hle hsettled
  rcases Nat.le_total n depth with hn | hn
  · exact ((parser_mono g rules hn s).resolve_left hr).symm
  · rw [← hsettled.parser_eq_of_le hrules hg hle, hsettled.parser_eq_of_le hrules hg (hle.trans hn)]

/-- What a run answers is its end, and it is unfinished only if it has none. -/
theorem ends_iff_run_eq (hrules : rules.Steps Parser.Advances) (hg : g.Steps Parser.Advances)
    {r : Reply Value} : g.Ends rules s r ↔ r ≠ .unfinished ∧ g.run rules s = r := by
  constructor
  · exact fun h => ⟨h.1, run_eq_of_ends hrules hg h⟩
  · rintro ⟨hr, rfl⟩
    exact ends_run hr

end Grammar

end Descent
