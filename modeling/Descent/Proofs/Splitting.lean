import Descent.Proofs.Counting
import Descent.Proofs.Finish
import Descent.Proofs.Forward
import Descent.Proofs.Replies

/-!
# Counted repetition in two parts

The least number of values of a counted repetition are those of a sequence: until they are there, a
match of the empty text counts, and only a failure or the end of the rounds ends the loop
(`Parser.collect_needed`). Behind them the loop is one that needs no values, and what it has already
only stands in front (`Parser.collect_enough`). So a counted repetition is a product of the two
(`Parser.times_eq_product`).

Main statement: `Parser.times_splits`.
-/

namespace Descent.Parser

variable {α : Type} {p : Parser α} {s t start : State} {vs values : List α}
  {least most count rounds : Nat} {endless : Bool}

/-! ## The two parts of the loop -/

/-- **As long as values are missing, a loop is a sequence.** -/
theorem collect_needed (h : values.length + count ≤ least) :
    p.collect least endless start (count + rounds) values s =
      (((chain (List.replicate count p) s).mapFailure (·.withKind .quantity)).restart start).bind
        fun vs t => p.collect least endless start rounds (vs.reverse ++ values) t := by
  induction count generalizing values s with
  | zero =>
    rw [Nat.zero_add]
    rfl
  | succ count ih =>
    have hless : values.length < least := by omega
    have hmissing : ¬ least ≤ values.length := by omega
    have hrounds : count + 1 + rounds = count + rounds + 1 := by omega
    rw [hrounds, collect, List.replicate_succ, chain]
    cases hp : p s with
    | success v u =>
      have htail : (v :: values).length + count ≤ least := by
        rw [List.length_cons]
        omega
      simp only [hmissing, decide_false, Bool.and_false, Bool.false_eq_true, if_false, ih htail,
        Reply.bind]
      cases chain (List.replicate count p) u with
      | success vs w => simp [Reply.map, Reply.mapFailure, Reply.restart]
      | _ => rfl
    | failure e u =>
      simp only [if_pos hless]
      rfl
    | _ => rfl

/-- **When no value is missing, those that are there only stand in front.** -/
theorem collect_enough (h : least ≤ values.length) (ws : List α) (start' : State) :
    p.collect least endless start rounds (ws ++ values) s =
      (p.collect 0 endless start' rounds ws s).map (values.reverse ++ ·) := by
  have henough : least ≤ (ws ++ values).length := by
    rw [List.length_append]
    omega
  induction rounds generalizing ws s with
  | zero =>
    rw [collect, collect, if_neg (Nat.not_lt.2 henough), if_neg (Nat.not_lt_zero _),
      List.reverse_append]
    rfl
  | succ rounds ih =>
    rw [collect, collect]
    cases hp : p s with
    | success v u =>
      have htail : least ≤ (v :: ws ++ values).length := Nat.le_succ_of_le henough
      simp only [henough, Nat.zero_le, decide_true, Bool.and_true]
      split
      · rw [List.reverse_append]
        rfl
      · exact ih (v :: ws) htail
    | failure e u =>
      simp only [if_neg (Nat.not_lt.2 henough), if_neg (Nat.not_lt_zero _), List.reverse_append]
      rfl
    | _ => rfl

/-! ## The two parts as parsers -/

/-- **An exact repetition is a sequence of copies**, and its failures are ones of quantity. -/
theorem exactly_eq_sequence (p : Parser α) (n : Nat) :
    p.exactly n = (sequence (List.replicate n p)).asQuantity := by
  funext s
  have hneeded : ([] : List α).length + n ≤ n := by simp
  show p.collect n (n == maxOffset) s (n + 0) [] s = _
  rw [collect_needed hneeded, asQuantity, sequence, Reply.mapFailure_restart]
  cases hchain : chain (List.replicate n p) s with
  | success vs t =>
    have hlength : vs.length = n := by
      rw [length_of_chain hchain, List.length_replicate]
    simp [Reply.mapFailure, Reply.restart, Reply.bind, collect, hlength]
  | _ => rfl

theorem Advances.times (hp : p.Advances) (least most : Nat) : (p.times least most).Advances := by
  intro s vs t h
  have hC := (Invariant.lawful_after s).coupling
  have hkeeps : (Invariant.after s).Keeps (p.times least most) := Invariant.parsers_self.1
    ((Invariant.parsers_self.2 (Invariant.after_keeps hp)).times hC least most)
  have hafter := hkeeps s (.refl s)
  rwa [h] at hafter

/-- The rest of a counted repetition behind its least number, as any parser `q` that does the same
from where that number is reached. -/
theorem times_eq_product (hle : least ≤ most) {q : Parser (List α)}
    (hq : ∀ vs t, p.exactly least s = .success vs t →
      q t = p.collect 0 (most == maxOffset) t (most - least) [] t) :
    p.times least most s = (((p.exactly least).product q).map fun v => v.1 ++ v.2) s := by
  have hneeded : ([] : List α).length + least ≤ least := by simp
  have hrun : p.times least most s = (p.exactly least s).bind fun vs t =>
      p.collect least (most == maxOffset) s (most - least) (vs.reverse ++ []) t := by
    rw [exactly_eq_sequence, asQuantity, sequence, Reply.mapFailure_restart,
      ← collect_needed hneeded, Nat.add_sub_cancel' hle, times]
  have hparts : (p.exactly least s).bind (fun vs t =>
      p.collect least (most == maxOffset) s (most - least) (vs.reverse ++ []) t) =
      (p.exactly least s).bind fun vs t => (q t).map (vs ++ ·) := by
    cases h : p.exactly least s with
    | success vs t =>
      have hlength : least ≤ vs.reverse.length := by
        cases times_eq_iff.1 h with
        | enough _ _ hleast => rwa [List.length_reverse]
      rw [Reply.bind, Reply.bind, hq vs t h, List.append_nil]
      exact (collect_enough hlength [] t).trans (by rw [List.reverse_reverse])
    | _ => rfl
  rw [← (restores_times p least most).restart_eq s, hrun, hparts, map_product]

/-! ## Laws -/

theorem exactly_add (p : Parser α) (m n : Nat) :
    p.exactly (m + n) = ((p.exactly m).product (p.exactly n)).map fun v => v.1 ++ v.2 := by
  simp only [exactly_eq_sequence, List.replicate_add, sequence_append, asQuantity_map,
    asQuantity_product]

/-- With an upper bound. -/
theorem times_eq_exactly_atMost (hle : least ≤ most) (hmost : most < maxOffset) :
    p.times least most =
      ((p.exactly least).product (p.atMost (most - least))).map fun v => v.1 ++ v.2 := by
  funext s
  refine times_eq_product hle fun vs t _ => ?_
  have hbound : (most == maxOffset) = false := beq_false_of_ne (by omega)
  have hrest : (most - least == maxOffset) = false := beq_false_of_ne (by omega)
  rw [atMost, times, hbound, hrest]

/-- Without one, if the rounds are enough for the text. -/
theorem times_eq_exactly_endless (hp : p.Advances)
    (hroom : least + utf8Length s.remaining < maxOffset) :
    p.times least maxOffset s =
      (((p.exactly least).product (p.times 0 maxOffset)).map fun v => v.1 ++ v.2) s := by
  refine times_eq_product (by omega) fun vs t h => ?_
  have htotal := (hp.times least least h).total
  have hle := (hp.times least least h).consumed_le
  have hrounds : 0 + utf8Length t.remaining < maxOffset - least := by omega
  rw [times_eq_collect hp hrounds (Nat.sub_le _ _), beq_self_eq_true]

theorem atMost_one (p : Parser α) : p.atMost 1 = p.optional.map Option.toList := by
  funext s
  show p.collect 0 false s 1 [] s = (p.optional s).map Option.toList
  rw [collect, optional]
  cases p s <;> rfl

/-- **Counted repetition splits.** To repeat `m + n` times is to repeat `m` times and then `n`
times. With an upper bound, a repetition is an exact one of the least number of values, and then one
of at most as many as are left. Without an upper bound this is an endless one, if the parser
advances and the number of offsets is larger than the least number and the bytes that are left. An
exact repetition is a sequence of copies whose failures are ones of quantity, and what is optional
is a repetition that happens at most once. Parsers are equal here if their replies are: with their
failures and states. -/
theorem times_splits (p : Parser α) :
    (∀ m n, p.exactly (m + n) = ((p.exactly m).product (p.exactly n)).map fun v => v.1 ++ v.2) ∧
    (∀ least most, least ≤ most → most < maxOffset → p.times least most =
      ((p.exactly least).product (p.atMost (most - least))).map fun v => v.1 ++ v.2) ∧
    (p.Advances → ∀ least s, least + utf8Length s.remaining < maxOffset →
      p.times least maxOffset s =
        (((p.exactly least).product (p.times 0 maxOffset)).map fun v => v.1 ++ v.2) s) ∧
    (∀ n, p.exactly n = (sequence (List.replicate n p)).asQuantity) ∧
    p.optional = (p.atMost 1).map List.head? ∧ p.atMost 1 = p.optional.map Option.toList := by
  refine ⟨exactly_add p, fun least most => times_eq_exactly_atMost, fun hp least s hroom => ?_,
    exactly_eq_sequence p, ?_, atMost_one p⟩
  · exact times_eq_exactly_endless hp hroom
  · rw [atMost_one]
    funext s
    show p.optional s = ((p.optional s).map Option.toList).map List.head?
    rw [Reply.map_map]
    cases p.optional s with
    | success v t => cases v <;> rfl
    | _ => rfl

/-- Letters that are optional. With an upper bound the third match, which reads nothing, counts, and
without one it is dropped. A step that fails behind its start falls short in the second part. -/
theorem times_splits_letters :
    let s := State.start ['a', 'a', 'b']
    let t : State := ⟨['b'], 2, by decide⟩
    let p := (literal "a").optional
    let both (v : List (Option String) × List (Option String)) := v.1 ++ v.2
    ((p.exactly 1).product (p.atMost 2)).map both s = .success [some "a", some "a", none] t ∧
    ((p.exactly 1).product (p.times 0 maxOffset)).map both s = .success [some "a", some "a"] t ∧
    (((literal "a").exactly 2).product ((literal "a").exactly 1)).map (fun v => v.1 ++ v.2) s =
      .failure ⟨"a", 2, .quantity⟩ s := by
  intro s t p both
  have hp : p.Advances := (advances_literal "a").optional
  refine ⟨?_, ?_, ?_⟩
  · rw [← (times_splits p).2.1 1 3 (by decide) (by decide)]
    rfl
  · rw [← (times_splits p).2.2.1 hp 1 s (by decide)]
    rfl
  · rw [← (times_splits (literal "a")).1 2 1]
    rfl

end Descent.Parser
