import Descent.Parser.Custom
import Descent.Proofs.Success
import Mathlib.Data.List.Forall2

/-!
# Choice

`Parser.alternatives` tries its parsers in order from one state. The first success is the answer,
whatever the failures before it and whatever the parsers behind it would do. If all parsers fail,
the answer is the failure that got furthest, and of those that got equally far the first one
(`Failure.IsFurthest`).

The loop keeps the furthest of the failures that it has seen. This is the invariant, and one lemma
carries it: if `f` is the furthest failure of one list and `g` that of another, `f.furthest g` is
the furthest of both lists together (`Failure.IsFurthest.append`). A step of the loop is the case
where the second list has one failure. Every way to put the failures in brackets comes to the same
for this reason, too.

Main statement: `Parser.alternatives_exact`.
-/

namespace Descent

/-! ## The furthest of several failures -/

namespace Failure

variable {es es' : List Failure} {e f g : Failure}

theorem furthest_of_lt (h : f.position < g.position) : f.furthest g = g := if_pos h

theorem furthest_of_le (h : g.position ≤ f.position) : f.furthest g = f := if_neg (Nat.not_lt.2 h)

/-- None of the failures got further than `f`, and none before `f` got as far. -/
def IsFurthest (es : List Failure) (f : Failure) : Prop :=
  ∃ front rest, es = front ++ f :: rest ∧ (∀ e ∈ front, e.position < f.position) ∧
    ∀ e ∈ rest, e.position ≤ f.position

theorem isFurthest_single (f : Failure) : IsFurthest [f] f := ⟨[], [], rfl, by simp, by simp⟩

theorem IsFurthest.position_le (hf : IsFurthest es f) (he : e ∈ es) :
    e.position ≤ f.position := by
  obtain ⟨front, rest, rfl, hfront, hrest⟩ := hf
  rcases List.mem_append.1 he with h | h
  · exact Nat.le_of_lt (hfront e h)
  · rcases List.mem_cons.1 h with rfl | h
    · exact Nat.le_refl _
    · exact hrest e h

/-- **The furthest failure of two lists is the furthest of their furthest ones.** -/
theorem IsFurthest.append (hf : IsFurthest es f) (hg : IsFurthest es' g) :
    IsFurthest (es ++ es') (f.furthest g) := by
  by_cases hlt : f.position < g.position
  · rw [furthest_of_lt hlt]
    obtain ⟨front, rest, rfl, hfront, hrest⟩ := hg
    refine ⟨es ++ front, rest, by simp, fun e he => ?_, hrest⟩
    rcases List.mem_append.1 he with h | h
    · exact Nat.lt_of_le_of_lt (hf.position_le h) hlt
    · exact hfront e h
  · have hle : g.position ≤ f.position := Nat.not_lt.1 hlt
    rw [furthest_of_le hle]
    obtain ⟨front, rest, rfl, hfront, hrest⟩ := hf
    refine ⟨front, rest ++ es', by simp, hfront, fun e he => ?_⟩
    rcases List.mem_append.1 he with h | h
    · exact hrest e h
    · exact Nat.le_trans (hg.position_le h) hle

/-- Of two places in a list the first one would be furthest by less than the second. -/
theorem IsFurthest.unique (hf : IsFurthest es f) (hg : IsFurthest es g) : f = g := by
  have hfg : f.position = g.position := by
    apply Nat.le_antisymm
    · obtain ⟨front, rest, rfl, -, -⟩ := hf
      exact hg.position_le (by simp)
    · obtain ⟨front, rest, rfl, -, -⟩ := hg
      exact hf.position_le (by simp)
  obtain ⟨front, rest, rfl, hfront, -⟩ := hf
  obtain ⟨front', rest', heq, hfront', -⟩ := hg
  rcases List.append_eq_append_iff.1 heq with ⟨middle, hmiddle, htail⟩ | ⟨middle, hmiddle, htail⟩
  · cases middle with
    | nil => simpa using (List.cons.inj htail).1
    | cons e middle =>
      obtain ⟨rfl, -⟩ := List.cons.inj htail
      have hlt := hfront' f (by simp [hmiddle])
      omega
  · cases middle with
    | nil => simpa using (List.cons.inj htail).1.symm
    | cons e middle =>
      obtain ⟨rfl, -⟩ := List.cons.inj htail
      have hlt := hfront g (by simp [hmiddle])
      omega

/-- Failures in order, put in brackets two at a time. -/
inductive Bracketing where
  | single (f : Failure)
  | pair (left right : Bracketing)

namespace Bracketing

def failures : Bracketing → List Failure
  | single f => [f]
  | pair left right => left.failures ++ right.failures

/-- The failure that remains if each pair gives way to the further one of its two. -/
def furthest : Bracketing → Failure
  | single f => f
  | pair left right => left.furthest.furthest right.furthest

theorem isFurthest (b : Bracketing) : IsFurthest b.failures b.furthest := by
  induction b with
  | single f => exact isFurthest_single f
  | pair left right ihl ihr => exact ihl.append ihr

end Bracketing

end Failure

/-! ## Trying one parser after another -/

namespace Parser

variable {α : Type} {p : Parser α} {ps front rest : List (Parser α)} {s t : State} {v : α}
  {es : List Failure} {e f : Failure}

/-- All of the parsers fail at `s`, with these failures in this order. -/
def FailWith (s : State) (ps : List (Parser α)) (es : List Failure) : Prop :=
  List.Forall₂ (fun p e => ∃ t, p s = .failure e t) ps es

/-- Parsers that fail do not keep those behind them from their turn. -/
theorem firstOf_append_of_success (hfront : FailWith s front es) (hp : p s = .success v t)
    (best : Option Failure) : firstOf s (front ++ p :: rest) best = .success v t := by
  induction hfront generalizing best with
  | nil => rw [List.nil_append, firstOf, hp]
  | cons hq _ ih =>
    obtain ⟨u, hq⟩ := hq
    rw [List.cons_append, firstOf, hq]
    exact ih _

/-- **A step of the loop keeps the furthest failure so far**, and so its end has the furthest of
all. -/
theorem firstOf_of_failWith {seen : List Failure} (hf : Failure.IsFurthest seen f)
    (hps : FailWith s ps es) :
    ∃ g, Failure.IsFurthest (seen ++ es) g ∧ firstOf s ps (some f) = .failure g s := by
  induction hps generalizing seen f with
  | nil => exact ⟨f, by simpa using hf, rfl⟩
  | @cons p e ps es hp _ ih =>
    obtain ⟨t, hp⟩ := hp
    rw [firstOf, hp]
    obtain ⟨g, hg, hrun⟩ := ih (hf.append (Failure.isFurthest_single e))
    exact ⟨g, by simpa using hg, hrun⟩

theorem alternatives_of_failWith (hps : FailWith s ps es) (hne : ps ≠ []) :
    ∃ f, Failure.IsFurthest es f ∧ alternatives ps s = .failure f s := by
  cases hps with
  | nil => exact (hne rfl).elim
  | @cons p e ps es hp hps =>
    obtain ⟨t, hp⟩ := hp
    rw [alternatives, firstOf, hp]
    exact firstOf_of_failWith (Failure.isFurthest_single e) hps

/-- If the parsers answer up to the first success, there is a first success or all of them fail. -/
theorem exists_first_success (h : ∀ p ∈ ps, p.Answers s) :
    (∃ front p rest es v t, ps = front ++ p :: rest ∧ FailWith s front es ∧
      p s = .success v t) ∨ ∃ es, FailWith s ps es := by
  induction ps with
  | nil => exact .inr ⟨[], .nil⟩
  | cons p ps ih =>
    rcases h p List.mem_cons_self with ⟨v, t, hp⟩ | ⟨e, t, hp⟩
    · exact .inl ⟨[], p, ps, [], v, t, rfl, .nil, hp⟩
    · rcases ih fun q hq => h q (List.mem_cons_of_mem _ hq) with
        ⟨front, q, rest, es, v, u, rfl, hfront, hq⟩ | ⟨es, hps⟩
      · exact .inl ⟨p :: front, q, rest, e :: es, v, u, rfl, .cons ⟨t, hp⟩ hfront, hq⟩
      · exact .inr ⟨e :: es, .cons ⟨t, hp⟩ hps⟩

/-- **Choice.** If some of the alternatives fail at `s` and the one behind them succeeds, the answer
is its success, whatever comes after it. If all of them fail, so does the choice, at `s`: without
alternatives with a label of its own; otherwise with the furthest of their failures and the first
of those, which is what every way to put them in brackets comes to. If all alternatives answer, one
of this is the case. And to take the further one of two failures is associative and idempotent,
gives the larger position, and of two equal ones keeps the left. -/
theorem alternatives_exact (ps : List (Parser α)) (s : State) :
    (∀ front p rest es v t, ps = front ++ p :: rest → FailWith s front es →
      p s = .success v t → alternatives ps s = .success v t) ∧
    (∀ es, FailWith s ps es →
      (ps = [] → alternatives ps s = .failure ⟨"no alternatives", s.consumed, .structural⟩ s) ∧
      (ps ≠ [] → ∃ f, Failure.IsFurthest es f) ∧
      (∀ f, Failure.IsFurthest es f → alternatives ps s = .failure f s) ∧
      ∀ b : Failure.Bracketing, b.failures = es → alternatives ps s = .failure b.furthest s) ∧
    ((∀ p ∈ ps, p.Answers s) →
      (∃ front p rest es v t, ps = front ++ p :: rest ∧ FailWith s front es ∧
        p s = .success v t) ∨ ∃ es, FailWith s ps es) ∧
    ∀ e f g : Failure, (e.furthest f).furthest g = e.furthest (f.furthest g) ∧
      e.furthest e = e ∧ (e.furthest f).position = max e.position f.position ∧
      (e.position = f.position → e.furthest f = e) := by
  refine ⟨?_, ?_, exists_first_success, ?_⟩
  · rintro front p rest es v t rfl hfront hp
    exact firstOf_append_of_success hfront hp none
  · intro es hps
    -- A list with a furthest failure is not empty, and the one that is reported is furthest.
    have hreport : ∀ f, Failure.IsFurthest es f → alternatives ps s = .failure f s := by
      intro f hf
      have hne : ps ≠ [] := by
        rintro rfl
        obtain ⟨front, rest, hes, -⟩ := hf
        cases hps
        simp at hes
      obtain ⟨g, hg, hrun⟩ := alternatives_of_failWith hps hne
      rw [hf.unique hg, hrun]
    refine ⟨?_, fun hne => ?_, hreport, ?_⟩
    · rintro rfl
      rfl
    · obtain ⟨f, hf, -⟩ := alternatives_of_failWith hps hne
      exact ⟨f, hf⟩
    · rintro b rfl
      exact hreport _ b.isFurthest
  · intro e f g
    exact ⟨Failure.furthest_assoc e f g, Failure.furthest_self e, Failure.furthest_position e f,
      fun h => Failure.furthest_of_le (Nat.le_of_eq h.symm)⟩

/-- Three alternatives get past two, four and four characters; with a fourth one behind them that
breaks its contract, its success is the answer. -/
theorem alternatives_exact_pairs :
    let s := State.start ['a', 'b', 'é', 'd']
    let words (xs : List String) : Parser Value := (sequence (xs.map literal)).map fun _ => .null
    let ps := [words ["a", "x"], words ["a", "b", "y"], words ["ab", "z"]]
    alternatives ps s = .failure ⟨"y", 2, .structural⟩ s ∧
    alternatives (ps ++ [jumpTo 9, half]) s = .success (.int 9) ⟨s.remaining, 9, by decide⟩ := by
  intro s words ps
  have hps : FailWith s ps
      [⟨"x", 1, .structural⟩, ⟨"y", 2, .structural⟩, ⟨"z", 2, .structural⟩] :=
    .cons ⟨_, rfl⟩ (.cons ⟨_, rfl⟩ (.cons ⟨_, rfl⟩ .nil))
  have hf : Failure.IsFurthest
      [⟨"x", 1, .structural⟩, ⟨"y", 2, .structural⟩, ⟨"z", 2, .structural⟩]
      ⟨"y", 2, .structural⟩ := ⟨[_], [_], rfl, by simp, by simp⟩
  exact ⟨((alternatives_exact ps s).2.1 _ hps).2.2.1 _ hf,
    (alternatives_exact (ps ++ [jumpTo 9, half]) s).1 ps (jumpTo 9) [half] _ _ _ rfl hps rfl⟩

end Parser

end Descent
