import Descent.Proofs.Contract
import Descent.Proofs.Similar

/-!
# Failure restores the start

A parser that fails should hand back the state it was given. Combinators of several stages do this
themselves, by `Reply.restart` or by never letting go of their start; the primitives have nothing
to go back from. So only `map`, `desc` and a named rule, which have one stage and hand its reply
through, can show a state that a step written by hand returned, and only if nothing else stands
between them and that step (`Grammar.Wraps`).

Elsewhere nobody sees the states that come with failures: two grammars that differ in nothing else
have runs with the same outcomes.

Main statement: `Grammar.failure_restores`.
-/

namespace Descent

namespace Grammar

/-! ## Steps whose failures show -/

/-- The grammar is the step `p` inside any number of `map`, `desc` and named rules. -/
inductive Wraps (rules : Rules) : Grammar → Parser Value → Prop
  | custom (p) : Wraps rules (.custom p) p
  | map {of p} (f) : Wraps rules of p → Wraps rules (.map of f) p
  | desc {of p} (label) : Wraps rules of p → Wraps rules (.desc of label) p
  | rule {name p} : Wraps rules (rules.body name) p → Wraps rules (.rule name) p

/-- The parser fails at its start, or with a state that a step in `g` failed with from there. -/
def FailsAtStep (rules : Rules) (g : Grammar) (q : Parser Value) : Prop :=
  ∀ ⦃s e t⦄, q s = .failure e t → t = s ∨ ∃ p, g.Wraps rules p ∧ ∃ cause, p s = .failure cause t

theorem failsAtStep_of_restores {rules : Rules} {g : Grammar} {q : Parser Value}
    (hq : q.Restores) : FailsAtStep rules g q := fun _ _ _ h => .inl (hq h)

theorem parser_failsAtStep {rules : Rules} {parsers : String → Parser Value}
    (hrules : ∀ name, FailsAtStep rules (rules.body name) (parsers name)) (g : Grammar) :
    FailsAtStep rules g (g.parser parsers) := by
  induction g using part_induction with
  | step g ih =>
    cases g with
    | literal text => exact failsAtStep_of_restores ((Parser.restores_literal text).map _)
    | pattern p label => exact failsAtStep_of_restores ((Parser.restores_matching p label).map _)
    | eof => exact failsAtStep_of_restores (Parser.restores_eof.map _)
    | lexeme l => exact failsAtStep_of_restores l.parser_restores
    | succeed v => exact failsAtStep_of_restores (Parser.restores_succeed v)
    | fail label => exact failsAtStep_of_restores (Parser.restores_fail label)
    | rule name =>
      exact fun s e t h => (hrules name h).imp_right fun ⟨p, hp, hs⟩ => ⟨p, .rule hp, hs⟩
    | map of f =>
      exact fun s e t h => (ih of .map (Parser.map_eq_failure.1 h)).imp_right
        fun ⟨p, hp, hs⟩ => ⟨p, .map f hp, hs⟩
    | desc of label =>
      intro s e t h
      obtain ⟨cause, h, -⟩ := Parser.desc_eq_failure.1 h
      exact (ih of .desc h).imp_right fun ⟨p, hp, hs⟩ => ⟨p, .desc label hp, hs⟩
    | bind of next => exact failsAtStep_of_restores (Parser.restores_bind _ _)
    | product first second => exact failsAtStep_of_restores ((Parser.restores_product _ _).map _)
    | skip of trailing => exact failsAtStep_of_restores ((Parser.restores_product _ _).map _)
    | andThen of next => exact failsAtStep_of_restores ((Parser.restores_product _ _).map _)
    | sequence items => exact failsAtStep_of_restores ((Parser.restores_sequence _).map _)
    | alternatives items => exact failsAtStep_of_restores (Parser.restores_alternatives _)
    | surroundedBy of before after =>
      exact failsAtStep_of_restores (Parser.restores_between _ _ _)
    | times of least most => exact failsAtStep_of_restores ((Parser.restores_times _ _ _).map _)
    | optional of =>
      exact fun s e t h => (Parser.optional_ne_failure _ _ _ _ (Parser.map_eq_failure.1 h)).elim
    | delimited of atLeastOne delimiter =>
      cases delimiter with
      | none => exact failsAtStep_of_restores ((Parser.restores_delimited _ _ _).map _)
      | some d => exact failsAtStep_of_restores ((Parser.restores_delimited _ _ _).map _)
    | custom p => exact fun s e t h => .inr ⟨p, .custom p, e, h⟩

theorem failsAtStep_unfold (rules : Rules) (depth : Nat) (name : String) :
    FailsAtStep rules (rules.body name) (rules.unfold depth name) := by
  induction depth generalizing name with
  | zero => exact fun _ _ _ h => by cases h
  | succ depth ih => exact parser_failsAtStep ih (rules.body name)

/-- A failing run hands back its start, or else what a wrapped step returned on failing there. -/
theorem Ends.state_of_failure {rules : Rules} {g : Grammar} {s t : State} {e : Failure}
    (h : g.Ends rules s (.failure e t)) :
    t = s ∨ ∃ p, g.Wraps rules p ∧ ∃ cause, p s = .failure cause t := by
  obtain ⟨-, depth, h⟩ := h
  exact parser_failsAtStep (failsAtStep_unfold rules depth) g h

/-- The state that a wrapped step fails with shows. -/
theorem Wraps.ends {rules : Rules} {g : Grammar} {p : Parser Value} (hg : g.Wraps rules p)
    {s t : State} {cause : Failure} (h : p s = .failure cause t) :
    ∃ e, g.Ends rules s (.failure e t) := by
  suffices hdepth : ∃ e depth, g.parser (rules.unfold depth) s = .failure e t by
    obtain ⟨e, depth, hrun⟩ := hdepth
    exact ⟨e, nofun, depth, hrun⟩
  induction hg with
  | custom p => exact ⟨cause, 0, h⟩
  | map f _ ih =>
    obtain ⟨e, depth, hrun⟩ := ih h
    exact ⟨e, depth, Parser.map_eq_failure.2 hrun⟩
  | desc label _ ih =>
    obtain ⟨e, depth, hrun⟩ := ih h
    exact ⟨e.relabel label, depth, Parser.desc_eq_failure.2 ⟨e, hrun, rfl⟩⟩
  | rule _ ih =>
    obtain ⟨e, depth, hrun⟩ := ih h
    exact ⟨e, depth + 1, hrun⟩

end Grammar

/-! ## The states of failures do not matter -/

/-- A reply without the state that comes with a failure. -/
def Reply.outcome {α : Type} : Reply α → Outcome Failure (α × State)
  | .success v s => .ok (v, s)
  | .failure e _ => .error e
  | .fault r => .fault r
  | .unfinished => .unfinished

/-- The runs have the same outcomes, but may hand back different states with failures. -/
def Coupling.outcome : Coupling where
  state := Eq
  failure := Eq

namespace Coupling

theorem replies_outcome {α : Type} {r r' : Reply α} :
    Coupling.outcome.Replies r r' ↔ r.outcome = r'.outcome := by
  constructor
  · intro h
    cases h with
    | success v hs => exact congrArg (fun s => Outcome.ok (v, s)) hs
    | failure he _ => exact congrArg Outcome.error he
    | fault _ => rfl
    | unfinished _ => rfl
    | cut _ hc => exact hc.elim
  · intro h
    cases r <;> cases r' <;> simp only [Reply.outcome, reduceCtorEq, Outcome.ok.injEq,
      Outcome.error.injEq, Outcome.fault.injEq, Prod.mk.injEq] at h
    · obtain ⟨rfl, rfl⟩ := h
      exact .success _ rfl
    · exact .failure h trivial
    · subst h
      exact .fault trivial
    · exact .unfinished trivial

theorem lawful_outcome : Coupling.outcome.Lawful where
  remaining := by rintro s t rfl; rfl
  consumed_lt := by rintro s t s' t' rfl rfl; rfl
  back _ := trivial
  advance := by rintro s t n rfl -; exact replies_outcome.2 rfl
  here := by rintro s t label kind rfl -; rfl
  relabel := by rintro e f label rfl; rfl
  withKind := by rintro e f rfl; rfl
  furthest := by rintro e f e' f' rfl rfl; rfl

end Coupling

/-- Steps that differ only in the states that they fail with. -/
def Parser.SameOutcomes (p q : Parser Value) : Prop := ∀ s, (p s).outcome = (q s).outcome

/-- The same step, made to go back to its start when it fails. -/
def Parser.restarting (p : Parser Value) : Parser Value := fun s => (p s).restart s

theorem Parser.sameOutcomes_restarting (p : Parser Value) : p.SameOutcomes p.restarting := by
  intro s
  rw [restarting]
  cases p s <;> rfl

namespace Grammar

/-- The grammars differ only in the states that their steps fail with. -/
abbrev SameButFailures : Grammar → Grammar → Prop := Similar Parser.SameOutcomes fun _ => True

theorem fits_outcome : Fits .outcome .none Parser.SameOutcomes fun _ => True where
  lawful := Coupling.lawful_outcome
  tolerates := Coupling.tolerates_none _
  steps := by rintro p q hpq s _ rfl; exact Coupling.replies_outcome.2 (hpq s)
  patterns _ _ := trivial

/-- At every depth such grammars have the same outcomes. -/
theorem SameButFailures.outcome_parser {rules rules' : Rules} {g g' : Grammar}
    (hrules : ∀ name, (rules.body name).SameButFailures (rules'.body name))
    (hg : g.SameButFailures g') (depth : Nat) (s : State) :
    (g.parser (rules.unfold depth) s).outcome = (g'.parser (rules'.unfold depth) s).outcome := by
  have h := Similar.runs fits_outcome trivial hrules hg (.inl (rfl : depth = depth))
    (rfl : s = s)
  exact Coupling.replies_outcome.1 h

/-- A run ends as another one does that has the same outcome at every depth. -/
theorem Ends.of_outcome {rules rules' : Rules} {g g' : Grammar} {s : State} {r : Reply Value}
    (h : g.Ends rules s r) (hout : ∀ depth, (g.parser (rules.unfold depth) s).outcome =
      (g'.parser (rules'.unfold depth) s).outcome) :
    ∃ r', g'.Ends rules' s r' ∧ r'.outcome = r.outcome := by
  obtain ⟨hr, depth, rfl⟩ := h
  refine ⟨_, ⟨fun h' => hr ?_, depth, rfl⟩, (hout depth).symm⟩
  have hunfinished := hout depth
  rw [h'] at hunfinished
  cases h : g.parser (rules.unfold depth) s <;> simp [h, Reply.outcome] at hunfinished ⊢

/-- **Failure restores the start.** If a run fails and hands back a state other than its start, its
grammar is a step written by hand inside `map`, `desc` and named rules only, and this step failed
with that state; and if a step inside such forms fails, its state shows. Grammars that differ only
in the states that steps fail with have runs with the same values, failures and states after
success. -/
theorem failure_restores (g : Grammar) (rules : Rules) :
    (∀ s e t, g.Ends rules s (.failure e t) → t ≠ s →
      ∃ p, g.Wraps rules p ∧ ∃ cause, p s = .failure cause t) ∧
    (∀ p s cause t, g.Wraps rules p → p s = .failure cause t →
      ∃ e, g.Ends rules s (.failure e t)) ∧
    ∀ g' rules', g.SameButFailures g' →
      (∀ name, (rules.body name).SameButFailures (rules'.body name)) →
      ∀ s o, (∃ r, g.Ends rules s r ∧ r.outcome = o) ↔ ∃ r, g'.Ends rules' s r ∧ r.outcome = o := by
  refine ⟨fun s e t h hne => h.state_of_failure.resolve_left hne,
    fun p s cause t hg h => hg.ends h, fun g' rules' hg hrules s o => ?_⟩
  have hout : ∀ depth, (g.parser (rules.unfold depth) s).outcome =
      (g'.parser (rules'.unfold depth) s).outcome := fun depth => hg.outcome_parser hrules depth s
  constructor
  · rintro ⟨r, hr, rfl⟩
    exact hr.of_outcome hout
  · rintro ⟨r, hr, rfl⟩
    exact hr.of_outcome fun depth => (hout depth).symm

/-- The step `half` fails behind the next character. -/
theorem failure_restores_half :
    let g (p : Parser Value) := ((Grammar.custom p).desc "half a pair").map id
    let s := State.start ['a', 'b']
    let e : Failure := ⟨"half a pair", 0, .structural⟩
    (g .half).Ends ⟨[]⟩ s (.failure e ⟨['b'], 1, by decide⟩) ∧
    (∃ p, (g .half).Wraps ⟨[]⟩ p ∧ ∃ cause, p s = .failure cause ⟨['b'], 1, by decide⟩) ∧
    ∃ r, (g Parser.half.restarting).Ends ⟨[]⟩ s r ∧ r.outcome = .error e := by
  intro g s e
  obtain ⟨hwraps, -, hsame⟩ := failure_restores (g .half) ⟨[]⟩
  have hg : (g .half).Ends ⟨[]⟩ s (.failure e ⟨['b'], 1, by decide⟩) := ⟨nofun, 0, rfl⟩
  have hsimilar : (g .half).SameButFailures (g Parser.half.restarting) :=
    .map _ (.desc _ (.custom (Parser.sameOutcomes_restarting _)))
  exact ⟨hg, hwraps _ _ _ hg (by decide),
    (hsame _ ⟨[]⟩ hsimilar (fun _ => .fail _) s _).1 ⟨_, hg, rfl⟩⟩

end Grammar

end Descent
