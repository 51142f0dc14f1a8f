import Descent.Proofs.Limit

/-!
# Rules stand for their bodies

Wherever a grammar names a rule, the body of the rule can stand instead, in the grammar and in the
rules themselves, at some places and not at others, and once more inside what has been put there
(`Grammar.Unrolled`).

What is unrolled and what it was unrolled from answer alike over any solution of the rules, because
there a rule equals its body. So the limits of the old rules are a solution of the new ones, and the
limits of the new rules, which are the least solution, lie below them. The other way round, a run of
the old rules to some depth goes on at least as far over the limits of the new ones: where it enters
a rule it has one unit of depth less, and what stands there now is no less unrolled.

Main statement: `Grammar.rules_transparent`.
-/

namespace Descent

namespace Grammar

/-! ## Unrolled grammars -/

/-- `Unrolled rules g h`: `h` is `g` with rules replaced by their bodies at some places, where these
bodies may themselves be unrolled. -/
inductive Unrolled (rules : Rules) : Grammar → Grammar → Prop
  | refl (g) : Unrolled rules g g
  | rule {name h} : Unrolled rules (rules.body name) h → Unrolled rules (.rule name) h
  | map {g h} (f) : Unrolled rules g h → Unrolled rules (.map g f) (.map h f)
  | bind {g h next next'} : Unrolled rules g h → (∀ v, Unrolled rules (next v) (next' v)) →
    Unrolled rules (.bind g next) (.bind h next')
  | product {g h g' h'} : Unrolled rules g h → Unrolled rules g' h' →
    Unrolled rules (.product g g') (.product h h')
  | skip {g h g' h'} : Unrolled rules g h → Unrolled rules g' h' →
    Unrolled rules (.skip g g') (.skip h h')
  | andThen {g h g' h'} : Unrolled rules g h → Unrolled rules g' h' →
    Unrolled rules (.andThen g g') (.andThen h h')
  | sequence {items : List (Grammar × Grammar)} : (∀ i ∈ items, Unrolled rules i.1 i.2) →
    Unrolled rules (.sequence (items.map Prod.fst)) (.sequence (items.map Prod.snd))
  | alternatives {items : List (Grammar × Grammar)} : (∀ i ∈ items, Unrolled rules i.1 i.2) →
    Unrolled rules (.alternatives (items.map Prod.fst)) (.alternatives (items.map Prod.snd))
  | desc {g h} (label) : Unrolled rules g h → Unrolled rules (.desc g label) (.desc h label)
  | surroundedBy {g h} (before after) : Unrolled rules g h →
    Unrolled rules (.surroundedBy g before after) (.surroundedBy h before after)
  | times {g h} (least most) : Unrolled rules g h →
    Unrolled rules (.times g least most) (.times h least most)
  | optional {g h} : Unrolled rules g h → Unrolled rules (.optional g) (.optional h)
  | elements {g h} (atLeastOne) : Unrolled rules g h →
    Unrolled rules (.delimited g atLeastOne none) (.delimited h atLeastOne none)
  | delimited {g h d d'} (atLeastOne) : Unrolled rules g h → Unrolled rules d d' →
    Unrolled rules (.delimited g atLeastOne (some d)) (.delimited h atLeastOne (some d'))

/-! ## Unrolled grammars answer alike -/

section Equal

variable {rules : Rules} {cut : Prop} {old new : String → Parser Value}

theorem forall₂_parsers_of_pairs {items : List (Grammar × Grammar)}
    (h : ∀ i ∈ items, (Coupling.equal cut).Parsers (i.1.parser old) (i.2.parser new)) :
    List.Forall₂ (Coupling.equal cut).Parsers ((items.map Prod.fst).map (·.parser old))
      ((items.map Prod.snd).map (·.parser new)) := by
  simp only [List.map_map, List.forall₂_map_left_iff, List.forall₂_map_right_iff]
  exact List.forall₂_same.2 h

/-- Unrolled grammars correspond if the rules do, and if each rule does with its body unrolled. -/
theorem Unrolled.parsers (hrules : ∀ name, (Coupling.equal cut).Parsers (old name) (new name))
    (hbody : ∀ name h, (rules.body name).Unrolled rules h →
      (Coupling.equal cut).Parsers ((rules.body name).parser old) (h.parser new) →
      (Coupling.equal cut).Parsers (old name) (h.parser new))
    {g h : Grammar} (hgh : g.Unrolled rules h) :
    (Coupling.equal cut).Parsers (g.parser old) (h.parser new) := by
  have hC := Coupling.lawful_equal cut
  induction hgh with
  | refl g => exact Similar.parsers (fits_equal cut) hrules g.similar_refl
  | rule hh ih => exact hbody _ _ hh ih
  | map f _ ih => exact ih.map f
  | bind _ _ ih ih' => exact ih.bind hC ih'
  | product _ _ ih ih' => exact (ih.product hC ih').map _
  | skip _ _ ih ih' => exact ih.skip hC ih'
  | andThen _ _ ih ih' => exact ih.andThen hC ih'
  | sequence _ ih =>
    rw [parser_sequence, parser_sequence]
    exact (Coupling.parsers_sequence hC (forall₂_parsers_of_pairs ih)).map _
  | alternatives _ ih =>
    rw [parser_alternatives, parser_alternatives]
    exact Coupling.parsers_alternatives hC (forall₂_parsers_of_pairs ih)
  | desc label _ ih => exact ih.desc hC label
  | surroundedBy before after _ ih =>
    exact ih.between hC (Coupling.parsers_literal hC before) (Coupling.parsers_literal hC after)
  | times least most _ ih => exact (ih.times hC least most).map _
  | optional _ ih => exact ih.optional.map _
  | elements atLeastOne _ ih => exact (ih.delimited hC .none atLeastOne).map _
  | delimited atLeastOne _ _ ih ih' => exact (ih.delimited hC (.some ih') atLeastOne).map _

end Equal

variable {rules rules' : Rules} {g h : Grammar} {parsers : String → Parser Value}

/-- Over a solution of the rules, unrolling changes nothing. -/
theorem Unrolled.parser_eq (hsolution : ∀ name, (rules.body name).parser parsers = parsers name)
    (hgh : g.Unrolled rules h) : g.parser parsers = h.parser parsers := by
  funext s
  have hparsers : (Coupling.equal False).Parsers (g.parser parsers) (h.parser parsers) :=
    hgh.parsers (fun name => Coupling.parsers_equal_self _ _)
      fun name h _ hbody => hsolution name ▸ hbody
  simpa using Coupling.eq_of_replies_equal (hparsers (rfl : s = s))

end Grammar

/-! ## Unrolled rules have the same limits -/

namespace Rules

variable {rules rules' : Rules}

/-- The bodies of the new rules are unrolled from those of the old ones. -/
def Unrolled (rules rules' : Rules) : Prop :=
  ∀ name, (rules.body name).Unrolled rules (rules'.body name)

/-- The limits of the old rules solve the new ones. -/
theorem Unrolled.parser_limit (h : rules.Unrolled rules') (name : String) :
    (rules'.body name).parser rules.limit = rules.limit name := by
  rw [← (h name).parser_eq fun name => (rules.limit_eq name).symm]
  exact (rules.limit_eq name).symm

/-- What is unrolled goes at least as far over the new limits as the old grammar goes to a depth. -/
theorem Unrolled.parsers_unfold (h : rules.Unrolled rules') (depth : Nat) {g g' : Grammar}
    (hg : g.Unrolled rules g') :
    (Coupling.equal True).Parsers (g.parser (rules.unfold depth)) (g'.parser rules'.limit) := by
  induction depth generalizing g g' with
  | zero =>
    refine hg.parsers (fun name s t _ => ?_) fun name h _ _ s t _ => ?_
    · exact .cut _ trivial
    · exact .cut _ trivial
  | succ depth ih =>
    refine hg.parsers (fun name => ?_) fun name g hbody _ => ?_
    · rw [rules'.limit_eq]
      exact ih (h name)
    · exact ih hbody

/-- Old and new rules have the same limits. -/
theorem Unrolled.limit_eq (h : rules.Unrolled rules') : rules'.limit = rules.limit := by
  funext name s
  have hle := limit_least h.parser_limit name (rfl : s = s)
  rcases Coupling.eq_of_replies_equal hle with ⟨-, hunfinished⟩ | heq
  · -- Where the new limit does not answer, the old one does not either.
    obtain ⟨n, hn⟩ := (rules.approach_limit name s).exists
    have hge := h.parsers_unfold n (.refl (.rule name)) (rfl : s = s)
    rcases Coupling.eq_of_replies_equal hge with ⟨-, hold⟩ | hold
    · rw [hunfinished, ← hn]
      exact hold.symm
    · rw [← hn]
      exact hold.symm
  · exact heq

end Rules

namespace Grammar

/-- **A rule stands for its body.** Let some of the rules that a grammar names be replaced by their
bodies, and likewise in the bodies of the rules, any number of times. Then the runs of the old and
of the new grammar end at the same states, and with the same reply: the same value or failure, and
the same state. -/
theorem rules_transparent {rules rules' : Rules} {g g' : Grammar} (hrules : rules.Unrolled rules')
    (hg : g.Unrolled rules g') (s : State) (r : Reply Value) :
    g.Ends rules s r ↔ g'.Ends rules' s r := by
  rw [ends_iff_limit, ends_iff_limit, hrules.limit_eq]
  rw [hg.parser_eq fun name => (rules.limit_eq name).symm]

/-- Nested brackets. The new rule names itself one level further inside, and the new grammar is a
body that names the new rule. -/
theorem rules_transparent_nest :
    let nest (inner : Grammar) : Grammar :=
      .sequence [.literal "(", .optional inner, .literal ")"]
    let rules : Rules := ⟨[("nest", nest (.rule "nest"))]⟩
    let rules' : Rules := ⟨[("nest", nest (nest (.rule "nest")))]⟩
    let s := State.start ['(', '(', '(', ')', ')', ')', '(']
    rules.Unrolled rules' ∧ ∃ v t, Ends (.rule "nest") rules s (.success v t) ∧
      (nest (.rule "nest")).Ends rules' s (.success v t) ∧ t.remaining = ['('] := by
  intro nest rules rules' s
  have hnest : ∀ {a b}, a.Unrolled rules b → (nest a).Unrolled rules (nest b) := by
    intro a b hab
    let items : List (Grammar × Grammar) := [(.literal "(", .literal "("),
      (.optional a, .optional b), (.literal ")", .literal ")")]
    show Unrolled rules (.sequence (items.map Prod.fst)) (.sequence (items.map Prod.snd))
    refine .sequence fun i hi => ?_
    simp only [items, List.mem_cons, List.not_mem_nil, or_false] at hi
    rcases hi with rfl | rfl | rfl
    · exact .refl _
    · exact .optional hab
    · exact .refl _
  have hrules : rules.Unrolled rules' := by
    intro name
    by_cases hname : name = "nest"
    · subst hname
      exact hnest (.rule (hnest (.refl _)))
    · have hnot : (name == "nest") = false := by simpa using hname
      have hbody : rules.body name = rules'.body name := by
        simp [Rules.body, rules, rules', List.lookup_cons, hnot]
      exact hbody ▸ .refl _
  have hend : ∃ v t, (Grammar.rule "nest").parser (rules.unfold 4) s = .success v t ∧
      t.remaining = ['('] := ⟨_, _, rfl, rfl⟩
  obtain ⟨v, t, hrun, hrest⟩ := hend
  have hg : Ends (.rule "nest") rules s (.success v t) := ⟨by simp, 4, hrun⟩
  exact ⟨hrules, v, t, hg, (rules_transparent hrules (.rule (.refl _)) s _).1 hg, hrest⟩

end Grammar

end Descent
