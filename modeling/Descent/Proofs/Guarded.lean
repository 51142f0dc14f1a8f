import Descent.Proofs.Parts
import Mathlib.Logic.Relation

/-!
# Guarded rules

A rule that comes up again inside itself before anything has been read goes on forever. This is
excluded by looking at the rules alone. Three relations are computed from them as least fixed
points:

- a grammar *may pass* if it may succeed without reading anything (`Grammar.MayPass`);
- it *starts with* those of its parts that may run before anything has been read
  (`Grammar.StartsWith`), and so *leads* to the rules that it names there (`Grammar.Leads`);
- a rule *depends on the left* on the rules that its body leads to (`Rules.LeftDepends`).

They err on the side of passing: which values come up, and so which continuation is chosen or which
alternative is tried, is not looked at.

Rules are guarded if none depends on itself. Then every rule has a rank, which a step to the left
decreases (`Rules.rank_lt`).
-/

namespace Descent

/-- The parser succeeds somewhere without reading anything. -/
def Parser.Passes {α : Type} (p : Parser α) : Prop :=
  ∃ s v t, p s = .success v t ∧ t.remaining = s.remaining

namespace Grammar

variable {rules : Rules}

/-! ## Grammars that may pass -/

/-- The grammar may succeed without reading anything. A lexer never does. -/
inductive MayPass (rules : Rules) : Grammar → Prop
  | literal : MayPass rules (.literal "")
  | pattern {p text} (label) : p.matchEnd? text = some 0 → MayPass rules (.pattern p label)
  | eof : MayPass rules .eof
  | succeed (v) : MayPass rules (.succeed v)
  | rule {name} : MayPass rules (rules.body name) → MayPass rules (.rule name)
  | map {of} (f) : MayPass rules of → MayPass rules (.map of f)
  | bind {of next} (v) : MayPass rules of → MayPass rules (next v) → MayPass rules (.bind of next)
  | product {first second} : MayPass rules first → MayPass rules second →
    MayPass rules (.product first second)
  | skip {of trailing} : MayPass rules of → MayPass rules trailing →
    MayPass rules (.skip of trailing)
  | andThen {of next} : MayPass rules of → MayPass rules next → MayPass rules (.andThen of next)
  | sequence {items} : (∀ g ∈ items, MayPass rules g) → MayPass rules (.sequence items)
  | alternatives {g items} : g ∈ items → MayPass rules g → MayPass rules (.alternatives items)
  | desc {of} (label) : MayPass rules of → MayPass rules (.desc of label)
  | surroundedBy {of} : MayPass rules of → MayPass rules (.surroundedBy of "" "")
  | timesNone (of most) : MayPass rules (.times of 0 most)
  | times {of} (least most) : MayPass rules of → MayPass rules (.times of least most)
  | optional (of) : MayPass rules (.optional of)
  | delimitedNone (of delimiter) : MayPass rules (.delimited of false delimiter)
  | delimited {of} (atLeastOne delimiter) : MayPass rules of →
    MayPass rules (.delimited of atLeastOne delimiter)
  | custom {p : Parser Value} : p.Passes → MayPass rules (.custom p)

/-! ## What comes up on the left -/

/-- The part `h` of `g` may run before `g` has read anything. -/
inductive StartsWith (rules : Rules) : (g h : Grammar) → Prop
  | map {of f} : StartsWith rules (.map of f) of
  | bind {of next} : StartsWith rules (.bind of next) of
  | bindNext {of next} (v) : of.MayPass rules → StartsWith rules (.bind of next) (next v)
  | productFirst {first second} : StartsWith rules (.product first second) first
  | productSecond {first second} : first.MayPass rules →
    StartsWith rules (.product first second) second
  | skip {of trailing} : StartsWith rules (.skip of trailing) of
  | skipTrailing {of trailing} : of.MayPass rules → StartsWith rules (.skip of trailing) trailing
  | andThen {of next} : StartsWith rules (.andThen of next) of
  | andThenNext {of next} : of.MayPass rules → StartsWith rules (.andThen of next) next
  | sequence {front g rest} : (∀ h ∈ front, h.MayPass rules) →
    StartsWith rules (.sequence (front ++ g :: rest)) g
  | alternatives {g items} : g ∈ items → StartsWith rules (.alternatives items) g
  | desc {of label} : StartsWith rules (.desc of label) of
  | surroundedBy {of after} : StartsWith rules (.surroundedBy of "" after) of
  | times {of least most} : most ≠ 0 → StartsWith rules (.times of least most) of
  | optional {of} : StartsWith rules (.optional of) of
  | delimited {of atLeastOne delimiter} : StartsWith rules (.delimited of atLeastOne delimiter) of
  | delimiter {of atLeastOne d} : of.MayPass rules →
    StartsWith rules (.delimited of atLeastOne (some d)) d

theorem StartsWith.partOf {g h : Grammar} (hh : g.StartsWith rules h) : PartOf h g := by
  cases hh with
  | map => exact .map
  | bind => exact .bind
  | bindNext v _ => exact .bindNext v
  | productFirst => exact .productFirst
  | productSecond _ => exact .productSecond
  | skip => exact .skip
  | skipTrailing _ => exact .skipTrailing
  | andThen => exact .andThen
  | andThenNext _ => exact .andThenNext
  | sequence _ => exact .sequence (List.mem_append_right _ List.mem_cons_self)
  | alternatives hh => exact .alternatives hh
  | desc => exact .desc
  | surroundedBy => exact .surroundedBy
  | times _ => exact .times
  | optional => exact .optional
  | delimited => exact .delimited
  | delimiter _ => exact .delimiter

/-- The rules that the grammar names where it may not have read anything. -/
inductive Leads (rules : Rules) : Grammar → String → Prop
  | rule (name) : Leads rules (.rule name) name
  | part {g h name} : StartsWith rules g h → Leads rules h name → Leads rules g name

/-- What stands behind a text that is not empty does not come up on the left. -/
theorem not_leads_surroundedBy {of : Grammar} {before after name : String} (h : before ≠ "") :
    ¬ (surroundedBy of before after).Leads rules name := by
  rintro (_ | ⟨hstart, -⟩)
  cases hstart
  exact h rfl

end Grammar

namespace Rules

variable {rules : Rules}

/-- The body of the first rule leads to the second. -/
def LeftDepends (rules : Rules) (name other : String) : Prop := (rules.body name).Leads rules other

/-- No rule depends on itself on the left, at any number of removes. -/
def Guarded (rules : Rules) : Prop := ∀ name, ¬ Relation.TransGen rules.LeftDepends name name

/-- Rules are guarded if all their bodies read something before they name a rule. -/
theorem guarded_of_not_leads (h : ∀ name other, ¬ (rules.body name).Leads rules other) :
    rules.Guarded := by
  intro name hcycle
  obtain ⟨other, hstep, -⟩ := Relation.TransGen.head'_iff.1 hcycle
  exact h name other hstep

/-! ## Ranks -/

open Classical in
/-- The number of rules that come up on the left of a rule, itself among them. -/
noncomputable def rank (rules : Rules) (name : String) : Nat :=
  (rules.names.filter (Relation.ReflTransGen rules.LeftDepends name)).card

theorem rank_le (rules : Rules) (name : String) : rules.rank name ≤ rules.entries.length := by
  classical
  exact (Finset.card_filter_le _ _).trans rules.card_names_le

/-- A name without a rule leads nowhere. -/
theorem LeftDepends.mem_names {name other : String} (h : rules.LeftDepends name other) :
    name ∈ rules.names := by
  by_contra hname
  obtain ⟨label, hbody⟩ := body_of_notMem_names hname
  rw [LeftDepends, hbody] at h
  cases h with
  | part hstart _ => cases hstart

/-- **A step to the left decreases the rank.** -/
theorem rank_lt (hguard : rules.Guarded) {name other : String}
    (h : rules.LeftDepends name other) : rules.rank other < rules.rank name := by
  classical
  have hself : name ∉ rules.names.filter (Relation.ReflTransGen rules.LeftDepends other) := by
    intro hmem
    exact hguard name (.head' h (Finset.mem_filter.1 hmem).2)
  refine Finset.card_lt_card (Finset.ssubset_iff.2 ⟨name, hself, fun q hq => ?_⟩)
  rcases Finset.mem_insert.1 hq with rfl | hq
  · exact Finset.mem_filter.2 ⟨h.mem_names, .refl⟩
  · obtain ⟨hmem, hreach⟩ := Finset.mem_filter.1 hq
    exact Finset.mem_filter.2 ⟨hmem, .head h hreach⟩

end Rules

end Descent
