import Descent.Grammar.Basic
import Mathlib.Data.Finset.Card

/-!
# Parts of grammars

The immediate parts of a grammar are the grammars that its form is built from; for `bind` these
are all the grammars that its continuation can choose. A grammar contains itself, its parts, their
parts, and so on, but not the rules that it names.

Proofs by induction on a grammar use `Grammar.part_induction`, whose one case has the statement for
all immediate parts.
-/

namespace Descent

namespace Grammar

/-- `PartOf h g`: the grammar `h` is an immediate part of `g`. -/
inductive PartOf : Grammar → Grammar → Prop
  | map {of f} : PartOf of (.map of f)
  | bind {of next} : PartOf of (.bind of next)
  | bindNext {of next} (v) : PartOf (next v) (.bind of next)
  | productFirst {first second} : PartOf first (.product first second)
  | productSecond {first second} : PartOf second (.product first second)
  | skip {of trailing} : PartOf of (.skip of trailing)
  | skipTrailing {of trailing} : PartOf trailing (.skip of trailing)
  | andThen {of next} : PartOf of (.andThen of next)
  | andThenNext {of next} : PartOf next (.andThen of next)
  | sequence {g items} : g ∈ items → PartOf g (.sequence items)
  | alternatives {g items} : g ∈ items → PartOf g (.alternatives items)
  | desc {of label} : PartOf of (.desc of label)
  | surroundedBy {of before after} : PartOf of (.surroundedBy of before after)
  | times {of least most} : PartOf of (.times of least most)
  | optional {of} : PartOf of (.optional of)
  | delimited {of atLeastOne delimiter} : PartOf of (.delimited of atLeastOne delimiter)
  | delimiter {of atLeastOne d} : PartOf d (.delimited of atLeastOne (some d))

/-- A statement holds of every grammar if it holds of each whose immediate parts it holds of. -/
theorem part_induction {motive : Grammar → Prop}
    (step : ∀ g, (∀ h, PartOf h g → motive h) → motive g) (g : Grammar) : motive g := by
  apply Grammar.rec (motive_1 := motive) (motive_2 := fun items => ∀ h ∈ items, motive h)
    (motive_3 := fun delimiter => ∀ h ∈ delimiter, motive h)
  case nil => simp
  case cons => exact fun g gs hg hgs => List.forall_mem_cons.2 ⟨hg, hgs⟩
  case none => simp
  case some => exact fun g hg => by simpa using hg
  all_goals
    intros
    refine step _ ?_
    rintro _ ⟨⟩
  all_goals solve_by_elim

theorem watchedAll_eq_map (w : Watch) (rules : String → Parser Value) (gs : List Grammar) :
    watchedAll w rules gs = gs.map (·.watched w rules) := by
  induction gs with
  | nil => rfl
  | cons g gs ih => rw [watchedAll, ih, List.map_cons]

theorem parser_sequence (rules : String → Parser Value) (items : List Grammar) :
    (sequence items).parser rules = (Parser.sequence (items.map (·.parser rules))).map .list := by
  show (Parser.sequence (watchedAll .none rules items)).map _ = _
  rw [watchedAll_eq_map]
  rfl

theorem parser_alternatives (rules : String → Parser Value) (items : List Grammar) :
    (alternatives items).parser rules = Parser.alternatives (items.map (·.parser rules)) := by
  show Parser.alternatives (watchedAll .none rules items) = _
  rw [watchedAll_eq_map]
  rfl

/-- The grammars inside a grammar, itself among them. -/
inductive Contains : Grammar → Grammar → Prop
  | self (g : Grammar) : Contains g g
  | part {g h k : Grammar} : PartOf h g → Contains h k → Contains g k

/-- Every step written by hand that the grammar contains has the property. -/
def Steps (S : Parser Value → Prop) (g : Grammar) : Prop := ∀ p, g.Contains (.custom p) → S p

/-- Every pattern that the grammar contains has the property. -/
def Patterns (P : Pattern → Prop) (g : Grammar) : Prop :=
  ∀ p label, g.Contains (.pattern p label) → P p

theorem Steps.part {S : Parser Value → Prop} {g h : Grammar} (hg : g.Steps S) (hh : PartOf h g) :
    h.Steps S := fun p hp => hg p (.part hh hp)

theorem Steps.imp {S T : Parser Value → Prop} {g : Grammar} (hST : ∀ p, S p → T p)
    (hg : g.Steps S) : g.Steps T := fun p hp => hST p (hg p hp)

/-- A grammar has the steps of its parts, and is one itself if it is written by hand. -/
theorem Steps.of_parts {S : Parser Value → Prop} {g : Grammar} (hself : ∀ p, g = .custom p → S p)
    (hparts : ∀ h, PartOf h g → h.Steps S) : g.Steps S := by
  intro p hp
  cases hp with
  | self => exact hself p rfl
  | part hh hp => exact hparts _ hh p hp

theorem Patterns.part {P : Pattern → Prop} {g h : Grammar} (hg : g.Patterns P)
    (hh : PartOf h g) : h.Patterns P := fun p label hp => hg p label (.part hh hp)

/-- A grammar has the patterns of its parts, and is one itself if it matches one. -/
theorem Patterns.of_parts {P : Pattern → Prop} {g : Grammar}
    (hself : ∀ p label, g = .pattern p label → P p) (hparts : ∀ h, PartOf h g → h.Patterns P) :
    g.Patterns P := by
  intro p label hp
  cases hp with
  | self => exact hself p label rfl
  | part hh hp => exact hparts _ hh p label hp

end Grammar

namespace Rules

/-- Every step written by hand in the body of a rule has the property. -/
def Steps (S : Parser Value → Prop) (rules : Rules) : Prop := ∀ name, (rules.body name).Steps S

theorem Steps.imp {S T : Parser Value → Prop} {rules : Rules} (hST : ∀ p, S p → T p)
    (hrules : rules.Steps S) : rules.Steps T := fun name => (hrules name).imp hST

/-- Every pattern in the body of a rule has the property. -/
def Patterns (P : Pattern → Prop) (rules : Rules) : Prop :=
  ∀ name, (rules.body name).Patterns P

/-- The names of the rules. -/
def names (rules : Rules) : Finset String := (rules.entries.map Prod.fst).toFinset

theorem card_names_le (rules : Rules) : rules.names.card ≤ rules.entries.length := by
  calc rules.names.card ≤ (rules.entries.map Prod.fst).length := List.toFinset_card_le _
    _ = rules.entries.length := List.length_map _

/-- A name without a rule matches nothing. -/
theorem body_of_notMem_names {rules : Rules} {name : String} (h : name ∉ rules.names) :
    ∃ label, rules.body name = .fail label := by
  have hlookup : rules.entries.lookup name = none := by
    rw [List.lookup_eq_none_iff]
    rintro ⟨key, g⟩ hmem
    have hne : name ≠ key := by
      rintro rfl
      exact h (List.mem_toFinset.2 (List.mem_map_of_mem (f := Prod.fst) hmem))
    simpa using hne
  refine ⟨"rule " ++ name, ?_⟩
  rw [body, hlookup]
  rfl

/-- What holds of all entries, and of a grammar that matches nothing, holds of every body. -/
theorem body_induction {rules : Rules} {motive : Grammar → Prop}
    (hfail : ∀ label, motive (.fail label)) (hentries : ∀ e ∈ rules.entries, motive e.2)
    (name : String) : motive (rules.body name) := by
  unfold body
  cases h : rules.entries.lookup name with
  | none => exact hfail _
  | some g =>
    obtain ⟨l₁, l₂, hl, -⟩ := List.lookup_eq_some_iff.1 h
    exact hentries (name, g) (by simp [hl])

end Rules

/-- All patterns of the grammar and of the rules are matched by characters. -/
def Grammar.Charwise (g : Grammar) (rules : Rules) : Prop :=
  (g.Patterns fun p => p.bytewise = false) ∧ rules.Patterns fun p => p.bytewise = false

/-- Nothing in the grammar or in the rules is written by hand, and all patterns are matched by
characters. -/
structure Grammar.Plain (g : Grammar) (rules : Rules) : Prop where
  steps : g.Steps fun _ => False
  rulesSteps : rules.Steps fun _ => False
  charwise : g.Charwise rules

end Descent
