import Descent.Proofs.Choice
import Descent.Proofs.Counting
import Descent.Proofs.Parts
import Descent.Proofs.Whole
import Mathlib.Order.FixedPoints
import Mathlib.Order.CompletePartialOrder

/-!
# What a grammar can report

Which failures a grammar can end with, as far as label and kind go, can be read off the grammar
(`Grammar.diagnostics`). Leaves report their own labels; several stages report what each of them
does; `desc` puts its label for all others. A counted repetition reports what its element does, as
failures of quantity, and only if it needs an element; its own label comes up only if it needs more
than it may have. A delimited repetition reports what its first element does, and nothing of its
delimiter. What may be missing is not reported at all.

For rules, which may refer to each other, these sets are the least solution of the equations that
their bodies give (`Rules.diagnostics`).

The statement goes by induction on the depth of the run and then on the grammar, with one lemma for
each combinator: if the parts of a parser fail within a set, so does the parser
(`Parser.FailsWithin`).

Main statement: `Grammar.diagnostics_cover`.
-/

namespace Descent

/-! ## Labels with kinds -/

/-- What a failure reports apart from its position: what was expected, and the kind. -/
abbrev Diagnostic := String × FailureKind

def Failure.diagnostic (e : Failure) : Diagnostic := (e.expected, e.kind)

namespace Diagnostic

/-- The diagnostics with another label. -/
def relabelled (label : String) (D : Set Diagnostic) : Set Diagnostic :=
  {x | ∃ y ∈ D, x = (label, y.2)}

/-- The diagnostics as ones of quantity. -/
def asQuantity (D : Set Diagnostic) : Set Diagnostic := {x | ∃ y ∈ D, x = (y.1, .quantity)}

theorem relabelled_mono {D E : Set Diagnostic} (h : D ⊆ E) (label : String) :
    relabelled label D ⊆ relabelled label E := by
  rintro x ⟨y, hy, rfl⟩
  exact ⟨y, h hy, rfl⟩

theorem asQuantity_mono {D E : Set Diagnostic} (h : D ⊆ E) : asQuantity D ⊆ asQuantity E := by
  rintro x ⟨y, hy, rfl⟩
  exact ⟨y, h hy, rfl⟩

end Diagnostic

/-! ## The diagnostics of a grammar -/

def Lexeme.diagnostics : Lexeme → Set Diagnostic
  | whitespace => {("whitespace", .structural)}
  | digits => {("digits", .structural)}
  | word => {("word", .structural)}
  | integer => {("integer", .structural), ("integer in range", .structural)}
  | decimal => {("number", .structural)}

namespace Grammar

mutual

/-- What the grammar can report, where `known` says it of the rules. A step written by hand reports
what it fails with. -/
def diagnostics (known : String → Set Diagnostic) : Grammar → Set Diagnostic
  | literal text => {(text, .structural)}
  | pattern _ label => {(label, .structural)}
  | eof => {("end of input", .structural)}
  | lexeme l => l.diagnostics
  | succeed _ => ∅
  | fail label => {(label, .structural)}
  | rule name => known name
  | map of _ => of.diagnostics known
  | bind of next => of.diagnostics known ∪ ⋃ v, (next v).diagnostics known
  | product first second => first.diagnostics known ∪ second.diagnostics known
  | skip of trailing => of.diagnostics known ∪ trailing.diagnostics known
  | andThen of next => of.diagnostics known ∪ next.diagnostics known
  | sequence items => diagnosticsOfAll known items
  | alternatives [] => {("no alternatives", .structural)}
  | alternatives (g :: gs) => g.diagnostics known ∪ diagnosticsOfAll known gs
  | desc of label => Diagnostic.relabelled label (of.diagnostics known)
  | surroundedBy of before after =>
    {(before, .structural)} ∪ of.diagnostics known ∪ {(after, .structural)}
  | times of least most =>
    {x | 0 < least ∧ 0 < most ∧ x ∈ Diagnostic.asQuantity (of.diagnostics known)} ∪
      {x | most < least ∧ x = ("at least " ++ Nat.repr least ++ " repetitions", .quantity)}
  | optional _ => ∅
  | delimited of true _ => Diagnostic.asQuantity (of.diagnostics known)
  | delimited _ false _ => ∅
  | custom p => {x | ∃ s e t, p s = .failure e t ∧ x = e.diagnostic}

/-- What one of the grammars can report. -/
def diagnosticsOfAll (known : String → Set Diagnostic) : List Grammar → Set Diagnostic
  | [] => ∅
  | g :: gs => g.diagnostics known ∪ diagnosticsOfAll known gs

end

theorem mem_diagnosticsOfAll {known : String → Set Diagnostic} {gs : List Grammar}
    {x : Diagnostic} : x ∈ diagnosticsOfAll known gs ↔ ∃ g ∈ gs, x ∈ g.diagnostics known := by
  induction gs with
  | nil => simp [diagnosticsOfAll]
  | cons g gs ih => simp [diagnosticsOfAll, ih]

/-- Rules that report more make a grammar report more. -/
theorem diagnostics_mono (g : Grammar) : Monotone fun known => g.diagnostics known := by
  intro known known' h
  induction g using part_induction with
  | step g ih =>
    have hall : ∀ gs : List Grammar, (∀ g' ∈ gs, PartOf g' g) →
        diagnosticsOfAll known gs ⊆ diagnosticsOfAll known' gs := by
      intro gs hgs x hx
      obtain ⟨g', hg', hx⟩ := mem_diagnosticsOfAll.1 hx
      exact mem_diagnosticsOfAll.2 ⟨g', hg', ih g' (hgs g' hg') hx⟩
    show g.diagnostics known ⊆ g.diagnostics known'
    cases g with
    | rule name => exact h name
    | map of f => exact ih of .map
    | bind of next =>
      exact Set.union_subset_union (ih of .bind) (Set.iUnion_mono fun v => ih _ (.bindNext v))
    | product first second =>
      exact Set.union_subset_union (ih _ .productFirst) (ih _ .productSecond)
    | skip of trailing => exact Set.union_subset_union (ih _ .skip) (ih _ .skipTrailing)
    | andThen of next => exact Set.union_subset_union (ih _ .andThen) (ih _ .andThenNext)
    | sequence items => exact hall items fun g' => .sequence
    | alternatives items =>
      cases items with
      | nil => exact subset_rfl
      | cons g' gs =>
        exact Set.union_subset_union (ih _ (.alternatives List.mem_cons_self))
          (hall gs fun g' hg' => .alternatives (List.mem_cons_of_mem _ hg'))
    | desc of label => exact Diagnostic.relabelled_mono (ih of .desc) label
    | surroundedBy of before after =>
      exact Set.union_subset_union_left _ (Set.union_subset_union_right _ (ih of .surroundedBy))
    | times of least most =>
      refine Set.union_subset_union_left _ fun x hx => ?_
      exact ⟨hx.1, hx.2.1, Diagnostic.asQuantity_mono (ih of .times) hx.2.2⟩
    | delimited of atLeastOne delimiter =>
      cases atLeastOne with
      | true => exact Diagnostic.asQuantity_mono (ih of .delimited)
      | false => exact subset_rfl
    | _ => exact subset_rfl

end Grammar

namespace Rules

/-- What the bodies of the rules can report, where `known` says it of the rules. -/
def diagnosticsStep (rules : Rules) :
    (String → Set Diagnostic) →o (String → Set Diagnostic) where
  toFun known name := (rules.body name).diagnostics known
  monotone' _ _ h name := (rules.body name).diagnostics_mono h

/-- What the rules can report: the least sets that their bodies do not exceed. -/
def diagnostics (rules : Rules) : String → Set Diagnostic := rules.diagnosticsStep.lfp

theorem diagnostics_body (rules : Rules) (name : String) :
    (rules.body name).diagnostics rules.diagnostics = rules.diagnostics name :=
  congrFun rules.diagnosticsStep.map_lfp name

theorem isLeast_diagnostics (rules : Rules) :
    IsLeast {known | ∀ name, known name = (rules.body name).diagnostics known}
      rules.diagnostics := by
  refine ⟨fun name => (rules.diagnostics_body name).symm, fun known h => ?_⟩
  exact rules.diagnosticsStep.lfp_le_fixed (funext fun name => (h name).symm)

end Rules

/-! ## Parsers that fail within a set -/

variable {α β γ : Type} {D E : Set Diagnostic}

/-- If the reply is a failure, its diagnostic is in the set. -/
def Reply.FailsWithin (D : Set Diagnostic) : Reply α → Prop
  | .failure e _ => e.diagnostic ∈ D
  | _ => True

namespace Reply.FailsWithin

variable {r : Reply α}

theorem mono (h : r.FailsWithin D) (hDE : D ⊆ E) : r.FailsWithin E := by
  cases r with
  | failure e t => exact hDE h
  | _ => trivial

theorem map (h : r.FailsWithin D) (f : α → β) : (r.map f).FailsWithin D := by
  cases r with
  | failure e t => exact h
  | _ => trivial

theorem bind {next : α → State → Reply β} (h : r.FailsWithin D)
    (hnext : ∀ v t, (next v t).FailsWithin D) : (r.bind next).FailsWithin D := by
  cases r with
  | success v t => exact hnext v t
  | failure e t => exact h
  | _ => trivial

theorem restart (h : r.FailsWithin D) (s : State) : (r.restart s).FailsWithin D := by
  cases r with
  | failure e t => exact h
  | _ => trivial

theorem of_ne_failure (h : ∀ e t, r ≠ .failure e t) : r.FailsWithin D := by
  cases r with
  | failure e t => exact (h e t rfl).elim
  | _ => trivial

end Reply.FailsWithin

namespace Parser

/-- All failures of the parser have their diagnostics in the set. -/
def FailsWithin (D : Set Diagnostic) (p : Parser α) : Prop := ∀ s, (p s).FailsWithin D

variable {p : Parser α}

theorem FailsWithin.mono (h : p.FailsWithin D) (hDE : D ⊆ E) : p.FailsWithin E :=
  fun s => (h s).mono hDE

/-! ### Primitives -/

theorem failsWithin_succeed (v : α) : (succeed v).FailsWithin D := fun _ => trivial

theorem failsWithin_fail (label : String) :
    (fail label : Parser α).FailsWithin {(label, .structural)} := fun _ => rfl

theorem failsWithin_literal (text : String) :
    (literal text).FailsWithin {(text, .structural)} := by
  intro s
  rw [literal]
  split
  · exact .of_ne_failure (ofAdvance_ne_failure _)
  · exact failsWithin_fail text s

theorem failsWithin_eof : eof.FailsWithin {("end of input", .structural)} := by
  intro s
  rw [eof]
  split
  · trivial
  · exact failsWithin_fail _ s

theorem failsWithin_matching (e : Pattern) (label : String) :
    (matching e label).FailsWithin {(label, .structural)} := by
  intro s
  rw [matching]
  split
  · exact .of_ne_failure (ofAdvance_ne_failure _)
  · exact failsWithin_fail label s

/-! ### Combinators -/

theorem FailsWithin.map (h : p.FailsWithin D) (f : α → β) : (p.map f).FailsWithin D :=
  fun s => (h s).map f

theorem FailsWithin.desc (h : p.FailsWithin D) (label : String) :
    (p.desc label).FailsWithin (Diagnostic.relabelled label D) := by
  intro s
  have hs := h s
  rw [Parser.desc]
  cases hp : p s with
  | failure e t =>
    rw [hp] at hs
    exact ⟨e.diagnostic, hs, rfl⟩
  | _ => trivial

theorem FailsWithin.bind {next : α → Parser β} (h : p.FailsWithin D)
    (hnext : ∀ v, (next v).FailsWithin D) : (p.bind next).FailsWithin D :=
  fun s => ((h s).bind fun v t => hnext v t).restart s

theorem failsWithin_converted (e : Pattern) (label : String) (read : List Char → Option α)
    (refused : String) : (converted .none (matching e label) read refused).FailsWithin
      {(label, .structural), (refused, .structural)} := by
  refine .bind ((failsWithin_matching e label).mono (by simp)) fun text => ?_
  cases read text.toList with
  | some v => exact failsWithin_succeed v
  | none => exact (failsWithin_fail refused).mono (by simp)

theorem FailsWithin.product {q : Parser β} (h : p.FailsWithin D) (hq : q.FailsWithin D) :
    (p.product q).FailsWithin D :=
  fun s => ((h s).bind fun _ t => (hq t).map _).restart s

theorem FailsWithin.between {opening : Parser β} {closing : Parser γ} (h : p.FailsWithin D)
    (ho : opening.FailsWithin D) (hc : closing.FailsWithin D) :
    (p.between opening closing).FailsWithin D :=
  fun s => ((ho s).bind fun _ t => (h t).bind fun _ u => (hc u).map _).restart s

theorem failsWithin_chain {ps : List (Parser α)} (h : ∀ p ∈ ps, p.FailsWithin D) :
    (chain ps).FailsWithin D := by
  induction ps with
  | nil => exact fun _ => trivial
  | cons p ps ih =>
    intro s
    have htail := ih fun q hq => h q (List.mem_cons_of_mem _ hq)
    exact (h p List.mem_cons_self s).bind fun _ t => (htail t).map _

theorem failsWithin_sequence {ps : List (Parser α)} (h : ∀ p ∈ ps, p.FailsWithin D) :
    (sequence ps).FailsWithin D := fun s => (failsWithin_chain h s).restart s

/-- The furthest failure so far is one of the failures so far. -/
theorem failsWithin_firstOf {ps : List (Parser α)} {s : State} {best : Failure}
    (hbest : best.diagnostic ∈ D) (h : ∀ p ∈ ps, p.FailsWithin D) :
    (firstOf s ps (some best)).FailsWithin D := by
  induction ps generalizing best with
  | nil => exact hbest
  | cons p ps ih =>
    have hs := h p List.mem_cons_self s
    have htail : ∀ q ∈ ps, q.FailsWithin D := fun q hq => h q (List.mem_cons_of_mem _ hq)
    rw [firstOf]
    cases hp : p s with
    | failure e t =>
      rw [hp] at hs
      refine ih ?_ htail
      by_cases hlt : best.position < e.position
      · rw [Option.elim_some, Failure.furthest_of_lt hlt]
        exact hs
      · rw [Option.elim_some, Failure.furthest_of_le (Nat.not_lt.1 hlt)]
        exact hbest
    | _ => trivial

theorem failsWithin_alternatives {ps : List (Parser α)} (h : ∀ q ∈ p :: ps, q.FailsWithin D) :
    (alternatives (p :: ps)).FailsWithin D := by
  intro s
  have hs := h p List.mem_cons_self s
  rw [alternatives, firstOf]
  cases hp : p s with
  | failure e t =>
    rw [hp] at hs
    exact failsWithin_firstOf hs fun q hq => h q (List.mem_cons_of_mem _ hq)
  | _ => trivial

/-- An attempt is final only while values are missing, and its own label a repetition needs only if
there may be no further attempt. -/
theorem FailsWithin.times (h : p.FailsWithin D) (least most : Nat) :
    (p.times least most).FailsWithin
      ({x | 0 < least ∧ 0 < most ∧ x ∈ Diagnostic.asQuantity D} ∪
        {x | most < least ∧ x = ("at least " ++ Nat.repr least ++ " repetitions", .quantity)}) := by
  intro s
  have hc := counted_times p least most s
  generalize p.times least most s = r at hc ⊢
  cases hc with
  | @missing vs t u e hc hmost hleast hp =>
    have ht := h t
    rw [hp] at ht
    exact .inl ⟨by omega, by omega, e.diagnostic, ht, rfl⟩
  | short hc hfull hless => exact .inr ⟨hless, rfl⟩
  | _ => trivial

theorem FailsWithin.delimited (h : p.FailsWithin D) (d : Option (Parser β)) :
    (p.delimited true d).FailsWithin (Diagnostic.asQuantity D) := by
  intro s
  have hs := h s
  rw [Parser.delimited]
  cases hp : p s with
  | success v t =>
    -- Behind a first element no failure is final, of the delimiter or of an element.
    exact .of_ne_failure (advancing_ne_failure _ _ _)
  | failure e t =>
    rw [hp] at hs
    exact ⟨e.diagnostic, hs, rfl⟩
  | _ => trivial

theorem delimited_ne_failure (p : Parser α) (d : Option (Parser β)) (s : State) (e : Failure)
    (t : State) : p.delimited false d s ≠ .failure e t := by
  rw [Parser.delimited]
  cases p s with
  | success v u => exact advancing_ne_failure _ _ _ _ _
  | _ =>
    intro h
    cases h

end Parser

theorem Lexeme.parser_failsWithin (l : Lexeme) : l.parser.FailsWithin l.diagnostics := by
  cases l with
  | whitespace => exact (Parser.failsWithin_matching _ _).map _
  | digits => exact (Parser.failsWithin_matching _ _).map _
  | word => exact (Parser.failsWithin_matching _ _).map _
  | integer => exact (Parser.failsWithin_converted _ _ _ _).map _
  | decimal =>
    refine .map ((Parser.failsWithin_converted _ _ _ _).mono ?_) _
    simp [diagnostics]

/-! ## Grammars -/

namespace Grammar

variable {known : String → Set Diagnostic} {parsers : String → Parser Value}

theorem failsWithin_parsers {gs : List Grammar}
    (h : ∀ g ∈ gs, (g.parser parsers).FailsWithin (g.diagnostics known)) :
    ∀ p ∈ gs.map (·.parser parsers), p.FailsWithin (diagnosticsOfAll known gs) := by
  intro p hp
  obtain ⟨g, hg, rfl⟩ := List.mem_map.1 hp
  exact (h g hg).mono fun x hx => mem_diagnosticsOfAll.2 ⟨g, hg, hx⟩

/-- Over rules that fail within the known sets, a grammar fails within its diagnostics. -/
theorem parser_failsWithin (hrules : ∀ name, (parsers name).FailsWithin (known name))
    (g : Grammar) : (g.parser parsers).FailsWithin (g.diagnostics known) := by
  induction g using part_induction with
  | step g ih =>
    cases g with
    | literal text => exact (Parser.failsWithin_literal text).map _
    | pattern p label => exact (Parser.failsWithin_matching p label).map _
    | eof => exact Parser.failsWithin_eof.map _
    | lexeme l => exact l.parser_failsWithin
    | succeed v => exact Parser.failsWithin_succeed v
    | fail label => exact Parser.failsWithin_fail label
    | rule name => exact hrules name
    | map of f => exact (ih of .map).map f
    | bind of next =>
      refine .bind ((ih of .bind).mono Set.subset_union_left) fun v => ?_
      exact (ih _ (.bindNext v)).mono
        ((Set.subset_iUnion (fun v => (next v).diagnostics known) v).trans Set.subset_union_right)
    | product first second =>
      exact .map (.product ((ih _ .productFirst).mono Set.subset_union_left)
        ((ih _ .productSecond).mono Set.subset_union_right)) _
    | skip of trailing =>
      exact .map (.product ((ih _ .skip).mono Set.subset_union_left)
        ((ih _ .skipTrailing).mono Set.subset_union_right)) _
    | andThen of next =>
      exact .map (.product ((ih _ .andThen).mono Set.subset_union_left)
        ((ih _ .andThenNext).mono Set.subset_union_right)) _
    | sequence items =>
      have hparsers := failsWithin_parsers fun g hg => ih g (.sequence hg)
      rw [parser_sequence]
      exact (Parser.failsWithin_sequence hparsers).map _
    | alternatives items =>
      -- Only an empty choice has a label of its own.
      cases items with
      | nil => exact Parser.failsWithin_fail _
      | cons g gs =>
        have hparsers := failsWithin_parsers fun g' hg' => ih g' (.alternatives hg')
        rw [parser_alternatives]
        exact Parser.failsWithin_alternatives hparsers
    | desc of label => exact (ih of .desc).desc label
    | surroundedBy of before after =>
      refine .between ((ih of .surroundedBy).mono ?_) ((Parser.failsWithin_literal before).mono ?_)
        ((Parser.failsWithin_literal after).mono Set.subset_union_right)
      · exact Set.subset_union_right.trans Set.subset_union_left
      · exact Set.subset_union_left.trans Set.subset_union_left
    | times of least most => exact ((ih of .times).times least most).map _
    | optional of =>
      exact .map (fun s => .of_ne_failure (Parser.optional_ne_failure _ s)) _
    | delimited of atLeastOne delimiter =>
      cases atLeastOne with
      | true => cases delimiter <;> exact ((ih of .delimited).delimited _).map _
      | false =>
        cases delimiter <;>
          exact .map (fun s => .of_ne_failure (Parser.delimited_ne_failure _ _ s)) _
    | custom p =>
      intro s
      show (p s).FailsWithin _
      cases hp : p s with
      | failure e t => exact ⟨s, e, t, hp, rfl⟩
      | _ => trivial

/-- At every depth the rules fail within their diagnostics. -/
theorem failsWithin_unfold (rules : Rules) (depth : Nat) (name : String) :
    (rules.unfold depth name).FailsWithin (rules.diagnostics name) := by
  induction depth generalizing name with
  | zero => exact fun _ => trivial
  | succ depth ih =>
    rw [← rules.diagnostics_body name]
    exact parser_failsWithin ih (rules.body name)

/-! ## Statement -/

/-- **Grammars report nothing but their diagnostics.** What the rules of a grammar can report is the
least solution of the equations of their bodies. If a run of the grammar ends with a failure, from
any state, its label and its kind are among the diagnostics of the grammar over that solution. For a
whole text there is one more, about trailing input. -/
theorem diagnostics_cover (rules : Rules) (g : Grammar) :
    IsLeast {known | ∀ name, known name = (rules.body name).diagnostics known}
      rules.diagnostics ∧
    (∀ s e t, g.Ends rules s (.failure e t) →
      (e.expected, e.kind) ∈ g.diagnostics rules.diagnostics) ∧
    ∀ text e, (g.run rules).parse text = .error e →
      (e.expected, e.kind) ∈ g.diagnostics rules.diagnostics ∨
        (e.expected, e.kind) = ("end of input", .trailingInput) := by
  have hwithin (depth : Nat) :
      (g.parser (rules.unfold depth)).FailsWithin (g.diagnostics rules.diagnostics) :=
    parser_failsWithin (failsWithin_unfold rules depth) g
  refine ⟨rules.isLeast_diagnostics, ?_, ?_⟩
  · rintro s e t ⟨-, depth, hrun⟩
    have hs := hwithin depth s
    rw [hrun] at hs
    exact hs
  · intro text e hparse
    rcases Parser.parse_eq_error hparse with ⟨t, hrun⟩ | ⟨v, t, -, -, rfl⟩
    · have hs := hwithin (rules.depth (.start text)) (.start text)
      rw [show g.parser _ _ = .failure e t from hrun] at hs
      exact .inl hs
    · exact .inr rfl

/-- A group that is not closed can be reported, as a failure of quantity in a list of groups. A
missing delimiter cannot, and neither can what a label is put on. -/
theorem diagnostics_cover_groups :
    let group : Grammar :=
      .alternatives [.surroundedBy (.rule "group") "(" ")", .desc (.literal "x") "variable"]
    let rules : Rules := ⟨[("group", group)]⟩
    let g : Grammar := .delimited (.rule "group") true (some (.literal ","))
    let s := State.start ['(', '(', 'x', ',']
    rules.diagnostics "group" =
      {("(", .structural), (")", .structural), ("variable", .structural)} ∧
    g.Ends rules s (.failure ⟨")", 3, .quantity⟩ s) ∧
    (")", .quantity) ∈ g.diagnostics rules.diagnostics ∧
    g.diagnostics rules.diagnostics =
      {("(", .quantity), (")", .quantity), ("variable", .quantity)} := by
  intro group rules g s
  have hend : g.Ends rules s (.failure ⟨")", 3, .quantity⟩ s) := ⟨nofun, 3, rfl⟩
  obtain ⟨⟨hfixed, hleast⟩, hcover, -⟩ := diagnostics_cover rules g
  have hbody (known : String → Set Diagnostic) : (rules.body "group").diagnostics known =
      {("(", .structural)} ∪ known "group" ∪ {(")", .structural)} ∪
        {("variable", .structural)} := by
    show group.diagnostics known = _
    simp [group, diagnostics, diagnosticsOfAll, Diagnostic.relabelled]
  have hother (name : String) (h : name ≠ "group") :
      rules.body name = .fail ("rule " ++ name) := by
    simp [Rules.body, rules, List.lookup_cons, beq_false_of_ne h]
  have hgroup : rules.diagnostics "group" =
      {("(", .structural), (")", .structural), ("variable", .structural)} := by
    refine Set.Subset.antisymm ?_ ?_
    · -- The set is a solution, with the labels of the names that have no rule.
      let known (name : String) : Set Diagnostic :=
        if name = "group" then {("(", .structural), (")", .structural), ("variable", .structural)}
        else {("rule " ++ name, .structural)}
      refine hleast (a := known) (fun name => ?_) "group"
      by_cases h : name = "group"
      · subst h
        rw [hbody]
        ext x
        simp only [known, if_pos, Set.mem_union, Set.mem_insert_iff, Set.mem_singleton_iff]
        tauto
      · rw [hother name h, diagnostics]
        exact if_neg h
    · rw [hfixed "group", hbody]
      rintro x (rfl | rfl | rfl) <;> simp
  refine ⟨hgroup, hend, hcover _ _ _ hend, ?_⟩
  have hlist : g.diagnostics rules.diagnostics =
      Diagnostic.asQuantity (rules.diagnostics "group") := by
    simp only [g, diagnostics]
  rw [hlist, hgroup]
  ext x
  simp [Diagnostic.asQuantity]

end Grammar

end Descent
