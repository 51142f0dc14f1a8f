import Descent.Proofs.Finish
import Descent.Proofs.Passing

/-!
# Guarded grammars terminate

A run is unfinished only if a rule is entered more often than the depth allows. Over guarded rules
this does not happen. Entering a rule costs one unit of depth, and either something has been read
since the rule around it was entered, or the rule has a smaller rank. So a depth is enough that
has, for every character left, one unit more than there are rules, and beyond that more than the
rank of every rule that the grammar leads to (`Rules.Enough`).

The proof that such a run is finished goes over the depth, then over the number of characters left,
then over the grammar. Loops are no part of this order: they are finished as soon as their rounds
are, wherever these begin.

Main statement: `Grammar.terminates`.
-/

namespace Descent

/-- The parser keeps to the contract: it always answers, it advances when it succeeds, and it breaks
down only if the text does not fit the counter. -/
structure Parser.Honours {α : Type} (p : Parser α) : Prop where
  advances : p.Advances
  finishes (s) : p.Finishes s
  fault {s r} : p s = .fault r →
    r = .offsetOverflow ∧ maxOffset < s.consumed + utf8Length s.remaining

theorem Parser.honours_lookRest : lookRest.Honours where
  advances s _ _ h := by cases h; exact .refl s
  finishes _ := nofun
  fault := nofun

/-! ## Enough depth -/

namespace Rules

variable {rules : Rules} {g h : Grammar} {length shorter depth : Nat}

/-- The depth is enough for a run of the grammar with a number of characters left. -/
structure Enough (rules : Rules) (g : Grammar) (length depth : Nat) : Prop where
  chars : length * (rules.entries.length + 1) ≤ depth
  rank {name} : g.Leads rules name →
    length * (rules.entries.length + 1) + rules.rank name < depth

/-- What is enough for a grammar is enough for what it starts with. -/
theorem Enough.start (hg : rules.Enough g length depth) (hh : g.StartsWith rules h) :
    rules.Enough h length depth where
  chars := hg.chars
  rank hname := hg.rank (.part hh hname)

/-- A rank is at most the number of rules. -/
theorem enough_of_succ_mul_le (h : (length + 1) * (rules.entries.length + 1) ≤ depth) :
    rules.Enough g length depth := by
  rw [Nat.succ_mul] at h
  refine ⟨by omega, fun {name} _ => ?_⟩
  have hrank := rules.rank_le name
  omega

/-- With fewer characters left it is enough for every grammar. -/
theorem Enough.of_lt (hg : rules.Enough g length depth) (hlt : shorter < length) :
    rules.Enough h shorter depth :=
  enough_of_succ_mul_le ((Nat.mul_le_mul_right _ hlt).trans hg.chars)

/-- Entering a rule costs one unit, and its body leads to rules of smaller rank only. -/
theorem Enough.body (hguard : rules.Guarded) {name : String}
    (hname : rules.Enough (.rule name) length (depth + 1)) :
    rules.Enough (rules.body name) length depth := by
  have hrank := hname.rank (.rule name)
  refine ⟨by omega, fun {other} hother => ?_⟩
  have hlt : rules.rank other < rules.rank name := rules.rank_lt hguard hother
  omega

/-- The depth of a run is enough. -/
theorem enough_depth (rules : Rules) (g : Grammar) (s : State) :
    rules.Enough g s.remaining.length (rules.depth s) :=
  enough_of_succ_mul_le (Nat.mul_le_mul_right _ (Nat.le_mul_of_pos_right _ (by decide)))

end Rules

/-! ## Runs are finished -/

namespace Grammar

variable {rules : Rules} {parsers : String → Parser Value}

/-- The parts of `g` finish wherever a run from `s` can get to them: behind something that has been
read, or at the front if `g` starts with them. -/
structure PartsFinish (rules : Rules) (parsers : String → Parser Value) (g : Grammar)
    (s : State) : Prop where
  advances {k} : PartOf k g → (k.parser parsers).Advances
  passes {k} : PartOf k g → (k.parser parsers).Passes → k.MayPass rules
  finishes {k t} : PartOf k g → s.Precedes t →
    (t.remaining = s.remaining → g.StartsWith rules k) → (k.parser parsers).Finishes t

variable {g k k' : Grammar} {s t u : State}

/-- A part that `g` starts with finishes everywhere. -/
theorem PartsFinish.first (h : PartsFinish rules parsers g s) (hk : g.StartsWith rules k)
    (hst : s.Precedes t) : (k.parser parsers).Finishes t :=
  h.finishes hk.partOf hst fun _ => hk

/-- A part finishes behind another one, if `g` starts with it where the other one may pass. -/
theorem PartsFinish.next (h : PartsFinish rules parsers g s) (hk : PartOf k g) (hk' : PartOf k' g)
    (hstart : k.MayPass rules → g.StartsWith rules k') {v : Value}
    (hr : k.parser parsers s = .success v t) (htu : t.Precedes u) :
    (k'.parser parsers).Finishes u := by
  have hst : s.Precedes t := h.advances hk hr
  exact h.finishes hk' (hst.trans htu) fun hu =>
    hstart (h.passes hk ⟨s, v, t, hr, (hst.squeeze htu hu).1⟩)

variable {of : Grammar} {items : List Grammar}

/-- A member of a sequence comes up at the front only if all members before it may pass. -/
theorem PartsFinish.sequence (h : PartsFinish rules parsers (.sequence items) s) :
    (Parser.sequence (items.map (·.parser parsers))).Finishes s := by
  refine Parser.finishes_sequence fun front p rest hitems vs t hr => ?_
  obtain ⟨ks, krest, rfl, rfl, hrest⟩ := List.map_eq_append_iff.1 hitems
  obtain ⟨k, ks', rfl, rfl, -⟩ := List.map_eq_cons_iff.1 hrest
  have hpart (m : Grammar) (hm : m ∈ ks) : PartOf m (.sequence (ks ++ k :: ks')) :=
    .sequence (List.mem_append_left _ hm)
  have hadv : ∀ p ∈ ks.map (·.parser parsers), p.Advances := by
    simpa using fun m hm => h.advances (hpart m hm)
  refine h.finishes (.sequence (List.mem_append_right _ List.mem_cons_self))
    (Parser.Advances.chain hadv hr) fun ht => .sequence fun m hm => h.passes (hpart m hm) ?_
  exact Parser.Passes.of_chain hadv ⟨s, vs, t, hr, ht⟩ _ (List.mem_map_of_mem hm)

theorem PartsFinish.alternatives (h : PartsFinish rules parsers (.alternatives items) s) :
    (Parser.alternatives (items.map (·.parser parsers))).Finishes s :=
  Parser.finishes_alternatives (by simpa using fun k hk => h.first (.alternatives hk) (.refl s))

/-- What is surrounded comes up at the front only if the text before it is empty. -/
theorem PartsFinish.surroundedBy {before after : String}
    (h : PartsFinish rules parsers (.surroundedBy of before after) s) :
    ((of.parser parsers).surroundedBy before after).Finishes s := by
  refine (Parser.finishes_literal before s).between (fun v t hr => ?_)
    (Parser.finishes_literal after)
  refine h.finishes .surroundedBy (Parser.advances_literal before hr) fun ht => ?_
  obtain rfl := Parser.eq_of_literal_passes ⟨s, v, t, hr, ht⟩
  exact .surroundedBy

theorem PartsFinish.times {least most : Nat}
    (h : PartsFinish rules parsers (.times of least most) s) :
    ((of.parser parsers).times least most).Finishes s :=
  Parser.finishes_times (h.advances .times) least most fun hmost _ => h.first (.times hmost)

/-- A later round starts behind an element, so at the front only if that one may pass. -/
theorem PartsFinish.delimited {atLeastOne : Bool} {delimiter : Option Grammar}
    (h : PartsFinish rules parsers (.delimited of atLeastOne delimiter) s) :
    ((Grammar.delimited of atLeastOne delimiter).parser parsers).Finishes s := by
  have hadv := h.advances .delimited
  have hof := h.first .delimited (.refl s)
  cases delimiter with
  | none =>
    have hround := hadv.round (d := (none : Option (Parser Value))) nofun
    refine .map (Parser.finishes_delimited hof hround (fun v t hr u htu => ?_) atLeastOne) _
    exact h.first .delimited ((hadv hr).trans htu)
  | some d =>
    have hd := h.advances .delimiter
    have hround := hadv.round (d := some (d.parser parsers)) (by rintro _ ⟨⟩; exact hd)
    refine .map (Parser.finishes_delimited hof hround (fun v t hr u htu => ?_) atLeastOne) _
    refine Reply.bind_ne_unfinished (h.next .delimited .delimiter .delimiter hr htu) ?_
    exact fun _ w hw => h.first .delimited (((hadv hr).trans htu).trans (hd hw))

/-- A grammar finishes if its parts do, if a rule does and if a step does. -/
theorem PartsFinish.parser_finishes (h : PartsFinish rules parsers g s)
    (hrule : ∀ name, g = .rule name → (parsers name).Finishes s)
    (hcustom : ∀ p, g = .custom p → p.Finishes s) : (g.parser parsers).Finishes s := by
  cases g with
  | literal text => exact (Parser.finishes_literal text s).map _
  | pattern p label => exact (Parser.finishes_matching p label s).map _
  | eof => exact (Parser.finishes_eof s).map _
  | lexeme l => exact l.parser_finishes s
  | succeed v => nofun
  | fail label => nofun
  | rule name => exact hrule name rfl
  | map of f => exact (h.first .map (.refl s)).map f
  | bind of next =>
    exact (h.first .bind (.refl s)).bind fun v t hr =>
      h.next .bind (.bindNext v) (.bindNext v) hr (.refl t)
  | product first second =>
    exact ((h.first .productFirst (.refl s)).product fun v t hr =>
      h.next .productFirst .productSecond .productSecond hr (.refl t)).map _
  | skip of trailing =>
    exact ((h.first .skip (.refl s)).product fun v t hr =>
      h.next .skip .skipTrailing .skipTrailing hr (.refl t)).map _
  | andThen of next =>
    exact ((h.first .andThen (.refl s)).product fun v t hr =>
      h.next .andThen .andThenNext .andThenNext hr (.refl t)).map _
  | sequence items =>
    rw [parser_sequence]
    exact h.sequence.map _
  | alternatives items =>
    rw [parser_alternatives]
    exact h.alternatives
  | desc of label => exact (h.first .desc (.refl s)).desc label
  | surroundedBy of before after => exact h.surroundedBy
  | times of least most => exact h.times.map _
  | optional of => exact (h.first .optional (.refl s)).optional.map _
  | delimited of atLeastOne delimiter => exact h.delimited
  | custom p => exact hcustom p rfl

variable {depth : Nat}

theorem parser_finishes (hrules : rules.Steps Parser.Honours)
    (hbody : ∀ name s, rules.Enough (.rule name) s.remaining.length depth →
      (rules.unfold depth name).Finishes s) (hg : g.Steps Parser.Honours)
    (h : rules.Enough g s.remaining.length depth) :
    (g.parser (rules.unfold depth)).Finishes s := by
  generalize hlength : s.remaining.length = length at h
  induction length using Nat.strong_induction_on generalizing g s with
  | _ length ihlength =>
    induction g using part_induction generalizing s with
    | step g ih =>
      have hrulesAdv : rules.Steps Parser.Advances :=
        hrules.imp fun _ => Parser.Honours.advances
      have hpartAdv (k : Grammar) (hk : PartOf k g) : k.Steps Parser.Advances :=
        (hg.part hk).imp fun _ => Parser.Honours.advances
      have hparts : PartsFinish rules (rules.unfold depth) g s := by
        refine ⟨fun hk => parser_advances hrulesAdv (hpartAdv _ hk) depth,
          fun hk => mayPass_of_passes hrulesAdv (hpartAdv _ hk), fun {k t} hk hst hstart => ?_⟩
        rcases hst.remaining_eq_or_length_lt with hrem | hlt
        · exact ih k hk (hg.part hk) (hrem ▸ hlength) (h.start (hstart hrem))
        · rw [hlength] at hlt
          exact ihlength _ hlt (hg.part hk) rfl (h.of_lt hlt)
      refine hparts.parser_finishes ?_ ?_
      · rintro name rfl
        exact hbody name s (hlength ▸ h)
      · rintro p rfl
        exact (hg p (.self _)).finishes s

theorem unfold_finishes (hguard : rules.Guarded) (hrules : rules.Steps Parser.Honours)
    (depth : Nat) (name : String) (s : State)
    (h : rules.Enough (.rule name) s.remaining.length depth) :
    (rules.unfold depth name).Finishes s := by
  induction depth generalizing name s with
  | zero => exact absurd (h.rank (.rule name)) (Nat.not_lt_zero _)
  | succ depth ih => exact parser_finishes hrules ih (hrules name) (h.body hguard)

/-- **The depth of a run is enough to finish it.** -/
theorem run_finishes (hguard : rules.Guarded) (hrules : rules.Steps Parser.Honours) {g : Grammar}
    (hg : g.Steps Parser.Honours) (s : State) : (g.run rules).Finishes s := by
  have h := rules.enough_depth g s
  rw [Parser.Finishes, run]
  generalize rules.depth s = depth at h
  exact parser_finishes hrules (unfold_finishes hguard hrules depth) hg h

end Grammar

/-! ## How a run breaks down -/

/-- All states come after `s`, and runs break down for known reasons only: a pattern that is matched
by bytes, which is there only if `bytewise`, or a text that does not fit the counter. -/
def Invariant.breakdowns (s : State) (bytewise : Prop) : Invariant where
  state := s.Precedes
  failure _ := True
  fault
    | .splitCharacter => bytewise
    | .offsetOverflow => maxOffset < s.consumed + utf8Length s.remaining

theorem Invariant.lawful_breakdowns (s : State) (bytewise : Prop) :
    (Invariant.breakdowns s bytewise).Lawful where
  advance hs h := hs.trans (.of_advance h)
  overflow hs h := (State.lt_of_advance_eq_overflow h).trans_eq hs.total
  here _ _ _ _ := trivial
  relabel _ _ := trivial
  withKind _ := trivial

theorem Invariant.breakdowns_keeps {p : Parser Value} (hp : p.Honours) (s : State)
    (bytewise : Prop) : (Invariant.breakdowns s bytewise).Keeps p := by
  intro t hst
  cases h : p t with
  | success v u => exact hst.trans (hp.advances h)
  | failure _ _ => trivial
  | fault r =>
    obtain ⟨rfl, hlt⟩ := hp.fault h
    exact hlt.trans_eq hst.total
  | unfinished => trivial

namespace Grammar

variable {rules : Rules} {g : Grammar}

theorem breakdowns_keptBy (hrules : rules.Steps Parser.Honours) (hg : g.Steps Parser.Honours)
    (s : State) : (Invariant.breakdowns s (¬ g.Charwise rules)).KeptBy rules g where
  lawful := Invariant.lawful_breakdowns s _
  steps p hp := Invariant.breakdowns_keeps (hg p hp) s _
  rulesSteps name p hp := Invariant.breakdowns_keeps (hrules name p hp) s _
  patterns p label hp hbyte h := by simp [h.1 p label hp] at hbyte
  rulesPatterns name p label hp hbyte h := by simp [h.2 name p label hp] at hbyte

/-- **Guarded grammars terminate.** Let no rule depend on itself on the left, and let all steps
written by hand keep to the contract. Then every run ends with a value or a failure, or it breaks
down at a pattern that is matched by bytes, or at the end of the counter if the text does not fit.
No loop needs its bound on the rounds for this: one without an upper bound has the same answer with
any number of rounds that exceeds its least number of values and the bytes that are left. -/
theorem terminates (hguard : rules.Guarded) (hrules : rules.Steps Parser.Honours)
    (hg : g.Steps Parser.Honours) (s : State) :
    g.Ends rules s (g.run rules s) ∧
    ((∃ v t, g.run rules s = .success v t) ∨ (∃ e t, g.run rules s = .failure e t) ∨
      (g.run rules s = .fault .splitCharacter ∧ ¬ g.Charwise rules) ∨
      (g.run rules s = .fault .offsetOverflow ∧
        maxOffset < s.consumed + utf8Length s.remaining)) ∧
    ∀ depth least t rounds, least + utf8Length t.remaining < rounds → rounds ≤ maxOffset →
      (g.parser (rules.unfold depth)).times least maxOffset t =
        (g.parser (rules.unfold depth)).collect least true t rounds [] t := by
  have hfinishes : g.run rules s ≠ .unfinished := run_finishes hguard hrules hg s
  refine ⟨ends_run hfinishes, ?_, fun depth least t rounds hrounds hle => ?_⟩
  · have hholds := (breakdowns_keptBy hrules hg s).holds (.refl s) (ends_run hfinishes)
    cases h : g.run rules s with
    | success v t => exact .inl ⟨v, t, rfl⟩
    | failure e t => exact .inr (.inl ⟨e, t, rfl⟩)
    | fault r =>
      rw [h] at hholds
      cases r with
      | splitCharacter => exact .inr (.inr (.inl ⟨rfl, hholds⟩))
      | offsetOverflow => exact .inr (.inr (.inr ⟨rfl, hholds⟩))
    | unfinished => exact (hfinishes h).elim
  · have hadv : (g.parser (rules.unfold depth)).Advances :=
      parser_advances (hrules.imp fun _ => Parser.Honours.advances)
        (hg.imp fun _ => Parser.Honours.advances) depth
    exact Parser.times_eq_collect hadv hrounds hle

/-- Lists in brackets, where every loop goes over something that reads nothing. -/
theorem terminates_brackets :
    let rules : Rules :=
      ⟨[("list", .surroundedBy (.times (.optional (.rule "list")) 0 maxOffset) "(" ")")]⟩
    let g : Grammar := .delimited (.rule "list") false (some (.custom .lookRest))
    let s := State.start ['(', '(', ')', ')', '(', ')']
    g.Ends rules s (g.run rules s) ∧
      (g.parser (rules.unfold 3)).times 0 maxOffset s =
        (g.parser (rules.unfold 3)).collect 0 true s 7 [] s := by
  intro rules g s
  have hrules : rules.Steps Parser.Honours := by
    refine Rules.body_induction (fun _ => .of_parts nofun nofun) fun e he => ?_
    obtain rfl := List.mem_singleton.1 he
    refine .of_parts nofun fun h hh => ?_
    cases hh
    refine .of_parts nofun fun h hh => ?_
    cases hh
    refine .of_parts nofun fun h hh => ?_
    cases hh
    exact .of_parts nofun nofun
  have hg : g.Steps Parser.Honours := by
    refine .of_parts nofun fun h hh => ?_
    simp only [g] at hh
    cases hh with
    | delimited => exact .of_parts nofun nofun
    | delimiter =>
      exact .of_parts (fun p hp => by cases hp; exact Parser.honours_lookRest) nofun
  have hleads : ∀ name other, ¬ (rules.body name).Leads rules other := by
    refine Rules.body_induction (motive := fun h => ∀ other, ¬ h.Leads rules other) ?_ ?_
    · rintro _ _ (_ | ⟨⟨⟩, -⟩)
    · intro e he other
      obtain rfl := List.mem_singleton.1 he
      exact not_leads_surroundedBy (by decide)
  obtain ⟨hends, -, hloop⟩ := terminates (Rules.guarded_of_not_leads hleads) hrules hg s
  exact ⟨hends, hloop 3 0 s 7 (by decide) (by decide)⟩

/-- A fixed text at the last offset: the run ends at once, but the counter has no room for a value,
and it is not a pattern that breaks it down. -/
theorem terminates_lastOffset :
    let rules : Rules := ⟨[]⟩
    let g : Grammar := .literal "a"
    let s : State := ⟨['a'], maxOffset, Nat.le_refl _⟩
    rules.Guarded ∧ rules.Steps Parser.Honours ∧ g.Steps Parser.Honours ∧ g.Charwise rules ∧
      g.Ends rules s (.fault .offsetOverflow) ∧
      ¬ ((∃ v t, g.run rules s = .success v t) ∨ (∃ e t, g.run rules s = .failure e t) ∨
        g.run rules s = .fault .splitCharacter) := by
  intro rules g s
  have hrun : g.run rules s = .fault .offsetOverflow := rfl
  have hleads : ∀ name other, ¬ (rules.body name).Leads rules other := by
    rintro _ _ (_ | ⟨⟨⟩, -⟩)
  have hsteps : (Grammar.literal "a").Steps Parser.Honours := .of_parts nofun nofun
  have hpatterns : (Grammar.literal "a").Patterns fun p => p.bytewise = false :=
    .of_parts nofun nofun
  refine ⟨Rules.guarded_of_not_leads hleads, fun _ => .of_parts nofun nofun, hsteps,
    ⟨hpatterns, fun _ => .of_parts nofun nofun⟩, ⟨nofun, 0, rfl⟩, ?_⟩
  rw [hrun]
  rintro (⟨v, t, h⟩ | ⟨e, t, h⟩ | h) <;> cases h

end Grammar

end Descent
