import Descent.Proofs.Whole

/-!
# Labels

Labels say what was expected, to whoever reads a failure. A run does not look at them: it compares
the positions of failures, sets their kinds, and drops them, but it never asks for their text.

So the labels of a grammar may be changed at will. Taking them all away (`Grammar.unlabelled`)
leaves the text of failures behind and nothing else, and two grammars that are the same without
their labels run alike. `Parser.parse` makes its own failure when a match leaves input over, and
that one does not depend on labels at all.

A step written by hand may fail with any kind, and so with the one that otherwise only
`Parser.parse` uses. Such a failure is relabelled like any other.

Main statement: `Grammar.labels_irrelevant`.
-/

namespace Descent

/-! ## Without labels -/

namespace Grammar

mutual

/-- The grammar without its labels. -/
def unlabelled : Grammar → Grammar
  | literal text => literal text
  | pattern p _ => pattern p ""
  | eof => eof
  | lexeme l => lexeme l
  | succeed v => succeed v
  | fail _ => fail ""
  | rule name => rule name
  | map of f => map of.unlabelled f
  | bind of next => bind of.unlabelled fun v => (next v).unlabelled
  | product first second => product first.unlabelled second.unlabelled
  | skip of trailing => skip of.unlabelled trailing.unlabelled
  | andThen of next => andThen of.unlabelled next.unlabelled
  | sequence items => sequence (unlabelledAll items)
  | alternatives items => alternatives (unlabelledAll items)
  | desc of _ => of.unlabelled
  | surroundedBy of before after => surroundedBy of.unlabelled before after
  | times of least most => times of.unlabelled least most
  | optional of => optional of.unlabelled
  | delimited of atLeastOne none => delimited of.unlabelled atLeastOne none
  | delimited of atLeastOne (some d) => delimited of.unlabelled atLeastOne (some d.unlabelled)
  | custom p => custom p

/-- The grammars of a list without their labels. -/
def unlabelledAll : List Grammar → List Grammar
  | [] => []
  | g :: gs => g.unlabelled :: unlabelledAll gs

end

end Grammar

/-- The rules without the labels of their bodies. -/
def Rules.unlabelled (rules : Rules) : Rules :=
  ⟨rules.entries.map fun e => (e.1, e.2.unlabelled)⟩

/-- The reply without what was expected. -/
def Reply.unlabelled {α : Type} (r : Reply α) : Reply α := r.mapFailure (·.relabel "")

/-- The outcome without what was expected. -/
def Outcome.unlabelled {α : Type} (o : Outcome Failure α) : Outcome Failure α :=
  o.mapError (·.relabel "")

/-- What failures expect is all that is left out. -/
theorem Failure.unlabelled_eq_iff {e f : Failure} :
    e.relabel "" = f.relabel "" ↔ e.position = f.position ∧ e.kind = f.kind := by
  simp [Failure.relabel]

theorem Reply.unlabelled_eq_unfinished {α : Type} {r r' : Reply α}
    (h : r.unlabelled = r'.unlabelled) : r = .unfinished ↔ r' = .unfinished := by
  have hunlabelled (r : Reply α) : r.unlabelled = .unfinished ↔ r = .unfinished := by
    cases r <;> simp [Reply.unlabelled, Reply.mapFailure]
  rw [← hunlabelled, h, hunlabelled]

theorem Rules.unlabelled_body {rules rules' : Rules} (h : rules.unlabelled = rules'.unlabelled)
    (name : String) : (rules.body name).unlabelled = (rules'.body name).unlabelled := by
  have hlookup (rules : Rules) : rules.unlabelled.entries.lookup name =
      (rules.entries.lookup name).map Grammar.unlabelled := by
    obtain ⟨entries⟩ := rules
    rw [Rules.unlabelled]
    induction entries with
    | nil => rfl
    | cons e entries ih =>
      obtain ⟨key, g⟩ := e
      rw [List.map_cons, List.lookup_cons, List.lookup_cons]
      by_cases hkey : name == key
      · simp [hkey]
      · simpa [hkey] using ih
  have hboth := hlookup rules
  rw [h, hlookup rules'] at hboth
  rw [body, body]
  cases hg : rules.entries.lookup name with
  | none =>
    rw [hg] at hboth
    rw [Option.map_eq_none_iff.1 hboth]
  | some g =>
    rw [hg] at hboth
    obtain ⟨g', hg', heq⟩ := Option.map_eq_some_iff.1 hboth
    rw [hg']
    exact heq.symm

theorem Rules.unlabelled_depth {rules rules' : Rules} (h : rules.unlabelled = rules'.unlabelled)
    (s : State) : rules.depth s = rules'.depth s := by
  have hlength : rules.entries.length = rules'.entries.length := by
    have hmapped := congrArg (·.entries.length) h
    simpa [Rules.unlabelled] using hmapped
  rw [depth, depth, hlength]

/-! ## Replies that differ in labels -/

/-- The runs differ in what they say was expected. -/
def Coupling.unlabelled : Coupling where
  state := Eq
  failure e f := e.relabel "" = f.relabel ""
  back := Eq

namespace Coupling

variable {α : Type} {p q : Parser α} {r r' : Reply α}

theorem replies_unlabelled_self (r : Reply α) : unlabelled.Replies r r := by
  cases r with
  | success v s => exact .success v (Eq.refl s)
  | failure e s => exact .failure (Eq.refl (e.relabel "")) (Eq.refl s)
  | fault r => exact .fault trivial
  | unfinished => exact .unfinished trivial

theorem eq_of_replies_unlabelled (h : unlabelled.Replies r r') :
    r.unlabelled = r'.unlabelled := by
  cases h with
  | success v hs =>
    obtain rfl := hs
    rfl
  | @failure e f s t he hs =>
    obtain rfl := hs
    have hrelabel : e.relabel "" = f.relabel "" := he
    simp only [Reply.unlabelled, Reply.mapFailure, hrelabel]
  | fault _ => rfl
  | unfinished _ => rfl
  | cut _ hc => exact hc.elim

theorem replies_unlabelled_iff : unlabelled.Replies r r' ↔ r.unlabelled = r'.unlabelled := by
  constructor
  · exact eq_of_replies_unlabelled
  · intro h
    cases r with
    | failure e s =>
      cases r' with
      | failure f t =>
        simp only [Reply.unlabelled, Reply.mapFailure, Reply.failure.injEq] at h
        exact .failure h.1 h.2
      | _ => cases h
    | success v s => cases r' <;> cases h; exact replies_unlabelled_self _
    | fault reason => cases r' <;> cases h; exact replies_unlabelled_self _
    | unfinished => cases r' <;> cases h; exact replies_unlabelled_self _

theorem lawful_unlabelled : unlabelled.Lawful where
  remaining := by rintro s t rfl; rfl
  consumed_lt := by rintro s t s' t' rfl rfl; rfl
  back h := h
  advance := by
    rintro s t n rfl -
    exact replies_unlabelled_self _
  here := by rintro s t label kind rfl -; rfl
  relabel _ h := h
  withKind h := Failure.unlabelled_eq_iff.2 ⟨(Failure.unlabelled_eq_iff.1 h).1, rfl⟩
  furthest := by
    intro e f e' f' h h'
    have hposition := (Failure.unlabelled_eq_iff.1 h).1
    have hposition' := (Failure.unlabelled_eq_iff.1 h').1
    rw [Failure.furthest, Failure.furthest, hposition, hposition']
    split
    · exact h'
    · exact h

theorem parsers_unlabelled_self (p : Parser α) : unlabelled.Parsers p p := by
  rintro s _ rfl
  exact replies_unlabelled_self (p s)

theorem parsers_unlabelled_iff :
    unlabelled.Parsers p q ↔ ∀ s, (p s).unlabelled = (q s).unlabelled := by
  constructor
  · intro h s
    exact eq_of_replies_unlabelled (h (Eq.refl s))
  · rintro h s _ rfl
    exact replies_unlabelled_iff.2 (h s)

theorem parsers_fail_unlabelled (label label' : String) :
    unlabelled.Parsers (Parser.fail label : Parser α) (Parser.fail label') := by
  rintro s _ rfl
  exact .failure (Failure.unlabelled_eq_iff.2 ⟨rfl, rfl⟩) (Eq.refl s)

theorem parsers_matching_unlabelled (e : Pattern) (label label' : String) :
    unlabelled.Parsers (Parser.matching e label) (Parser.matching e label') := by
  rintro s _ rfl
  unfold Parser.matching
  cases e.matchEnd? s.remaining with
  | none => exact parsers_fail_unlabelled label label' rfl
  | some n => exact replies_unlabelled_self _

/-- A label on one side only. -/
theorem Parsers.desc_unlabelled (h : unlabelled.Parsers p q) (label : String) :
    unlabelled.Parsers (p.desc label) q := by
  intro s t hst
  have hr := h hst
  rw [Parser.desc]
  generalize p s = r at hr ⊢
  generalize q t = r' at hr ⊢
  cases hr with
  | success v hs => exact .success v hs
  | failure he hs => exact .failure he hs
  | fault hr => exact .fault hr
  | unfinished hu => exact .unfinished hu
  | cut _ hc => exact hc.elim

end Coupling

/-! ## Runs without labels -/

namespace Grammar

section Fundamental

variable {R R' : String → Parser Value}

theorem forall₂_parsers_unlabelled {gs : List Grammar}
    (h : ∀ g ∈ gs, Coupling.unlabelled.Parsers (g.parser R) (g.unlabelled.parser R')) :
    List.Forall₂ Coupling.unlabelled.Parsers (watchedAll .none R gs)
      (watchedAll .none R' (unlabelledAll gs)) := by
  induction gs with
  | nil => exact .nil
  | cons g gs ih =>
    obtain ⟨hg, hgs⟩ := List.forall_mem_cons.1 h
    exact .cons hg (ih hgs)

/-- **A grammar and the same one without its labels differ in labels only.** -/
theorem parsers_unlabelled (hR : ∀ name, Coupling.unlabelled.Parsers (R name) (R' name))
    (g : Grammar) : Coupling.unlabelled.Parsers (g.parser R) (g.unlabelled.parser R') := by
  have hC : Coupling.unlabelled.Lawful := Coupling.lawful_unlabelled
  induction g using part_induction with
  | step g ih =>
    cases g with
    | literal text => exact Coupling.parsers_unlabelled_self _
    | pattern p label => exact (Coupling.parsers_matching_unlabelled p label "").map _
    | eof => exact Coupling.parsers_unlabelled_self _
    | lexeme l => exact Coupling.parsers_unlabelled_self _
    | succeed v => exact Coupling.parsers_unlabelled_self _
    | fail label => exact Coupling.parsers_fail_unlabelled label ""
    | rule name => exact hR name
    | map of f => exact (ih of .map).map f
    | bind of next => exact (ih of .bind).bind hC fun v => ih _ (.bindNext v)
    | product first second =>
      exact ((ih first .productFirst).product hC (ih second .productSecond)).map _
    | skip of trailing => exact (ih of .skip).skip hC (ih trailing .skipTrailing)
    | andThen of next => exact (ih of .andThen).andThen hC (ih next .andThenNext)
    | sequence items =>
      have hitems := forall₂_parsers_unlabelled fun g hg => ih g (.sequence hg)
      exact (Coupling.parsers_sequence hC hitems).map _
    | alternatives items =>
      have hitems := forall₂_parsers_unlabelled fun g hg => ih g (.alternatives hg)
      exact Coupling.parsers_alternatives hC hitems
    | desc of label => exact (ih of .desc).desc_unlabelled label
    | surroundedBy of before after =>
      exact (ih of .surroundedBy).between hC (Coupling.parsers_literal hC before)
        (Coupling.parsers_literal hC after)
    | times of least most => exact ((ih of .times).times hC least most).map _
    | optional of => exact (ih of .optional).optional.map _
    | delimited of atLeastOne delimiter =>
      cases delimiter with
      | none => exact ((ih of .delimited).delimited hC .none atLeastOne).map _
      | some d =>
        exact ((ih of .delimited).delimited hC (.some (ih d .delimiter)) atLeastOne).map _
    | custom p => exact Coupling.parsers_unlabelled_self p

/-- **Grammars that are the same without their labels differ in labels only.** -/
theorem parser_unlabelled_eq {g g' : Grammar} (hg : g.unlabelled = g'.unlabelled)
    (hR : ∀ name s, (R name s).unlabelled = (R' name s).unlabelled) (s : State) :
    (g.parser R s).unlabelled = (g'.parser R' s).unlabelled := by
  have hleft := Coupling.parsers_unlabelled_iff.1
    (parsers_unlabelled (fun name => Coupling.parsers_unlabelled_self (R name)) g) s
  have hright := Coupling.parsers_unlabelled_iff.1
    (parsers_unlabelled (fun name => Coupling.parsers_unlabelled_iff.2 fun s => (hR name s).symm)
      g') s
  calc (g.parser R s).unlabelled = (g.unlabelled.parser R s).unlabelled := hleft
    _ = (g'.unlabelled.parser R s).unlabelled := by rw [hg]
    _ = (g'.parser R' s).unlabelled := hright.symm

end Fundamental

variable {rules rules' : Rules} {g g' : Grammar} {text : List Char}

theorem unfold_unlabelled_eq (hrules : rules.unlabelled = rules'.unlabelled) (depth : Nat)
    (name : String) (s : State) :
    (rules.unfold depth name s).unlabelled = (rules'.unfold depth name s).unlabelled := by
  induction depth generalizing name s with
  | zero => rfl
  | succ depth ih => exact parser_unlabelled_eq (Rules.unlabelled_body hrules name) ih s

/-! ## Whole texts -/

/-- Parsing the whole text ends with `o`: it does at some depth. -/
def Parses (g : Grammar) (rules : Rules) (text : List Char) (o : Outcome Failure Value) : Prop :=
  o ≠ .unfinished ∧ ∃ depth, (g.parser (rules.unfold depth)).parse text = o

end Grammar

namespace Parser

variable {p q : Parser Value} {text : List Char}

theorem neverTrailing_half : half.NeverTrailing := by
  intro s e t h
  have hkind : e.kind = .structural := by
    unfold half at h
    split at h
    · cases h
      rfl
    · split at h
      · cases h
        rfl
      · cases h
  rw [hkind]
  intro htrailing
  cases htrailing

theorem parse_eq_unfinished_iff : p.parse text = .unfinished ↔ p (.start text) = .unfinished := by
  cases hp : p (.start text) with
  | success v t =>
    rw [parse_of_success hp]
    split <;> simp
  | failure e t => simp [parse_of_failure hp]
  | fault reason => simp [parse, hp]
  | unfinished => simp [parse, hp]

/-- Runs that differ in labels give outcomes that differ in labels, and the same outcome if they
match. -/
theorem parse_unlabelled_eq (h : (p (.start text)).unlabelled = (q (.start text)).unlabelled) :
    (p.parse text).unlabelled = (q.parse text).unlabelled ∧
      ∀ v t, p (.start text) = .success v t → p.parse text = q.parse text := by
  have hreplies := Coupling.replies_unlabelled_iff.2 h
  rw [parse, parse]
  generalize p (.start text) = r at hreplies ⊢
  generalize q (.start text) = r' at hreplies ⊢
  refine ⟨?_, ?_⟩
  · cases hreplies with
    | success v hs =>
      obtain rfl := hs
      rfl
    | failure he _ => exact congrArg Outcome.error he
    | fault _ => rfl
    | unfinished _ => rfl
    | cut _ hc => exact hc.elim
  · rintro v t rfl
    cases hreplies with
    | success _ hs =>
      obtain rfl := hs
      rfl

end Parser

namespace Grammar

variable {rules rules' : Rules} {g g' : Grammar} {text : List Char} {o o' : Outcome Failure Value}

theorem exists_parses_iff :
    (∃ o, g.Parses rules text o) ↔ ∃ r, g.Ends rules (.start text) r := by
  constructor
  · rintro ⟨_, ho, depth, rfl⟩
    exact ⟨_, mt Parser.parse_eq_unfinished_iff.2 ho, depth, rfl⟩
  · rintro ⟨_, hr, depth, rfl⟩
    exact ⟨_, mt Parser.parse_eq_unfinished_iff.1 hr, depth, rfl⟩

/-- Both texts are parsed at one depth. -/
theorem Parses.exists_depth (h : g.Parses rules text o) (h' : g'.Parses rules' text o') :
    ∃ depth, (g.parser (rules.unfold depth)).parse text = o ∧
      (g'.parser (rules'.unfold depth)).parse text = o' := by
  obtain ⟨ho, m, rfl⟩ := h
  obtain ⟨ho', n, rfl⟩ := h'
  have hm := (parser_mono g rules (le_max_left m n) (.start text)).resolve_left
    (mt Parser.parse_eq_unfinished_iff.2 ho)
  have hn := (parser_mono g' rules' (le_max_right m n) (.start text)).resolve_left
    (mt Parser.parse_eq_unfinished_iff.2 ho')
  refine ⟨max m n, ?_, ?_⟩
  · rw [Parser.parse, ← hm, Parser.parse]
  · rw [Parser.parse, ← hn, Parser.parse]

/-- **Labels are irrelevant.** Let two grammars and their rules be the same without their labels.
From every state both runs end or neither does; and their ends differ at most in what the failure
says was expected. For a whole text the same holds, and what is said of left over input does not
differ at all, unless a step written by hand makes such a failure itself. -/
theorem labels_irrelevant (hg : g.unlabelled = g'.unlabelled)
    (hrules : rules.unlabelled = rules'.unlabelled) (s : State) (text : List Char) :
    (((∃ r, g.Ends rules s r) ↔ ∃ r, g'.Ends rules' s r) ∧
      (∀ r r', g.Ends rules s r → g'.Ends rules' s r' → r.unlabelled = r'.unlabelled) ∧
      (g.run rules s).unlabelled = (g'.run rules' s).unlabelled) ∧
    ((∃ o, g.Parses rules text o) ↔ ∃ o, g'.Parses rules' text o) ∧
    ∀ o o', g.Parses rules text o → g'.Parses rules' text o' →
      o.unlabelled = o'.unlabelled ∧
      ((∃ v t, g.Ends rules (.start text) (.success v t)) → o = o') ∧
      (g.Steps Parser.NeverTrailing → rules.Steps Parser.NeverTrailing →
        ∀ e, o = .error e → e.kind = .trailingInput → o' = .error e) := by
  have hreplies : ∀ depth s, (g.parser (rules.unfold depth) s).unlabelled =
      (g'.parser (rules'.unfold depth) s).unlabelled :=
    fun depth => parser_unlabelled_eq hg (unfold_unlabelled_eq hrules depth)
  have hends : ∀ s, ((∃ r, g.Ends rules s r) ↔ ∃ r, g'.Ends rules' s r) ∧
      ∀ r r', g.Ends rules s r → g'.Ends rules' s r' → r.unlabelled = r'.unlabelled :=
    fun s => ends_related Reply.unlabelled_eq_unfinished (hreplies · s)
  refine ⟨⟨(hends s).1, (hends s).2, ?_⟩, ?_, ?_⟩
  · rw [run, run, ← Rules.unlabelled_depth hrules s]
    exact hreplies _ s
  · rw [exists_parses_iff, exists_parses_iff]
    exact (hends _).1
  · intro o o' ho ho'
    obtain ⟨depth, hp, hp'⟩ := ho.exists_depth ho'
    obtain ⟨hunlabelled, hsuccess⟩ := Parser.parse_unlabelled_eq (hreplies depth (.start text))
    rw [hp, hp'] at hunlabelled hsuccess
    refine ⟨hunlabelled, ?_, ?_⟩
    · rintro ⟨v, t, hend⟩
      have hne : g.parser (rules.unfold depth) (.start text) ≠ .unfinished :=
        mt Parser.parse_eq_unfinished_iff.2 (hp ▸ ho.1)
      exact hsuccess v t (Ends.unique ⟨hne, depth, rfl⟩ hend)
    · rintro hsteps hrulesSteps e rfl hkind
      rcases Parser.parse_eq_error hp with ⟨t, hfailure⟩ | ⟨v, t, hmatch, -⟩
      · exact (parser_neverTrailing hrulesSteps hsteps depth hfailure hkind).elim
      · exact (hsuccess v t hmatch).symm

/-- Two letters are read before the third attempt fails, whatever the attempts are called. With one
letter that is too few, and with two of them the rest of the text is left over. -/
theorem labels_irrelevant_letters :
    let rules : Rules := ⟨[("item", .alternatives [.desc (.literal "a") "letter", .custom .half])]⟩
    let rules' : Rules :=
      ⟨[("item", .desc (.alternatives [.literal "a", .desc (.custom .half) "half a letter"]) "")]⟩
    let g : Grammar := .times (.rule "item") 2 3
    let g' : Grammar := .desc (.times (.desc (.rule "item") "an item") 2 3) "items"
    g.unlabelled = g'.unlabelled ∧ rules.unlabelled = rules'.unlabelled ∧
    g.Ends rules (.start ['a', 'b']) (.failure ⟨"letter", 1, .quantity⟩ (.start ['a', 'b'])) ∧
    (∃ e, g'.Ends rules' (.start ['a', 'b']) (.failure e (.start ['a', 'b'])) ∧
      e.position = 1 ∧ e.kind = .quantity) ∧
    g'.Parses rules' ['a', 'a', 'b'] (.error ⟨"end of input", 2, .trailingInput⟩) := by
  intro rules rules' g g'
  have hg : g.unlabelled = g'.unlabelled := rfl
  have hrules : rules.unlabelled = rules'.unlabelled := rfl
  have hend : g.Ends rules (.start ['a', 'b'])
      (.failure ⟨"letter", 1, .quantity⟩ (.start ['a', 'b'])) := ⟨nofun, 1, rfl⟩
  have hparse : g.Parses rules ['a', 'a', 'b'] (.error ⟨"end of input", 2, .trailingInput⟩) :=
    ⟨nofun, 1, rfl⟩
  have hsteps : g.Steps Parser.NeverTrailing := by
    refine .of_parts nofun fun h hh => ?_
    simp only [g] at hh
    cases hh
    exact .of_parts nofun nofun
  have hrulesSteps : rules.Steps Parser.NeverTrailing := by
    refine Rules.body_induction (fun _ => .of_parts nofun nofun) fun e he => ?_
    obtain rfl := List.mem_singleton.1 he
    refine .of_parts nofun fun h hh => ?_
    have hcases : h = .desc (.literal "a") "letter" ∨ h = .custom .half := by
      cases hh with
      | alternatives hmem => simpa using hmem
    rcases hcases with rfl | rfl
    · refine .of_parts nofun fun h hh => ?_
      cases hh
      exact .of_parts nofun nofun
    · exact .of_parts (fun p hp => by cases hp; exact Parser.neverTrailing_half) nofun
  obtain ⟨⟨hends, hrelated, -⟩, hparses, hwhole⟩ :=
    labels_irrelevant hg hrules (.start ['a', 'b']) ['a', 'a', 'b']
  obtain ⟨r, hr⟩ := hends.1 ⟨_, hend⟩
  have hreply := hrelated _ _ hend hr
  obtain ⟨o, ho⟩ := hparses.1 ⟨_, hparse⟩
  obtain ⟨-, -, htrailing⟩ := hwhole _ _ hparse ho
  have houtcome := htrailing hsteps hrulesSteps _ rfl rfl
  refine ⟨hg, hrules, hend, ?_, houtcome ▸ ho⟩
  cases r with
  | failure e t =>
    simp only [Reply.unlabelled, Reply.mapFailure, Reply.failure.injEq] at hreply
    obtain ⟨hcause, rfl⟩ := hreply
    obtain ⟨hposition, hkind⟩ := Failure.unlabelled_eq_iff.1 hcause
    exact ⟨e, hr, hposition.symm, hkind.symm⟩
  | _ => cases hreply

/-- A step written by hand may fail as if input were left over, and a label then shows. -/
theorem failWith_relabelled :
    let step : Grammar := .custom (.failWith ⟨"x", 0, .trailingInput⟩)
    (step.desc "y").unlabelled = step.unlabelled ∧
    step.Parses ⟨[]⟩ [] (.error ⟨"x", 0, .trailingInput⟩) ∧
    (step.desc "y").Parses ⟨[]⟩ [] (.error ⟨"y", 0, .trailingInput⟩) :=
  ⟨rfl, ⟨nofun, 0, rfl⟩, nofun, 0, rfl⟩

end Grammar

end Descent
