import Descent.Proofs.Coupling
import Descent.Proofs.Parts
import Descent.Proofs.Watch

/-!
# Similar grammars

Two grammars are similar if they have the same form, except that steps written by hand may differ
in a given way. Under a lawful coupling that relates these steps, similar grammars over similar
rules describe parsers that correspond (`Similar.parsers`, `Similar.unfold`), and putting a watch
on the first of them changes nothing, as long as the watch does not interfere at related states.

The case of a grammar that is similar to itself gives the invariants of its runs. The case of two
depths says that a run which ends at some depth gives the same reply at every greater one
(`parser_mono`), so that a run has one end (`Grammar.Ends`) at most.
-/

namespace Descent

/-! ## Watches that do not interfere -/

/-- A watch that keeps the answers at the states of a coupling. -/
def Coupling.Tolerates (C : Coupling) (w : Watch) : Prop :=
  ∀ {α : Type} {p q : Parser α}, C.Parsers p q → C.Parsers (w α p) q

theorem Coupling.tolerates_none (C : Coupling) : C.Tolerates .none := fun h => h

theorem Coupling.tolerates_tripwire {C : Coupling} {wire : State}
    (hwire : ∀ t, ¬ C.state wire t) (reason : Fault) : C.Tolerates (.tripwire wire reason) := by
  intro α p q h s t hst
  rw [Watch.tripwire]
  rw [if_neg]
  · exact h hst
  · rintro rfl
    exact hwire t hst

namespace Grammar

/-! ## Similar grammars -/

/-- The grammars differ at most in their steps, as `S` allows, and all patterns satisfy `P`. -/
inductive Similar (S : Parser Value → Parser Value → Prop) (P : Pattern → Prop) :
    Grammar → Grammar → Prop
  | literal (text) : Similar S P (.literal text) (.literal text)
  | pattern {p} (label) : P p → Similar S P (.pattern p label) (.pattern p label)
  | eof : Similar S P .eof .eof
  | lexeme (l) : Similar S P (.lexeme l) (.lexeme l)
  | succeed (v) : Similar S P (.succeed v) (.succeed v)
  | fail (label) : Similar S P (.fail label) (.fail label)
  | rule (name) : Similar S P (.rule name) (.rule name)
  | map {g h} (f) : Similar S P g h → Similar S P (.map g f) (.map h f)
  | bind {g h next next'} : Similar S P g h → (∀ v, Similar S P (next v) (next' v)) →
    Similar S P (.bind g next) (.bind h next')
  | product {g h g' h'} : Similar S P g h → Similar S P g' h' →
    Similar S P (.product g g') (.product h h')
  | skip {g h g' h'} : Similar S P g h → Similar S P g' h' →
    Similar S P (.skip g g') (.skip h h')
  | andThen {g h g' h'} : Similar S P g h → Similar S P g' h' →
    Similar S P (.andThen g g') (.andThen h h')
  | sequence {gs hs} : List.Forall₂ (Similar S P) gs hs →
    Similar S P (.sequence gs) (.sequence hs)
  | alternatives {gs hs} : List.Forall₂ (Similar S P) gs hs →
    Similar S P (.alternatives gs) (.alternatives hs)
  | desc {g h} (label) : Similar S P g h → Similar S P (.desc g label) (.desc h label)
  | surroundedBy {g h} (before after) : Similar S P g h →
    Similar S P (.surroundedBy g before after) (.surroundedBy h before after)
  | times {g h} (least most) : Similar S P g h →
    Similar S P (.times g least most) (.times h least most)
  | optional {g h} : Similar S P g h → Similar S P (.optional g) (.optional h)
  | delimited {g h d d'} (atLeastOne) : Similar S P g h → Option.Rel (Similar S P) d d' →
    Similar S P (.delimited g atLeastOne d) (.delimited h atLeastOne d')
  | custom {p q} : S p q → Similar S P (.custom p) (.custom q)

variable {S : Parser Value → Parser Value → Prop} {P : Pattern → Prop}

/-- A grammar is similar to itself if its own steps and patterns allow it. -/
theorem similar_self {g : Grammar} (hS : g.Steps fun p => S p p) (hP : g.Patterns P) :
    g.Similar S P g := by
  induction g using part_induction with
  | step g ih =>
    have hself : ∀ h, PartOf h g → h.Similar S P h := fun h hh => ih h hh (hS.part hh) (hP.part hh)
    cases g with
    | literal text => exact .literal text
    | pattern p label => exact .pattern label (hP p label (.self _))
    | eof => exact .eof
    | lexeme l => exact .lexeme l
    | succeed v => exact .succeed v
    | fail label => exact .fail label
    | rule name => exact .rule name
    | map of f => exact .map f (hself of .map)
    | bind of next => exact .bind (hself of .bind) fun v => hself _ (.bindNext v)
    | product first second =>
      exact .product (hself first .productFirst) (hself second .productSecond)
    | skip of trailing => exact .skip (hself of .skip) (hself trailing .skipTrailing)
    | andThen of next => exact .andThen (hself of .andThen) (hself next .andThenNext)
    | sequence items =>
      exact .sequence (List.forall₂_same.2 fun h hh => hself h (.sequence hh))
    | alternatives items =>
      exact .alternatives (List.forall₂_same.2 fun h hh => hself h (.alternatives hh))
    | desc of label => exact .desc label (hself of .desc)
    | surroundedBy of before after => exact .surroundedBy before after (hself of .surroundedBy)
    | times of least most => exact .times least most (hself of .times)
    | optional of => exact .optional (hself of .optional)
    | delimited of atLeastOne delimiter =>
      refine .delimited atLeastOne (hself of .delimited) ?_
      cases delimiter with
      | none => exact .none
      | some d => exact .some (hself d .delimiter)
    | custom p => exact .custom (hS p (.self _))

/-! ## Similar grammars correspond -/

/-- The coupling fits the watch, the steps that `S` relates and the patterns that satisfy `P`. -/
structure Fits (C : Coupling) (w : Watch) (S : Parser Value → Parser Value → Prop)
    (P : Pattern → Prop) : Prop where
  lawful : C.Lawful
  tolerates : C.Tolerates w
  steps {p q} : S p q → C.Parsers p q
  patterns {p} : P p → p.bytewise = true → C.fault .splitCharacter

section Fundamental

variable {C : Coupling} {w : Watch} {rules rules' : String → Parser Value}

theorem parsers_converted {α : Type} {p q : Parser String} (hC : C.Lawful) (hw : C.Tolerates w)
    (hp : C.Parsers p q) (read : List Char → Option α) (label : String) :
    C.Parsers (.converted w p read label) (.converted .none q read label) := by
  refine .bind hC (hw hp) fun text => ?_
  cases read text.toList with
  | some v => exact hw (Coupling.parsers_succeed v)
  | none => exact hw (Coupling.parsers_fail hC label)

theorem parsers_lexeme (hC : C.Lawful) (hw : C.Tolerates w) (l : Lexeme) :
    C.Parsers (l.watched w) l.parser := by
  -- All built-in patterns are matched by characters.
  have hmatch (e : Pattern.Expr) (label : String) :
      C.Parsers (.matching (.ofExpr e) label) (.matching (.ofExpr e) label) :=
    Coupling.parsers_matching hC (fun h => by cases h) label
  cases l with
  | whitespace => exact hw ((hmatch _ _).map _)
  | digits => exact hw ((hmatch _ _).map _)
  | word => exact hw ((hmatch _ _).map _)
  | integer => exact hw ((parsers_converted hC hw (hmatch _ _) _ _).map _)
  | decimal => exact hw ((parsers_converted hC hw (hmatch _ _) _ _).map _)

theorem forall₂_parsers {gs hs : List Grammar} (h : List.Forall₂ (Similar S P) gs hs)
    (ih : ∀ g ∈ gs, ∀ {h}, g.Similar S P h → C.Parsers (g.watched w rules) (h.parser rules')) :
    List.Forall₂ C.Parsers (watchedAll w rules gs) (watchedAll .none rules' hs) := by
  induction h with
  | nil => exact .nil
  | cons hg _ ihs =>
    exact .cons (ih _ List.mem_cons_self hg) (ihs fun g hg => ih g (List.mem_cons_of_mem _ hg))

/-- **Similar grammars describe parsers that correspond.** -/
theorem Similar.parsers (hf : Fits C w S P)
    (hrules : ∀ name, C.Parsers (rules name) (rules' name)) {g h : Grammar}
    (hgh : g.Similar S P h) : C.Parsers (g.watched w rules) (h.parser rules') := by
  have hC := hf.lawful
  have hw : C.Tolerates w := hf.tolerates
  induction g using part_induction generalizing h with
  | step g ih =>
    cases hgh with
    | literal text => exact hw ((Coupling.parsers_literal hC text).map _)
    | pattern label hp => exact hw ((Coupling.parsers_matching hC (hf.patterns hp) label).map _)
    | eof => exact hw ((Coupling.parsers_eof hC).map _)
    | lexeme l => exact parsers_lexeme hC hw l
    | succeed v => exact hw (Coupling.parsers_succeed v)
    | fail label => exact hw (Coupling.parsers_fail hC label)
    | rule name => exact hw (hrules name)
    | map f hg => exact hw ((ih _ .map hg).map f)
    | bind hg hnext => exact hw ((ih _ .bind hg).bind hC fun v => ih _ (.bindNext v) (hnext v))
    | product hg hg' =>
      exact hw (((ih _ .productFirst hg).product hC (ih _ .productSecond hg')).map _)
    | skip hg hg' => exact hw ((ih _ .skip hg).skip hC (ih _ .skipTrailing hg'))
    | andThen hg hg' => exact hw ((ih _ .andThen hg).andThen hC (ih _ .andThenNext hg'))
    | sequence hgs =>
      have hps := forall₂_parsers hgs fun g hg {_} => ih g (.sequence hg)
      exact hw ((Coupling.parsers_sequence hC hps).map _)
    | alternatives hgs =>
      have hps := forall₂_parsers hgs fun g hg {_} => ih g (.alternatives hg)
      exact hw (Coupling.parsers_alternatives hC hps)
    | desc label hg => exact hw ((ih _ .desc hg).desc hC label)
    | surroundedBy before after hg =>
      exact hw ((ih _ .surroundedBy hg).between hC (hw (Coupling.parsers_literal hC before))
        (hw (Coupling.parsers_literal hC after)))
    | times least most hg => exact hw (((ih _ .times hg).times hC least most).map _)
    | optional hg => exact hw ((ih _ .optional hg).optional.map _)
    | delimited atLeastOne hg hd =>
      cases hd with
      | none => exact hw (((ih _ .delimited hg).delimited hC .none atLeastOne).map _)
      | some hd =>
        exact hw (((ih _ .delimited hg).delimited hC (.some (ih _ .delimiter hd)) atLeastOne).map _)
    | custom hp => exact hw (hf.steps hp)

end Fundamental

section Depth

variable {C : Coupling} {w : Watch} {rules rules' : Rules} {m n : Nat}

/-- Rules with similar bodies describe parsers that correspond. -/
theorem Similar.unfold (hf : Fits C w S P) (hu : C.unfinished)
    (hrules : ∀ name, (rules.body name).Similar S P (rules'.body name))
    (hmn : m = n ∨ m ≤ n ∧ C.cut) (name : String) :
    C.Parsers (rules.watched w m name) (rules'.unfold n name) := by
  induction m generalizing n name with
  | zero =>
    intro s t _
    rcases hmn with rfl | ⟨-, hcut⟩
    · exact .unfinished hu
    · exact .cut _ hcut
  | succ m ih =>
    obtain ⟨n, rfl⟩ : ∃ k, n = k + 1 := ⟨n - 1, by omega⟩
    have hmn' : m = n ∨ m ≤ n ∧ C.cut := by
      rcases hmn with h | ⟨h, hcut⟩
      · exact .inl (by omega)
      · exact .inr ⟨by omega, hcut⟩
    exact Similar.parsers hf (ih hmn') (hrules name)

/-- **Similar grammars over similar rules run alike.** The first run may have less depth if the
coupling tolerates that it is unfinished. -/
theorem Similar.runs (hf : Fits C w S P) (hu : C.unfinished)
    (hrules : ∀ name, (rules.body name).Similar S P (rules'.body name)) {g h : Grammar}
    (hgh : g.Similar S P h) (hmn : m = n ∨ m ≤ n ∧ C.cut) :
    C.Parsers (g.watched w (rules.watched w m)) (h.parser (rules'.unfold n)) :=
  Similar.parsers hf (Similar.unfold hf hu hrules hmn) hgh

end Depth

/-! ## The end of a run -/

/-- Any grammar is similar to itself, when every step stands for itself. -/
theorem similar_refl (g : Grammar) : g.Similar Eq (fun _ => True) g :=
  similar_self (fun _ _ => rfl) (fun _ _ _ => trivial)

theorem fits_equal (cut : Prop) : Fits (.equal cut) .none Eq fun _ => True where
  lawful := Coupling.lawful_equal cut
  tolerates := Coupling.tolerates_none _
  steps := by rintro p _ rfl; exact Coupling.parsers_equal_self cut p
  patterns _ _ := trivial

/-- A run that ends at some depth gives the same reply at every greater depth. -/
theorem parser_mono (g : Grammar) (rules : Rules) {m n : Nat} (hmn : m ≤ n) (s : State) :
    g.parser (rules.unfold m) s = .unfinished ∨
      g.parser (rules.unfold m) s = g.parser (rules.unfold n) s := by
  have h := Similar.runs (fits_equal True) trivial (fun name => (rules.body name).similar_refl)
    g.similar_refl (.inr ⟨hmn, trivial⟩) (rfl : s = s)
  exact (Coupling.eq_of_replies_equal h).imp_left And.right

/-- The run of the grammar from `s` ends with `r`: it does at some depth. -/
def Ends (g : Grammar) (rules : Rules) (s : State) (r : Reply Value) : Prop :=
  r ≠ .unfinished ∧ ∃ depth, g.parser (rules.unfold depth) s = r

/-- **A run has one end at most.** -/
theorem Ends.unique {g : Grammar} {rules : Rules} {s : State} {r r' : Reply Value}
    (h : g.Ends rules s r) (h' : g.Ends rules s r') : r = r' := by
  obtain ⟨hr, m, rfl⟩ := h
  obtain ⟨hr', n, rfl⟩ := h'
  rcases Nat.le_total m n with hmn | hnm
  · exact (parser_mono g rules hmn s).resolve_left hr
  · exact ((parser_mono g rules hnm s).resolve_left hr').symm

theorem ends_run {g : Grammar} {rules : Rules} {s : State} (h : g.run rules s ≠ .unfinished) :
    g.Ends rules s (g.run rules s) := ⟨h, rules.depth s, rfl⟩

/-- A run that ends gives its end at every depth from some depth on. -/
theorem Ends.exists_depth {g : Grammar} {rules : Rules} {s : State} {r : Reply Value}
    (h : g.Ends rules s r) : ∃ m, ∀ n, m ≤ n → g.parser (rules.unfold n) s = r := by
  obtain ⟨hr, m, rfl⟩ := h
  exact ⟨m, fun n hmn => ((parser_mono g rules hmn s).resolve_left hr).symm⟩

/-- Runs whose replies are related at every depth end together, and their ends are related. -/
theorem ends_related {R : Reply Value → Reply Value → Prop} {g g' : Grammar}
    {rules rules' : Rules} {s t : State}
    (hR : ∀ {r r'}, R r r' → (r = .unfinished ↔ r' = .unfinished))
    (h : ∀ depth, R (g.parser (rules.unfold depth) s) (g'.parser (rules'.unfold depth) t)) :
    ((∃ r, g.Ends rules s r) ↔ ∃ r, g'.Ends rules' t r) ∧
      ∀ r r', g.Ends rules s r → g'.Ends rules' t r' → R r r' := by
  refine ⟨⟨?_, ?_⟩, ?_⟩
  · rintro ⟨_, hr, depth, rfl⟩
    exact ⟨_, mt (hR (h depth)).2 hr, depth, rfl⟩
  · rintro ⟨_, hr, depth, rfl⟩
    exact ⟨_, mt (hR (h depth)).1 hr, depth, rfl⟩
  · intro r r' hr hr'
    obtain ⟨m, hm⟩ := hr.exists_depth
    obtain ⟨n, hn⟩ := hr'.exists_depth
    have hboth := h (max m n)
    rwa [hm _ (le_max_left m n), hn _ (le_max_right m n)] at hboth

end Grammar

/-! ## Invariants of a run -/

namespace Invariant

variable {I : Invariant} {rules : Rules} {g : Grammar}

/-- Runs of the grammar over the rules keep the invariant: all of their steps do, and where it
excludes that a match ends inside a character, all of their patterns are matched by characters. -/
structure KeptBy (I : Invariant) (rules : Rules) (g : Grammar) : Prop where
  lawful : I.Lawful
  steps : g.Steps I.Keeps
  rulesSteps : rules.Steps I.Keeps
  patterns : g.Patterns fun p => p.bytewise = true → I.fault .splitCharacter
  rulesPatterns : rules.Patterns fun p => p.bytewise = true → I.fault .splitCharacter

theorem KeptBy.runs (h : I.KeptBy rules g) {w : Watch} (hw : I.coupling.Tolerates w)
    (depth : Nat) :
    I.coupling.Parsers (g.watched w (rules.watched w depth)) (g.parser (rules.unfold depth)) := by
  refine Grammar.Similar.runs (S := fun p q => p = q ∧ I.Keeps p)
    (P := fun p => p.bytewise = true → I.fault .splitCharacter)
    ⟨h.lawful.coupling, hw, ?_, fun hp => hp⟩ trivial (fun name => ?_) ?_ (.inl rfl)
  · rintro p _ ⟨rfl, hp⟩
    exact parsers_self.2 hp
  · exact Grammar.similar_self (fun p hp => ⟨rfl, h.rulesSteps name p hp⟩) (h.rulesPatterns name)
  · exact Grammar.similar_self (fun p hp => ⟨rfl, h.steps p hp⟩) h.patterns

/-- **A run that starts with the invariant ends with it.** -/
theorem KeptBy.keeps (h : I.KeptBy rules g) (depth : Nat) :
    I.Keeps (g.parser (rules.unfold depth)) :=
  parsers_self.1 (h.runs (Coupling.tolerates_none _) depth)

theorem KeptBy.holds (h : I.KeptBy rules g) {s : State} (hs : I.state s) {r : Reply Value}
    (hr : g.Ends rules s r) : I.Holds r := by
  obtain ⟨-, depth, rfl⟩ := hr
  exact h.keeps depth s hs

/-- **All states that a run hands to its parts satisfy the invariant.** -/
theorem KeptBy.state_of_hands (h : I.KeptBy rules g) {s t : State} (hs : I.state s)
    (ht : g.Hands rules s t) : I.state t := by
  by_contra hneg
  obtain ⟨depth, reason, hne⟩ := ht
  have hw : I.coupling.Tolerates (.tripwire t reason) :=
    Coupling.tolerates_tripwire (by rintro _ ⟨rfl, ht⟩; exact hneg ht) reason
  exact hne (eq_of_replies (h.runs hw depth ⟨rfl, hs⟩))

end Invariant

end Descent
