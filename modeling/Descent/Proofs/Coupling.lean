import Descent.Parser.Lexer
import Descent.Parser.Repetition
import Descent.Proofs.Boundary
import Mathlib.Data.List.Forall2

/-!
# Two runs side by side

Many statements about parsers compare two runs: of one parser at two depths, of two grammars that
differ in a few places, or of a run with itself, to say that it keeps an invariant. A *coupling*
fixes what the two have in common: which states they reach together, which failures they report
together, and whether they may break down or stay unfinished. It is lawful if it agrees with what
primitive parsers and repetitions do with states and failures.

Two parsers correspond if they answer alike from every pair of states that the coupling relates.
Every combinator keeps this: applied to parsers that correspond it gives parsers that correspond.
The statements of this file say so, one for each combinator, so that no later proof has to look
inside them. In particular a combinator runs its parts at related states only, because nothing is
known of the parts elsewhere.
-/

namespace Descent

/-- What two runs have in common. -/
structure Coupling where
  /-- The states that the runs reach together. -/
  state : State → State → Prop
  /-- The failures that they report together. -/
  failure : Failure → Failure → Prop
  /-- The states that they may hand back with these failures. -/
  back : State → State → Prop := fun _ _ => True
  /-- The faults with which both may break down. -/
  fault : Fault → Prop := fun _ => True
  /-- Both may be unfinished. -/
  unfinished : Prop := True
  /-- The first may be unfinished whatever the second one answers. -/
  cut : Prop := False

namespace Coupling

variable {α β γ : Type} {C : Coupling}

/-- The replies that a coupling allows together. Values are the same on both sides. -/
inductive Replies (C : Coupling) : Reply α → Reply α → Prop
  | success (v : α) {s t : State} : C.state s t → Replies C (.success v s) (.success v t)
  | failure {e f : Failure} {s t : State} :
      C.failure e f → C.back s t → Replies C (.failure e s) (.failure f t)
  | fault {r : Fault} : C.fault r → Replies C (.fault r) (.fault r)
  | unfinished : C.unfinished → Replies C .unfinished .unfinished
  | cut (r : Reply α) : C.cut → Replies C .unfinished r

/-- The parsers correspond: from related states they answer alike. -/
def Parsers (C : Coupling) (p q : Parser α) : Prop :=
  ∀ ⦃s t : State⦄, C.state s t → C.Replies (p s) (q t)

/-- A coupling that fits the states and failures that parsers make. -/
structure Lawful (C : Coupling) : Prop where
  remaining {s t} : C.state s t → s.remaining = t.remaining
  consumed_lt {s t s' t'} : C.state s t → C.state s' t' →
    (s.consumed < s'.consumed ↔ t.consumed < t'.consumed)
  back {s t} : C.state s t → C.back s t
  advance {s t n} : C.state s t → (cut? n s.remaining).isSome →
    C.Replies (.ofAdvance (s.advance n)) (.ofAdvance (t.advance n))
  here {s t} (label kind) : C.state s t → kind ≠ .trailingInput →
    C.failure ⟨label, s.consumed, kind⟩ ⟨label, t.consumed, kind⟩
  relabel {e f} (label) : C.failure e f → C.failure (e.relabel label) (f.relabel label)
  withKind {e f} : C.failure e f → C.failure (e.withKind .quantity) (f.withKind .quantity)
  furthest {e f e' f'} : C.failure e f → C.failure e' f' →
    C.failure (e.furthest e') (f.furthest f')

theorem Lawful.consumed_eq (hC : C.Lawful) {s t s' t' : State} (h : C.state s t)
    (h' : C.state s' t') : s'.consumed = s.consumed ↔ t'.consumed = t.consumed := by
  have hlt := hC.consumed_lt h h'
  have hgt := hC.consumed_lt h' h
  omega

/-! ## Replies -/

theorem Replies.map {r r' : Reply α} (h : C.Replies r r') (f : α → β) :
    C.Replies (r.map f) (r'.map f) := by
  cases h with
  | success v hs => exact .success (f v) hs
  | failure he hb => exact .failure he hb
  | fault hr => exact .fault hr
  | unfinished hu => exact .unfinished hu
  | cut r hc => exact .cut _ hc

theorem Replies.bind {r r' : Reply α} {f g : α → State → Reply β} (h : C.Replies r r')
    (hfg : ∀ v {s t}, C.state s t → C.Replies (f v s) (g v t)) :
    C.Replies (r.bind f) (r'.bind g) := by
  cases h with
  | success v hs => exact hfg v hs
  | failure he hb => exact .failure he hb
  | fault hr => exact .fault hr
  | unfinished hu => exact .unfinished hu
  | cut r hc => exact .cut _ hc

theorem Replies.restart {r r' : Reply α} {s t : State} (h : C.Replies r r') (hst : C.back s t) :
    C.Replies (r.restart s) (r'.restart t) := by
  cases h with
  | success v hs => exact .success v hs
  | failure he _ => exact .failure he hst
  | fault hr => exact .fault hr
  | unfinished hu => exact .unfinished hu
  | cut r hc => exact .cut _ hc

theorem Replies.relabel (hC : C.Lawful) {r r' : Reply α} (h : C.Replies r r') (label : String) :
    C.Replies (r.mapFailure (·.relabel label)) (r'.mapFailure (·.relabel label)) := by
  cases h with
  | success v hs => exact .success v hs
  | failure he hb => exact .failure (hC.relabel label he) hb
  | fault hr => exact .fault hr
  | unfinished hu => exact .unfinished hu
  | cut r hc => exact .cut _ hc

/-! ## Primitives -/

theorem parsers_succeed (v : α) : C.Parsers (Parser.succeed v) (Parser.succeed v) :=
  fun _ _ h => .success v h

theorem parsers_fail (hC : C.Lawful) (label : String) :
    C.Parsers (Parser.fail label : Parser α) (Parser.fail label) :=
  fun _ _ h => .failure (hC.here label .structural h (by decide)) (hC.back h)

theorem parsers_literal (hC : C.Lawful) (text : String) :
    C.Parsers (Parser.literal text) (Parser.literal text) := by
  intro s t h
  unfold Parser.literal
  rw [← hC.remaining h]
  split
  · next hpre =>
    obtain ⟨rest, hrest⟩ := List.isPrefixOf_iff_prefix.1 hpre
    refine hC.advance h ?_
    rw [cut?_eq_some_iff.2 ⟨hrest.symm, rfl⟩]
    rfl
  · exact parsers_fail hC text h

theorem parsers_eof (hC : C.Lawful) : C.Parsers Parser.eof Parser.eof := by
  intro s t h
  unfold Parser.eof State.atEnd
  rw [← hC.remaining h]
  split
  · exact parsers_succeed "" h
  · exact parsers_fail hC _ h

/-- Only a pattern that is matched by bytes may break down. -/
theorem parsers_matching (hC : C.Lawful) {p : Pattern}
    (hp : p.bytewise = true → C.fault .splitCharacter) (label : String) :
    C.Parsers (Parser.matching p label) (Parser.matching p label) := by
  intro s t h
  unfold Parser.matching
  rw [← hC.remaining h]
  split
  · next n hn =>
    by_cases hcut : (cut? n s.remaining).isSome
    · exact hC.advance h hcut
    · have hnone : cut? n s.remaining = none := by simpa using hcut
      have hs : s.advance n = .error .splitCharacter := State.advance_eq_split_iff.2 hnone
      have ht : t.advance n = .error .splitCharacter :=
        State.advance_eq_split_iff.2 (hC.remaining h ▸ hnone)
      have hbyte : p.bytewise = true := by
        by_contra hb
        exact hcut (Pattern.cut?_isSome_of_matchEnd? (by simpa using hb) hn)
      rw [hs, ht]
      exact .fault (hp hbyte)
  · exact parsers_fail hC label h

/-! ## Combinators -/

theorem Parsers.map {p q : Parser α} (h : C.Parsers p q) (f : α → β) :
    C.Parsers (p.map f) (q.map f) := fun _ _ hst => (h hst).map f

theorem Parsers.desc (hC : C.Lawful) {p q : Parser α} (h : C.Parsers p q) (label : String) :
    C.Parsers (p.desc label) (q.desc label) := fun _ _ hst => (h hst).relabel hC label

theorem Parsers.bind (hC : C.Lawful) {p q : Parser α} {f g : α → Parser β} (h : C.Parsers p q)
    (hfg : ∀ v, C.Parsers (f v) (g v)) : C.Parsers (p.bind f) (q.bind g) := fun _ _ hst =>
  ((h hst).bind fun v _ _ hst' => hfg v hst').restart (hC.back hst)

theorem Parsers.product (hC : C.Lawful) {p q : Parser α} {p' q' : Parser β} (h : C.Parsers p q)
    (h' : C.Parsers p' q') : C.Parsers (p.product p') (q.product q') := fun _ _ hst =>
  ((h hst).bind fun a _ _ hst' => (h' hst').map fun b => (a, b)).restart (hC.back hst)

theorem Parsers.skip (hC : C.Lawful) {p q : Parser α} {p' q' : Parser β} (h : C.Parsers p q)
    (h' : C.Parsers p' q') : C.Parsers (p.skip p') (q.skip q') := (h.product hC h').map _

theorem Parsers.andThen (hC : C.Lawful) {p q : Parser α} {p' q' : Parser β} (h : C.Parsers p q)
    (h' : C.Parsers p' q') : C.Parsers (p.andThen p') (q.andThen q') := (h.product hC h').map _

theorem parsers_chain {ps qs : List (Parser α)} (h : List.Forall₂ C.Parsers ps qs) :
    C.Parsers (Parser.chain ps) (Parser.chain qs) := by
  induction h with
  | nil => exact fun _ _ hst => .success [] hst
  | cons hp _ ih => exact fun _ _ hst => (hp hst).bind fun v _ _ hst' => (ih hst').map (v :: ·)

theorem parsers_sequence (hC : C.Lawful) {ps qs : List (Parser α)}
    (h : List.Forall₂ C.Parsers ps qs) : C.Parsers (Parser.sequence ps) (Parser.sequence qs) :=
  fun _ _ hst => (parsers_chain h hst).restart (hC.back hst)

theorem Parsers.between (hC : C.Lawful) {p q : Parser α} {a b : Parser β} {c d : Parser γ}
    (h : C.Parsers p q) (hab : C.Parsers a b) (hcd : C.Parsers c d) :
    C.Parsers (p.between a c) (q.between b d) := fun _ _ hst =>
  ((hab hst).bind fun _ _ _ h₁ => (h h₁).bind fun v _ _ h₂ =>
    (hcd h₂).map fun _ => v).restart (hC.back hst)

/-- The furthest failures so far correspond: there is none on either side, or one on both. -/
theorem replies_firstOf (hC : C.Lawful) {ps qs : List (Parser α)} {s t : State}
    (hst : C.state s t) (h : List.Forall₂ C.Parsers ps qs) {best best' : Option Failure}
    (hb : Option.Rel C.failure best best') :
    C.Replies (Parser.firstOf s ps best) (Parser.firstOf t qs best') := by
  induction h generalizing best best' with
  | nil =>
    cases hb with
    | none => exact parsers_fail hC _ hst
    | some he => exact .failure he (hC.back hst)
  | @cons p q ps qs hp _ ih =>
    have hr := hp hst
    simp only [Parser.firstOf]
    generalize p s = r at hr ⊢
    generalize q t = r' at hr ⊢
    cases hr with
    | success v hs => exact .success v hs
    | failure he _ =>
      refine ih (.some ?_)
      cases hb with
      | none => exact he
      | some hb => exact hC.furthest hb he
    | fault hr => exact .fault hr
    | unfinished hu => exact .unfinished hu
    | cut r hc => exact .cut _ hc

theorem parsers_alternatives (hC : C.Lawful) {ps qs : List (Parser α)}
    (h : List.Forall₂ C.Parsers ps qs) :
    C.Parsers (Parser.alternatives ps) (Parser.alternatives qs) :=
  fun _ _ hst => replies_firstOf hC hst h .none

theorem Parsers.optional {p q : Parser α} (h : C.Parsers p q) :
    C.Parsers p.optional q.optional := by
  intro s t hst
  have hr := h hst
  unfold Parser.optional
  generalize p s = r at hr ⊢
  generalize q t = r' at hr ⊢
  cases hr with
  | success v hs => exact .success (some v) hs
  | failure _ _ => exact .success none hst
  | fault hr => exact .fault hr
  | unfinished hu => exact .unfinished hu
  | cut r hc => exact .cut _ hc

/-! ## Repetition -/

theorem Parsers.collect (hC : C.Lawful) {p q : Parser α} (h : C.Parsers p q) (least : Nat)
    (endless : Bool) {start start' : State} (hstart : C.state start start') (rounds : Nat)
    (values : List α) {s t : State} (hst : C.state s t) :
    C.Replies (p.collect least endless start rounds values s)
      (q.collect least endless start' rounds values t) := by
  induction rounds generalizing values s t with
  | zero =>
    unfold Parser.collect
    split
    · exact .failure (hC.here _ .quantity hst (by decide)) (hC.back hstart)
    · exact .success _ hst
  | succ rounds ih =>
    have hr := h hst
    unfold Parser.collect
    generalize p s = r at hr ⊢
    generalize q t = r' at hr ⊢
    cases hr with
    | @success v s' t' hs =>
      have hzero : (s'.consumed == s.consumed) = (t'.consumed == t.consumed) := by
        rw [Bool.eq_iff_iff, beq_iff_eq, beq_iff_eq]
        exact hC.consumed_eq hst hs
      simp only [hzero]
      split
      · exact .success _ hst
      · exact ih (v :: values) hs
    | failure he _ =>
      simp only
      split
      · exact .failure (hC.withKind he) (hC.back hstart)
      · exact .success _ hst
    | fault hr => exact .fault hr
    | unfinished hu => exact .unfinished hu
    | cut r hc => exact .cut _ hc

theorem Parsers.times (hC : C.Lawful) {p q : Parser α} (h : C.Parsers p q) (least most : Nat) :
    C.Parsers (p.times least most) (q.times least most) :=
  fun _ _ hst => h.collect hC least _ hst most [] hst

theorem Parsers.advancing (hC : C.Lawful) {p q : Parser α} (h : C.Parsers p q) (values : List α)
    {s t : State} (hst : C.state s t) :
    C.Replies (p.advancing values s) (q.advancing values t) := by
  have hr := h hst
  rw [Parser.advancing.eq_def p, Parser.advancing.eq_def q]
  generalize p s = r at hr ⊢
  generalize q t = r' at hr ⊢
  cases hr with
  | @success v s' t' hs =>
    by_cases hlt : s.consumed < s'.consumed
    · simp only [if_pos hlt, if_pos ((hC.consumed_lt hst hs).1 hlt)]
      exact Parsers.advancing hC h (v :: values) hs
    · simp only [if_neg hlt, if_neg (mt (hC.consumed_lt hst hs).2 hlt)]
      exact .success _ hst
  | failure _ _ => exact .success _ hst
  | fault hr => exact .fault hr
  | unfinished hu => exact .unfinished hu
  | cut r hc => exact .cut _ hc
termination_by maxOffset - s.consumed
decreasing_by
  have := s'.consumed_le
  omega

theorem Parsers.round {p q : Parser α} {d d' : Option (Parser β)} (h : C.Parsers p q)
    (hd : Option.Rel C.Parsers d d') : C.Parsers (p.round d) (q.round d') := by
  cases hd with
  | none => exact h
  | some hd => exact fun _ _ hst => (hd hst).bind fun _ _ _ hst' => h hst'

theorem Parsers.delimited (hC : C.Lawful) {p q : Parser α} {d d' : Option (Parser β)}
    (h : C.Parsers p q) (hd : Option.Rel C.Parsers d d') (atLeastOne : Bool) :
    C.Parsers (p.delimited atLeastOne d) (q.delimited atLeastOne d') := by
  intro s t hst
  have hr := h hst
  unfold Parser.delimited
  generalize p s = r at hr ⊢
  generalize q t = r' at hr ⊢
  cases hr with
  | success v hs => exact (h.round hd).advancing hC [v] hs
  | failure he _ =>
    cases atLeastOne with
    | true => exact .failure (hC.withKind he) (hC.back hst)
    | false => exact .success [] hst
  | fault hr => exact .fault hr
  | unfinished hu => exact .unfinished hu
  | cut r hc => exact .cut _ hc

/-! ## Equal runs -/

/-- The runs are equal, and if `cut` the first may be unfinished nevertheless. -/
def equal (cut : Prop) : Coupling where
  state := Eq
  failure := Eq
  back := Eq
  cut := cut

theorem lawful_equal (cut : Prop) : (equal cut).Lawful where
  remaining := by rintro s t rfl; rfl
  consumed_lt := by rintro s t s' t' rfl rfl; rfl
  back h := h
  advance := by
    rintro s t n rfl -
    cases s.advance n with
    | ok r => exact .success _ rfl
    | error reason => exact .fault trivial
  here := by rintro s t label kind rfl -; rfl
  relabel := by rintro e f label rfl; rfl
  withKind := by rintro e f rfl; rfl
  furthest := by rintro e f e' f' rfl rfl; rfl

theorem replies_equal_self (cut : Prop) (r : Reply α) : (equal cut).Replies r r := by
  cases r with
  | success v s => exact .success v rfl
  | failure e s => exact .failure rfl rfl
  | fault r => exact .fault trivial
  | unfinished => exact .unfinished trivial

theorem parsers_equal_self (cut : Prop) (p : Parser α) : (equal cut).Parsers p p := by
  rintro s _ rfl
  exact replies_equal_self cut (p s)

theorem eq_of_replies_equal {cut : Prop} {r r' : Reply α} (h : (equal cut).Replies r r') :
    cut ∧ r = .unfinished ∨ r = r' := by
  cases h with
  | success v hs => exact .inr (congrArg _ hs)
  | failure he hs => exact .inr (congr (congrArg _ he) hs)
  | fault _ => exact .inr rfl
  | unfinished _ => exact .inr rfl
  | cut _ hc => exact .inl ⟨hc, rfl⟩

end Coupling

/-! ## Invariants -/

/-- A property of the states, failures and faults of a run. -/
structure Invariant where
  state : State → Prop
  failure : Failure → Prop
  fault : Fault → Prop

namespace Invariant

variable {α : Type} {I : Invariant}

/-- A run beside itself, where everything has the property. -/
def coupling (I : Invariant) : Coupling where
  state s t := s = t ∧ I.state s
  failure e f := e = f ∧ I.failure e
  back := Eq
  fault := I.fault

/-- The replies that have the property. The state that comes with a failure is left out. -/
def Holds (I : Invariant) : Reply α → Prop
  | .success _ s => I.state s
  | .failure e _ => I.failure e
  | .fault r => I.fault r
  | .unfinished => True

/-- The parser answers with the property from states that have it. -/
def Keeps (I : Invariant) (p : Parser α) : Prop := ∀ s, I.state s → I.Holds (p s)

/-- An invariant that primitive parsers and repetitions keep. -/
structure Lawful (I : Invariant) : Prop where
  advance {s t n front} : I.state s → s.advance n = .ok (front, t) → I.state t
  overflow {s n} : I.state s → s.advance n = .error .offsetOverflow → I.fault .offsetOverflow
  here {s} (label kind) : I.state s → kind ≠ .trailingInput → I.failure ⟨label, s.consumed, kind⟩
  relabel {e} (label) : I.failure e → I.failure (e.relabel label)
  withKind {e} : I.failure e → I.failure (e.withKind .quantity)

theorem replies_self {r : Reply α} : I.coupling.Replies r r ↔ I.Holds r := by
  constructor
  · intro h
    cases h with
    | success _ hs => exact hs.2
    | failure he _ => exact he.2
    | fault hr => exact hr
    | unfinished _ => trivial
    | cut _ hc => exact hc.elim
  · intro h
    cases r with
    | success v s => exact .success v ⟨rfl, h⟩
    | failure e s => exact .failure ⟨rfl, h⟩ rfl
    | fault r => exact .fault h
    | unfinished => exact .unfinished trivial

theorem eq_of_replies {r r' : Reply α} (h : I.coupling.Replies r r') : r = r' := by
  cases h with
  | success v hs => exact congrArg _ hs.1
  | failure he hs => exact congr (congrArg _ he.1) hs
  | fault _ => rfl
  | unfinished _ => rfl
  | cut _ hc => exact hc.elim

theorem parsers_self {p : Parser α} : I.coupling.Parsers p p ↔ I.Keeps p := by
  constructor
  · exact fun h s hs => replies_self.1 (h ⟨rfl, hs⟩)
  · rintro h s _ ⟨rfl, hs⟩
    exact replies_self.2 (h s hs)

theorem Lawful.coupling (hI : I.Lawful) : I.coupling.Lawful where
  remaining := by rintro s t ⟨rfl, -⟩; rfl
  consumed_lt := by rintro s t s' t' ⟨rfl, -⟩ ⟨rfl, -⟩; rfl
  back h := h.1
  advance := by
    rintro s t n ⟨rfl, hs⟩ hn
    refine replies_self.2 ?_
    cases h : s.advance n with
    | ok r => exact hI.advance hs h
    | error reason =>
      cases reason with
      | splitCharacter => simp [State.advance_eq_split_iff.1 h] at hn
      | offsetOverflow => exact hI.overflow hs h
  here := by rintro s t label kind ⟨rfl, hs⟩ hk; exact ⟨rfl, hI.here label kind hs hk⟩
  relabel := by rintro e f label ⟨rfl, he⟩; exact ⟨rfl, hI.relabel label he⟩
  withKind := by rintro e f ⟨rfl, he⟩; exact ⟨rfl, hI.withKind he⟩
  furthest := by
    rintro e f e' f' ⟨rfl, he⟩ ⟨rfl, he'⟩
    refine ⟨rfl, ?_⟩
    rw [Failure.furthest]
    split
    · exact he'
    · exact he

end Invariant

end Descent
