import Descent.Proofs.Finish
import Descent.Proofs.Similar
import Mathlib.Order.Filter.AtTopBot.Basic

/-!
# Rules without a bound on the depth

A grammar is run over rules that are unfolded to a depth. Here the depth goes to infinity: the limit
of a rule answers as the rule does from some depth on, and it is unfinished where the rule never
answers (`Rules.limit`).

A run looks at its rules finitely often, because chains and choices are finite, the rounds of a
counted loop are counted, and those of a delimited one increase an offset that has a bound. So if
parsers come to agree with others at every state, what is built from them does as well
(`Parser.Approach`, one statement for each combinator). It follows that the limits are a solution of
their own rules (`Rules.limit_eq`), the least one (`Rules.limit_least`), and that a run over them is
the end of a run (`Grammar.ends_iff_limit`).
-/

namespace Descent

open Filter

variable {α β γ : Type}

/-! ## Replies that come to be the same -/

namespace Reply

variable {r : Nat → Reply α} {r' : Reply α}

theorem eventually_map (hr : ∀ᶠ n in atTop, r n = r') (f : α → β) :
    ∀ᶠ n in atTop, (r n).map f = r'.map f := hr.mono fun _ h => congrArg _ h

theorem eventually_restart (hr : ∀ᶠ n in atTop, r n = r') (s : State) :
    ∀ᶠ n in atTop, (r n).restart s = r'.restart s := hr.mono fun _ h => congrArg _ h

/-- What follows has to agree only after the success that there is in the end. -/
theorem eventually_bind {f : Nat → α → State → Reply β} {g : α → State → Reply β}
    (hr : ∀ᶠ n in atTop, r n = r') (hf : ∀ v t, ∀ᶠ n in atTop, f n v t = g v t) :
    ∀ᶠ n in atTop, (r n).bind (f n) = r'.bind g := by
  cases r' with
  | success v t =>
    filter_upwards [hr, hf v t] with n h hv
    rw [h]
    exact hv
  | _ =>
    filter_upwards [hr] with n h
    rw [h]
    rfl

end Reply

/-! ## Parsers that come to agree -/

namespace Parser

/-- At every state the parsers come to answer as `q` does. -/
def Approach (p : Nat → Parser α) (q : Parser α) : Prop := ∀ s, ∀ᶠ n in atTop, p n s = q s

variable {p : Nat → Parser α} {q : Parser α}

theorem approach_const (q : Parser α) : Approach (fun _ => q) q := fun _ => .of_forall fun _ => rfl

theorem Approach.map (hp : Approach p q) (f : α → β) :
    Approach (fun n => (p n).map f) (q.map f) := fun s => Reply.eventually_map (hp s) f

theorem Approach.desc (hp : Approach p q) (label : String) :
    Approach (fun n => (p n).desc label) (q.desc label) :=
  fun s => (hp s).mono fun _ h => congrArg _ h

theorem Approach.bind {f : Nat → α → Parser β} {g : α → Parser β} (hp : Approach p q)
    (hf : ∀ v, Approach (fun n => f n v) (g v)) :
    Approach (fun n => (p n).bind (f n)) (q.bind g) :=
  fun s => Reply.eventually_restart (Reply.eventually_bind (hp s) hf) s

theorem Approach.product {p' : Nat → Parser β} {q' : Parser β} (hp : Approach p q)
    (hp' : Approach p' q') : Approach (fun n => (p n).product (p' n)) (q.product q') :=
  fun s => Reply.eventually_restart
    (Reply.eventually_bind (hp s) fun _ t => Reply.eventually_map (hp' t) _) s

theorem Approach.between {a : Nat → Parser β} {b : Parser β} {c : Nat → Parser γ} {d : Parser γ}
    (hp : Approach p q) (hab : Approach a b) (hcd : Approach c d) :
    Approach (fun n => (p n).between (a n) (c n)) (q.between b d) :=
  fun s => Reply.eventually_restart (Reply.eventually_bind (hab s) fun _ t =>
    Reply.eventually_bind (hp t) fun _ u => Reply.eventually_map (hcd u) _) s

section Lists

variable {ι : Type} {ps : ι → Nat → Parser α} {qs : ι → Parser α} {is : List ι}

theorem approach_chain (h : ∀ i ∈ is, Approach (ps i) (qs i)) :
    Approach (fun n => chain (is.map fun i => ps i n)) (chain (is.map qs)) := by
  induction is with
  | nil => exact approach_const _
  | cons i is ih =>
    have htail := ih fun j hj => h j (List.mem_cons_of_mem _ hj)
    exact fun s => Reply.eventually_bind (h i List.mem_cons_self s) fun _ t =>
      Reply.eventually_map (htail t) _

theorem approach_sequence (h : ∀ i ∈ is, Approach (ps i) (qs i)) :
    Approach (fun n => sequence (is.map fun i => ps i n)) (sequence (is.map qs)) :=
  fun s => Reply.eventually_restart (approach_chain h s) s

theorem eventually_firstOf (h : ∀ i ∈ is, Approach (ps i) (qs i)) (s : State)
    (best : Option Failure) :
    ∀ᶠ n in atTop, firstOf s (is.map fun i => ps i n) best = firstOf s (is.map qs) best := by
  induction is generalizing best with
  | nil => exact .of_forall fun _ => rfl
  | cons i is ih =>
    have hi := h i List.mem_cons_self s
    have htail := ih fun j hj => h j (List.mem_cons_of_mem _ hj)
    simp only [List.map_cons, firstOf]
    cases hq : qs i s with
    | failure e t =>
      filter_upwards [hi, htail (some (best.elim e (·.furthest e)))] with n hn hrest
      rw [hn, hq]
      exact hrest
    | _ =>
      filter_upwards [hi] with n hn
      rw [hn, hq]

theorem approach_alternatives (h : ∀ i ∈ is, Approach (ps i) (qs i)) :
    Approach (fun n => alternatives (is.map fun i => ps i n)) (alternatives (is.map qs)) :=
  fun s => eventually_firstOf h s none

end Lists

theorem Approach.optional (hp : Approach p q) : Approach (fun n => (p n).optional) q.optional :=
  fun s => (hp s).mono fun n h => by simp only [Parser.optional, h]

/-! ## Loops -/

theorem Approach.collect (hp : Approach p q) (least : Nat) (endless : Bool) (start : State)
    (rounds : Nat) (values : List α) (s : State) :
    ∀ᶠ n in atTop, (p n).collect least endless start rounds values s =
      q.collect least endless start rounds values s := by
  induction rounds generalizing values s with
  | zero => exact .of_forall fun _ => rfl
  | succ rounds ih =>
    simp only [Parser.collect]
    cases hq : q s with
    | success v t =>
      filter_upwards [hp s, ih (v :: values) t] with n hn hrest
      rw [hn, hq]
      simp only [hrest]
    | _ =>
      filter_upwards [hp s] with n hn
      rw [hn, hq]

theorem Approach.times (hp : Approach p q) (least most : Nat) :
    Approach (fun n => (p n).times least most) (q.times least most) :=
  fun s => hp.collect least _ s most [] s

theorem Approach.advancing (hp : Approach p q) (values : List α) (s : State) :
    ∀ᶠ n in atTop, (p n).advancing values s = q.advancing values s := by
  -- The induction follows the rounds of the loop over `q`.
  fun_induction Parser.advancing q values s with
  | case1 values s v t hq hlt ih =>
    filter_upwards [hp s, ih] with n hn hrest
    rw [Parser.advancing, hn, hq]
    simp only [if_pos hlt, hrest]
  | case2 values s v t hq hle =>
    filter_upwards [hp s] with n hn
    rw [Parser.advancing, hn, hq]
    simp only [if_neg hle]
  | case3 values s e t hq =>
    filter_upwards [hp s] with n hn
    rw [Parser.advancing, hn, hq]
  | case4 values s r hq =>
    filter_upwards [hp s] with n hn
    rw [Parser.advancing, hn, hq]
  | case5 values s hq =>
    filter_upwards [hp s] with n hn
    rw [Parser.advancing, hn, hq]

/-- A repetition approaches another one if its elements and its rounds do. -/
theorem Approach.delimited {d : Nat → Option (Parser β)} {d' : Option (Parser β)}
    (hp : Approach p q) (hround : Approach (fun n => (p n).round (d n)) (q.round d'))
    (atLeastOne : Bool) :
    Approach (fun n => (p n).delimited atLeastOne (d n)) (q.delimited atLeastOne d') := by
  intro s
  simp only [Parser.delimited]
  cases hq : q s with
  | success v t =>
    filter_upwards [hp s, hround.advancing [v] t] with n hn hrest
    rw [hn, hq]
    exact hrest
  | _ =>
    filter_upwards [hp s] with n hn
    rw [hn, hq]

theorem Approach.round_none (hp : Approach p q) :
    Approach (fun n => (p n).round (none : Option (Parser β)))
      (q.round (none : Option (Parser β))) :=
  hp

theorem Approach.round_some {d : Nat → Parser β} {d' : Parser β} (hp : Approach p q)
    (hd : Approach d d') : Approach (fun n => (p n).round (some (d n))) (q.round (some d')) :=
  fun s => Reply.eventually_bind (hd s) fun _ t => hp t

end Parser

/-! ## Grammars -/

open Descent.Parser in
/-- A grammar comes to agree if its rules do. -/
theorem Grammar.parser_approach {rules : Nat → String → Parser Value}
    {limit : String → Parser Value}
    (hrules : ∀ name, Approach (fun n => rules n name) (limit name)) (g : Grammar) :
    Approach (fun n => g.parser (rules n)) (g.parser limit) := by
  induction g using part_induction with
  | step g ih =>
    cases g with
    | rule name => exact hrules name
    | map of f => exact (ih of .map).map f
    | bind of next => exact (ih of .bind).bind fun v => ih _ (.bindNext v)
    | product first second =>
      exact ((ih first .productFirst).product (ih second .productSecond)).map _
    | skip of trailing => exact ((ih of .skip).product (ih trailing .skipTrailing)).map _
    | andThen of next => exact ((ih of .andThen).product (ih next .andThenNext)).map _
    | sequence items =>
      simp only [parser_sequence]
      exact (approach_sequence fun k hk => ih k (.sequence hk)).map _
    | alternatives items =>
      simp only [parser_alternatives]
      exact approach_alternatives fun k hk => ih k (.alternatives hk)
    | desc of label => exact (ih of .desc).desc label
    | surroundedBy of before after =>
      exact (ih of .surroundedBy).between (approach_const _) (approach_const _)
    | times of least most => exact ((ih of .times).times least most).map _
    | optional of => exact (ih of .optional).optional.map _
    | delimited of atLeastOne delimiter =>
      have hof := ih of .delimited
      cases delimiter with
      | none => exact (hof.delimited hof.round_none atLeastOne).map _
      | some d => exact (hof.delimited (hof.round_some (ih d .delimiter)) atLeastOne).map _
    | _ => exact approach_const _

/-! ## The limit of the rules -/

namespace Rules

variable {rules : Rules} {name : String} {s : State}

open Classical in
/-- The rule without a bound on the depth: what it answers at any depth at which it does. -/
noncomputable def limit (rules : Rules) (name : String) : Parser Value := fun s =>
  if h : ∃ depth, (rules.unfold depth name).Finishes s then rules.unfold h.choose name s
  else .unfinished

/-- A rule comes to answer as its limit does. -/
theorem approach_limit (rules : Rules) (name : String) :
    Parser.Approach (fun depth => rules.unfold depth name) (rules.limit name) := by
  intro s
  by_cases h : ∃ depth, (rules.unfold depth name).Finishes s
  · filter_upwards [eventually_ge_atTop h.choose] with n hn
    rw [limit, dif_pos h]
    exact ((Grammar.parser_mono (.rule name) rules hn s).resolve_left h.choose_spec).symm
  · filter_upwards with n
    rw [limit, dif_neg h]
    exact not_not.1 fun hn => h ⟨n, hn⟩

/-- **The limit of a rule is its body over the limits.** -/
theorem limit_eq (rules : Rules) (name : String) :
    rules.limit name = (rules.body name).parser rules.limit := by
  funext s
  have hrule := (tendsto_add_atTop_nat 1).eventually (rules.approach_limit name s)
  have hbody := Grammar.parser_approach rules.approach_limit (rules.body name) s
  obtain ⟨n, hn, hn'⟩ := (hrule.and hbody).exists
  exact hn.symm.trans hn'

/-- **The limits are the least solution**: other parsers that the bodies lead back to answer alike
wherever the limits answer. -/
theorem limit_least {parsers : String → Parser Value}
    (h : ∀ name, (rules.body name).parser parsers = parsers name) (name : String) :
    (Coupling.equal True).Parsers (rules.limit name) (parsers name) := by
  have hdepth : ∀ depth name, (Coupling.equal True).Parsers (rules.unfold depth name)
      (parsers name) := by
    intro depth
    induction depth with
    | zero => exact fun name s t _ => .cut _ trivial
    | succ depth ih =>
      intro name
      have hbody := Grammar.Similar.parsers (Grammar.fits_equal True) ih
        (rules.body name).similar_refl
      rw [← h]
      exact hbody
  intro s t hst
  obtain ⟨n, hn⟩ := (rules.approach_limit name s).exists
  rw [← hn]
  exact hdepth n name hst

end Rules

/-- **A run ends with what the grammar answers over the limits.** -/
theorem Grammar.ends_iff_limit {g : Grammar} {rules : Rules} {s : State} {r : Reply Value} :
    g.Ends rules s r ↔ r ≠ .unfinished ∧ g.parser rules.limit s = r := by
  have hlimit := parser_approach rules.approach_limit g s
  constructor
  · intro h
    obtain ⟨m, hm⟩ := h.exists_depth
    obtain ⟨n, hn, hmn⟩ := (hlimit.and (eventually_ge_atTop m)).exists
    exact ⟨h.1, hn.symm.trans (hm n hmn)⟩
  · intro h
    obtain ⟨hr, rfl⟩ := h
    obtain ⟨n, hn⟩ := hlimit.exists
    exact ⟨hr, n, hn⟩

end Descent
