import Descent.Grammar.Basic
import Descent.Proofs.Rounds

/-!
# Delimited repetition

`Parser.oneOrMore` and `Parser.zeroOrMore` read a first element, and then pairs of a delimiter and
an element (`Parser.Pair`) for as long as each pair as a whole gets further (`Parser.Pairs`). They
end where the delimiter fails, or the element behind it, or the pair stays where it began
(`Parser.PairsEnd`). The state is then the one before that pair, so a delimiter at the end is left
over. The first element counts even if it reads nothing.

Which delimiter is in force is settled when it is set, one setting after another: the last parser,
whatever comes after it, or else the last text (`Delimiter.resolve_ofSettings`).

Main statement: `Parser.delimited_exact`.
-/

namespace Descent.Parser

variable {α β γ δ : Type}

/-! ## The delimiter in force -/

namespace Delimiter

/-- A step in setting a delimiter: the text or the parser is set. -/
inductive Setting (γ : Type) where
  | text (text : String)
  | parser (parser : γ)

namespace Setting

def text? : Setting γ → Option String
  | text t => some t
  | parser _ => none

def parser? : Setting γ → Option γ
  | text _ => none
  | parser q => some q

def map (f : γ → δ) : Setting γ → Setting δ
  | text t => text t
  | parser q => parser (f q)

end Setting

def set (d : Delimiter γ) : Setting γ → Delimiter γ
  | .text t => d.withText t
  | .parser q => d.withParser q

/-- The delimiter after all settings, one after another. -/
def ofSettings (settings : List (Setting γ)) : Delimiter γ := settings.foldl set {}

/-- The last parser among the settings, or else the last text, or else nothing. -/
def inForce (ofText : String → γ) (settings : List (Setting γ)) : Option γ :=
  (settings.filterMap Setting.parser?).getLast?.or
    ((settings.filterMap Setting.text?).getLast?.map ofText)

/-- Each setting replaces what was set in the same place before. -/
theorem foldl_set (d : Delimiter γ) (settings : List (Setting γ)) :
    settings.foldl set d =
      ⟨(settings.filterMap Setting.text?).getLast?.or d.text,
        (settings.filterMap Setting.parser?).getLast?.or d.parser⟩ := by
  induction settings generalizing d with
  | nil => rfl
  | cons x settings ih =>
    rw [List.foldl_cons, ih]
    cases x with
    | text t =>
      cases h : (settings.filterMap Setting.text?).getLast? <;>
        simp [set, withText, Setting.text?, Setting.parser?, List.getLast?_cons, h]
    | parser q =>
      cases h : (settings.filterMap Setting.parser?).getLast? <;>
        simp [set, withParser, Setting.text?, Setting.parser?, List.getLast?_cons, h]

/-- **The last parser is in force, or else the last text.** -/
theorem resolve_ofSettings (ofText : String → γ) (settings : List (Setting γ)) :
    (ofSettings settings).resolve ofText = inForce ofText settings := by
  rw [ofSettings, foldl_set]
  simp [resolve, inForce]

theorem inForce_map (f : γ → δ) (ofText : String → γ) (settings : List (Setting γ)) :
    (inForce ofText settings).map f =
      inForce (fun text => f (ofText text)) (settings.map (Setting.map f)) := by
  have hparser : ∀ x : Setting γ, (x.map f).parser? = x.parser?.map f := by
    intro x
    cases x <;> rfl
  have htext : ∀ x : Setting γ, (x.map f).text? = x.text? := by
    intro x
    cases x <;> rfl
  simp only [inForce, Option.map_or, List.filterMap_map, Function.comp_def, hparser, htext,
    ← List.map_filterMap, List.getLast?_map, Option.map_map]

end Delimiter

/-! ## Pairs -/

variable {p : Parser α} {d : Option (Parser β)} {s t u : State} {v : α} {vs ws : List α}

/-- A pair from `s` to `t`: the delimiter, if there is one, and behind it an element. -/
inductive Pair (p : Parser α) : Option (Parser β) → State → α → State → Prop
  | bare {s t : State} {v : α} : p s = .success v t → Pair p none s v t
  | delimited {q : Parser β} {s t u : State} {w : β} {v : α} :
      q s = .success w u → p u = .success v t → Pair p (some q) s v t

/-- Pairs in a row from `s` to `t`, each of which gets further. -/
inductive Pairs (p : Parser α) (d : Option (Parser β)) : State → List α → State → Prop
  | nil (s : State) : Pairs p d s [] s
  | cons {s t u : State} {v : α} {vs : List α} : p.Pair d s v u → s.consumed < u.consumed →
      Pairs p d u vs t → Pairs p d s (v :: vs) t

/-- There is no pair at `t` that gets further. -/
inductive PairsEnd (p : Parser α) : Option (Parser β) → State → Prop
  | delimiter {q : Parser β} {t u : State} {e : Failure} : q t = .failure e u →
      PairsEnd p (some q) t
  | bareElement {t u : State} {e : Failure} : p t = .failure e u → PairsEnd p none t
  | element {q : Parser β} {t u w : State} {b : β} {e : Failure} : q t = .success b u →
      p u = .failure e w → PairsEnd p (some q) t
  | stays {d : Option (Parser β)} {t u : State} {v : α} : p.Pair d t v u →
      ¬ t.consumed < u.consumed → PairsEnd p d t

theorem round_eq_success_iff : p.round d s = .success v t ↔ p.Pair d s v t := by
  constructor
  · intro h
    cases d with
    | none => exact .bare h
    | some q =>
      obtain ⟨w, u, hq, hp⟩ := Reply.bind_eq_success.1 h
      exact .delimited hq hp
  · intro h
    cases h with
    | bare hp => exact hp
    | delimited hq hp => exact Reply.bind_eq_success.2 ⟨_, _, hq, hp⟩

/-- The rounds of a repetition are its pairs. -/
theorem rounds_iff : (p.round d).Rounds s vs t ↔ p.Pairs d s vs t ∧ p.PairsEnd d t := by
  constructor
  · intro h
    induction h with
    | @fails s u e hround =>
      refine ⟨.nil s, ?_⟩
      cases d with
      | none => exact .bareElement hround
      | some q =>
        -- The round fails in the delimiter, or in the element behind it.
        simp only [round] at hround
        cases hq : q s with
        | success w m =>
          rw [hq] at hround
          exact .element hq hround
        | failure f m => exact .delimiter hq
        | fault r => simp [hq, Reply.bind] at hround
        | unfinished => simp [hq, Reply.bind] at hround
    | stays hround hle => exact ⟨.nil _, .stays (round_eq_success_iff.1 hround) hle⟩
    | round hround hlt _ ih => exact ⟨.cons (round_eq_success_iff.1 hround) hlt ih.1, ih.2⟩
  · rintro ⟨hpairs, hend⟩
    induction hpairs with
    | nil s =>
      cases hend with
      | @delimiter q _ u e hq =>
        have hround : p.round (some q) s = .failure e u := by simp [round, hq, Reply.bind]
        exact .fails hround
      | bareElement hp => exact .fails hp
      | @element q _ u w b e hq hp =>
        have hround : p.round (some q) s = .failure e w := by simp [round, hq, Reply.bind, hp]
        exact .fails hround
      | stays hpair hle => exact .stays (round_eq_success_iff.2 hpair) hle
    | cons hpair hlt _ ih => exact .round (round_eq_success_iff.2 hpair) hlt (ih hend)

theorem Pair.precedes (hp : p.Advances) (hd : ∀ q ∈ d, q.Advances) (h : p.Pair d s v t) :
    s.Precedes t := by
  cases h with
  | bare hv => exact hp hv
  | delimited hw hv => exact (hd _ rfl hw).trans (hp hv)

theorem Pairs.precedes (hp : p.Advances) (hd : ∀ q ∈ d, q.Advances) (h : p.Pairs d s vs t) :
    s.Precedes t := by
  induction h with
  | nil s => exact .refl s
  | cons hpair _ _ ih => exact (hpair.precedes hp hd).trans ih

/-- Each pair gets further by a byte at least. -/
theorem Pairs.consumed_add_length_le (h : p.Pairs d s vs t) :
    s.consumed + vs.length ≤ t.consumed := by
  induction h with
  | nil s => exact Nat.le_refl _
  | cons _ hlt _ ih =>
    rw [List.length_cons]
    omega

/-! ## The loop -/

/-- An attempt at a pair from `s` answers: the delimiter, if there is one, and behind it the
element. -/
def PairAnswers (p : Parser α) : Option (Parser β) → State → Prop
  | none, s => p.Answers s
  | some q, s => q.Answers s ∧ ∀ w u, q s = .success w u → p.Answers u

/-- A loop whose rounds answer wherever it comes to succeeds. -/
theorem exists_advancing (h : ∀ vs t, p.Pairs d s vs t → (p.round d).Answers t)
    (values : List α) : ∃ ws t, (p.round d).advancing values s = .success ws t := by
  fun_induction Parser.advancing (p.round d) values s with
  | case1 values s v u hs hlt ih =>
    exact ih fun vs t hpairs => h (v :: vs) t (.cons (round_eq_success_iff.1 hs) hlt hpairs)
  | case2 values s v u hs hle => exact ⟨_, _, rfl⟩
  | case3 values s e u hs => exact ⟨_, _, rfl⟩
  | case4 values s r hs => rcases h [] s (.nil s) with ⟨_, _, h⟩ | ⟨_, _, h⟩ <;> simp [hs] at h
  | case5 values s hs => rcases h [] s (.nil s) with ⟨_, _, h⟩ | ⟨_, _, h⟩ <;> simp [hs] at h

theorem PairAnswers.round (h : p.PairAnswers d s) : (p.round d).Answers s := by
  cases d with
  | none => exact h
  | some q =>
    obtain ⟨hd, hp⟩ := h
    rcases hd with ⟨w, u, hq⟩ | ⟨e, u, hq⟩
    · rcases hp w u hq with ⟨v, t, h⟩ | ⟨e, t, h⟩
      · exact .inl ⟨v, t, by simp [round, hq, Reply.bind, h]⟩
      · exact .inr ⟨e, t, by simp [round, hq, Reply.bind, h]⟩
    · exact .inr ⟨e, u, by simp [round, hq, Reply.bind]⟩

theorem delimited_of_failure {e : Failure} (hp : p s = .failure e u) (atLeastOne : Bool) :
    p.delimited atLeastOne d s = if atLeastOne then .failure (e.withKind .quantity) s
      else .success [] s := by
  simp only [delimited, hp]

theorem delimited_of_success (hp : p s = .success v u) (atLeastOne : Bool) :
    p.delimited atLeastOne d s = (p.round d).advancing [v] u := by
  simp only [delimited, hp]

/-- Behind a first element come the pairs. -/
theorem delimited_eq_success_iff_pairs (hp : p s = .success v u) (atLeastOne : Bool) :
    p.delimited atLeastOne d s = .success ws t ↔
      ∃ vs, ws = v :: vs ∧ p.Pairs d u vs t ∧ p.PairsEnd d t := by
  rw [delimited_of_success hp, advancing_eq_success_iff]
  simp only [rounds_iff, List.reverse_singleton, List.singleton_append]
  constructor
  · rintro ⟨vs, hpairs, rfl⟩
    exact ⟨vs, rfl, hpairs⟩
  · rintro ⟨vs, rfl, hpairs⟩
    exact ⟨vs, hpairs, rfl⟩

theorem exists_delimited (hfirst : p s = .success v u)
    (h : ∀ vs t, p.Pairs d u vs t → p.PairAnswers d t) (atLeastOne : Bool) :
    ∃ vs t, p.delimited atLeastOne d s = .success (v :: vs) t := by
  obtain ⟨ws, t, hrun⟩ := exists_advancing (fun vs t hpairs => (h vs t hpairs).round) [v]
  rw [← delimited_of_success hfirst atLeastOne] at hrun
  obtain ⟨vs, rfl, -⟩ := (delimited_eq_success_iff_pairs hfirst atLeastOne).1 hrun
  exact ⟨vs, t, hrun⟩

/-- A success has no values and has read nothing, or it has a first element and pairs behind it. -/
theorem nil_or_pairs_of_delimited {atLeastOne : Bool}
    (h : p.delimited atLeastOne d s = .success ws t) :
    (ws = [] ∧ t = s) ∨
      ∃ v u vs, p s = .success v u ∧ ws = v :: vs ∧ p.Pairs d u vs t ∧ p.PairsEnd d t := by
  cases hfirst : p s with
  | success v u =>
    obtain ⟨vs, hws, hpairs⟩ := (delimited_eq_success_iff_pairs hfirst atLeastOne).1 h
    exact .inr ⟨v, u, vs, rfl, hws, hpairs⟩
  | failure e u =>
    rw [delimited_of_failure hfirst] at h
    cases atLeastOne with
    | true => cases h
    | false =>
      cases h
      exact .inl ⟨rfl, rfl⟩
  | fault r => simp [delimited, hfirst] at h
  | unfinished => simp [delimited, hfirst] at h

/-- Only the first element may have read nothing. -/
theorem length_le_of_delimited (hp : p.Advances) {atLeastOne : Bool}
    (h : p.delimited atLeastOne d s = .success ws t) :
    ws.length ≤ 1 + (t.consumed - s.consumed) := by
  rcases nil_or_pairs_of_delimited h with ⟨rfl, -⟩ | ⟨v, u, vs, hfirst, rfl, hpairs, -⟩
  · exact Nat.zero_le _
  · have hle := (hp hfirst).consumed_le
    have hrest := hpairs.consumed_add_length_le
    rw [List.length_cons]
    omega

/-- The value of a delimiter does not matter. -/
theorem round_value (p : Parser α) (w : γ) (d : Option (Parser β)) :
    p.round (d.map (·.value w)) = p.round d := by
  cases d with
  | none => rfl
  | some q =>
    funext s
    show ((q s).map fun _ => w).bind (fun _ t => p t) = (q s).bind fun _ t => p t
    cases q s <;> rfl

theorem delimited_value (p : Parser α) (atLeastOne : Bool) (w : γ) (d : Option (Parser β)) :
    p.delimited atLeastOne (d.map (·.value w)) = p.delimited atLeastOne d := by
  funext s
  unfold delimited
  rw [round_value]

/-- A repetition in a grammar is the one of its element, with the same settings. -/
theorem parser_delimited_ofSettings (rules : String → Parser Value) (g : Grammar)
    (atLeastOne : Bool) (settings : List (Delimiter.Setting Grammar)) :
    (g.delimited atLeastOne ((Delimiter.ofSettings settings).resolve Grammar.literal)).parser
        rules =
      ((g.parser rules).delimited atLeastOne ((Delimiter.ofSettings (settings.map
        (.map fun h => (h.parser rules).value ()))).resolve
          fun text => (literal text).value ())).map .list := by
  have htext : ∀ text,
      ((Grammar.literal text).parser rules).value () = (literal text).value () := by
    intro text
    funext s
    show ((literal text s).map Value.text).map (fun _ => ()) = (literal text s).map fun _ => ()
    cases literal text s <;> rfl
  rw [Delimiter.resolve_ofSettings, Delimiter.resolve_ofSettings]
  have hinForce := Delimiter.inForce_map (fun h : Grammar => (h.parser rules).value ())
    Grammar.literal settings
  simp only [htext] at hinForce
  rw [← hinForce]
  cases Delimiter.inForce Grammar.literal settings with
  | none => rfl
  | some h =>
    have hvalue := delimited_value (g.parser rules) atLeastOne () (some (h.parser rules))
    rw [Option.map_some] at hvalue ⊢
    rw [hvalue]
    rfl

/-- **Delimited repetition.** Without a first element, `oneOrMore` fails at its start with the
failure of the element as one of quantity, and `zeroOrMore` succeeds there with no values. Behind a
first element both are the same: they succeed with its value and those of the pairs in a row that
get further, exactly where there is no further such pair. If the delimiter and the element answer
wherever these pairs lead to, there is such a success. If the element advances, there are at most as
many values as bytes have been read, and one. The delimiter in force is the last parser among the
settings, or else the last text. Repetitions in grammars are these ones of their elements. -/
theorem delimited_exact (p : Parser α) (settings : List (Delimiter.Setting (Parser Unit)))
    (s : State) :
    let d := Delimiter.inForce (fun text => (literal text).value ()) settings
    let one := p.oneOrMore (.ofSettings settings)
    let any := p.zeroOrMore (.ofSettings settings)
    (∀ e u, p s = .failure e u →
      one s = .failure ⟨e.expected, e.position, .quantity⟩ s ∧ any s = .success [] s) ∧
    (∀ v u, p s = .success v u → any s = one s ∧
      (∀ ws t, one s = .success ws t ↔
        ∃ vs, ws = v :: vs ∧ p.Pairs d u vs t ∧ p.PairsEnd d t) ∧
      ((∀ vs t, p.Pairs d u vs t → p.PairAnswers d t) →
        ∃ vs t, one s = .success (v :: vs) t)) ∧
    (p.Advances → ∀ ws t, one s = .success ws t ∨ any s = .success ws t →
      ws.length ≤ 1 + (t.consumed - s.consumed)) ∧
    ∀ (rules : String → Parser Value) (g : Grammar) (steps : List (Delimiter.Setting Grammar)),
      let parsers := steps.map (.map fun h => (h.parser rules).value ())
      (g.oneOrMore (.ofSettings steps)).parser rules =
        ((g.parser rules).oneOrMore (.ofSettings parsers)).map .list ∧
      (g.zeroOrMore (.ofSettings steps)).parser rules =
        ((g.parser rules).zeroOrMore (.ofSettings parsers)).map .list := by
  intro d one any
  have hone : one = p.delimited true d := by
    simp only [one, oneOrMore, Delimiter.resolve_ofSettings, d]
  have hany : any = p.delimited false d := by
    simp only [any, zeroOrMore, Delimiter.resolve_ofSettings, d]
  rw [hone, hany]
  refine ⟨fun e u hp => ?_, fun v u hp => ⟨?_, fun ws t => ?_, fun hanswers => ?_⟩,
    fun hadv ws t hrun => ?_, fun rules g steps => ?_⟩
  · rw [delimited_of_failure hp, delimited_of_failure hp]
    exact ⟨rfl, rfl⟩
  · rw [delimited_of_success hp, delimited_of_success hp]
  · exact delimited_eq_success_iff_pairs hp true
  · exact exists_delimited hp hanswers true
  · rcases hrun with hrun | hrun
    · exact length_le_of_delimited hadv hrun
    · exact length_le_of_delimited hadv hrun
  · exact ⟨parser_delimited_ofSettings rules g true steps,
      parser_delimited_ofSettings rules g false steps⟩

/-- Elements that may be empty, with a delimiter that has been set before a text. The second pair
gets further by its delimiter only, and the comma is left over. With elements that are not empty a
repetition answers from any state with room for the text. -/
theorem delimited_exact_semicolons :
    let s := State.start [';', 'b', ';', ',']
    let t : State := ⟨[','], 3, by decide⟩
    let p := (literal "b").optional
    let settings := [.parser ((literal ";").value ()), .text ","]
    let d := some ((literal ";").value ())
    p.zeroOrMore (.ofSettings settings) s = .success [none, some "b", none] t ∧
    p.Pairs d s [some "b", none] t ∧ p.PairsEnd d t ∧ 3 ≤ 1 + (t.consumed - s.consumed) ∧
    (literal "b").oneOrMore (.ofSettings settings) s = .failure ⟨"b", 0, .quantity⟩ s ∧
    ∃ vs u, (literal "b").oneOrMore (.ofSettings settings) ⟨['b', ';', ','], 1, by decide⟩ =
      .success ("b" :: vs) u := by
  intro s t p settings d
  have hfirst : p s = .success none s := rfl
  have hchain : p.Pairs d s [some "b", none] t :=
    .cons (.delimited rfl rfl) (by decide) (.cons (.delimited rfl rfl) (by decide) (.nil t))
  have hend : p.PairsEnd d t := .delimiter rfl
  obtain ⟨-, hpairs, hbound, -⟩ := delimited_exact p settings s
  obtain ⟨hsame, hexact, -⟩ := hpairs none s hfirst
  have hrun : p.oneOrMore (.ofSettings settings) s = .success [none, some "b", none] t :=
    (hexact _ _).2 ⟨_, rfl, hchain, hend⟩
  refine ⟨hsame.trans hrun, hchain, hend, hbound (advances_literal "b").optional _ _ (.inl hrun),
    ((delimited_exact (literal "b") settings s).1 ⟨"b", 0, .structural⟩ s rfl).1, ?_⟩
  let start : State := ⟨['b', ';', ','], 1, by decide⟩
  let after : State := ⟨[';', ','], 2, by decide⟩
  have hfits : after.Fits := by decide
  have hd : ∀ q ∈ d, q.Advances := by
    intro q hq
    obtain rfl := Option.some.inj hq
    exact (advances_literal ";").map _
  obtain ⟨-, -, htotal⟩ := (delimited_exact (literal "b") settings start).2.1 "b" after rfl
  refine htotal fun vs u hpairs => ?_
  have hu : u.Fits := hfits.of_precedes (hpairs.precedes (advances_literal "b") hd)
  refine ⟨(answers_literal hu ";").map _, fun w u' hw => ?_⟩
  exact answers_literal (hu.of_precedes ((advances_literal ";").map _ hw)) "b"

end Descent.Parser
