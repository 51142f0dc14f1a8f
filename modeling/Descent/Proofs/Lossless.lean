import Descent.Proofs.Rounds
import Descent.Proofs.Whole

/-!
# Values that keep the text

A grammar of texts, patterns, sequences, choices and repetitions throws nothing away: the texts in
its value, joined from left to right, are the text that it has read (`Grammar.lossless`).

A parser *spells* what it reads if this holds of every success, for given letters of its values.
Every combinator that keeps all values of its parts keeps this. In a loop, the values that are added
from some state on spell the text from there to the state after the last of them
(`Parser.reads_of_collect`, `Parser.Spells.reads_of_rounds`): an attempt that fails, or a match of
the empty text that is dropped, leaves both the values and the state alone.
-/

namespace Descent

/-! ## The texts in a value -/

namespace Value

mutual

/-- The texts in a value, in order. -/
def texts : Value → List String
  | null => []
  | bool _ => []
  | int _ => []
  | float _ => []
  | text s => [s]
  | list items => textsOfItems items
  | present v => texts v
  | object members => textsOfMembers members

def textsOfItems : List Value → List String
  | [] => []
  | v :: vs => texts v ++ textsOfItems vs

def textsOfMembers : List (String × Value) → List String
  | [] => []
  | (name, v) :: ms => name :: texts v ++ textsOfMembers ms

end

/-- All texts in a value put together. -/
def letters (v : Value) : List Char := v.texts.flatMap String.toList

@[simp] theorem letters_null : null.letters = [] := rfl

@[simp] theorem letters_text (s : String) : (text s).letters = s.toList := by
  simp [letters, texts]

@[simp] theorem letters_present (v : Value) : (present v).letters = v.letters := by
  simp [letters, texts]

@[simp] theorem letters_list (items : List Value) :
    (list items).letters = items.flatMap letters := by
  induction items with
  | nil => rfl
  | cons v vs ih =>
    simp only [letters, texts, textsOfItems] at ih ⊢
    simp [ih, letters]

@[simp] theorem letters_pair (v : Value × Value) :
    (pair v).letters = v.1.letters ++ v.2.letters := by
  simp [pair]

@[simp] theorem letters_ofOption (v : Option Value) :
    (ofOption v).letters = v.elim [] letters := by
  cases v <;> simp [ofOption]

end Value

/-! ## Parsers that spell what they read -/

namespace Parser

variable {α β : Type} {p : Parser α} {letters : α → List Char} {s t : State}

/-- A success has read exactly the letters of its value. -/
def Spells (letters : α → List Char) (p : Parser α) : Prop :=
  ∀ ⦃s v t⦄, p s = .success v t → s.Reads (letters v) t

theorem spells_literal (text : String) : (literal text).Spells String.toList := by
  intro s v t h
  obtain ⟨hreads, rfl⟩ := literal_eq_success_iff.1 h
  exact hreads

theorem spells_matching (e : Pattern) (label : String) : (matching e label).Spells String.toList :=
  fun _ _ _ h => (matching_eq_success_iff.1 h).1

theorem spells_eof : eof.Spells String.toList := by
  intro s v t h
  obtain ⟨-, rfl, rfl⟩ := eof_eq_success_iff.1 h
  exact .refl _

theorem spells_fail (label : String) : (fail label : Parser α).Spells letters := nofun

theorem Spells.map (hp : p.Spells letters) {f : α → β} {letters' : β → List Char}
    (hf : ∀ v, letters' (f v) = letters v) : (p.map f).Spells letters' := by
  intro s w t h
  obtain ⟨v, hv, rfl⟩ := map_eq_success.1 h
  rw [hf]
  exact hp hv

theorem Spells.desc (hp : p.Spells letters) (label : String) : (p.desc label).Spells letters :=
  fun _ _ _ h => hp (desc_eq_success.1 h)

theorem Spells.product {q : Parser β} {letters' : β → List Char} (hp : p.Spells letters)
    (hq : q.Spells letters') :
    (p.product q).Spells fun v => letters v.1 ++ letters' v.2 := by
  intro s v u h
  obtain ⟨t, h₁, h₂⟩ := product_eq_success.1 h
  exact (hp h₁).trans (hq h₂)

theorem spells_chain {ps : List (Parser α)} (hps : ∀ p ∈ ps, p.Spells letters) :
    (chain ps).Spells (·.flatMap letters) := by
  induction ps with
  | nil =>
    intro s vs t h
    cases h
    exact .refl _
  | cons p ps ih =>
    intro s vs u h
    obtain ⟨v, t, ws, hp, hrest, rfl⟩ := chain_cons_eq_success.1 h
    have htail := ih (fun q hq => hps q (List.mem_cons_of_mem _ hq)) hrest
    simpa using (hps p List.mem_cons_self hp).trans htail

theorem spells_sequence {ps : List (Parser α)} (hps : ∀ p ∈ ps, p.Spells letters) :
    (sequence ps).Spells (·.flatMap letters) :=
  fun _ _ _ h => spells_chain hps (sequence_eq_success.1 h)

theorem spells_alternatives {ps : List (Parser α)} (hps : ∀ p ∈ ps, p.Spells letters) :
    (alternatives ps).Spells letters := by
  intro s v t h
  obtain ⟨p, hp, hs⟩ := alternatives_eq_success h
  exact hps p hp hs

theorem Spells.optional (hp : p.Spells letters) : p.optional.Spells (·.elim [] letters) := by
  intro s v t h
  rcases optional_eq_success_iff.1 h with ⟨w, hw, rfl⟩ | ⟨-, rfl, rfl⟩
  · exact hp hw
  · exact .refl _

/-! ## Loops -/

/-- The values that a counted loop adds spell the text from the state it has come to. -/
theorem Spells.reads_of_collect (hp : p.Spells letters) {least : Nat} {endless : Bool}
    {start : State} {rounds : Nat} {values vs : List α}
    (h : p.collect least endless start rounds values s = .success vs t) :
    ∃ ws, vs = values.reverse ++ ws ∧ s.Reads (ws.flatMap letters) t := by
  induction rounds generalizing values s with
  | zero =>
    rw [collect] at h
    split at h
    · cases h
    · cases h
      exact ⟨[], by simp, .refl _⟩
  | succ rounds ih =>
    rw [collect] at h
    cases hs : p s with
    | success v u =>
      simp only [hs] at h
      split at h
      · -- The match of the empty text is dropped together with its state.
        cases h
        exact ⟨[], by simp, .refl _⟩
      · obtain ⟨ws, rfl, hreads⟩ := ih h
        exact ⟨v :: ws, by simp, by simpa using (hp hs).trans hreads⟩
    | failure e u =>
      simp only [hs] at h
      split at h
      · cases h
      · cases h
        exact ⟨[], by simp, .refl _⟩
    | fault r => simp [hs] at h
    | unfinished => simp [hs] at h

theorem Spells.times (hp : p.Spells letters) (least most : Nat) :
    (p.times least most).Spells (·.flatMap letters) := by
  intro s vs t h
  obtain ⟨ws, rfl, hreads⟩ := hp.reads_of_collect h
  exact hreads

/-- The values of further rounds spell the text that they get past. -/
theorem Spells.reads_of_rounds (hp : p.Spells letters) {vs : List α} (h : p.Rounds s vs t) :
    s.Reads (vs.flatMap letters) t := by
  induction h with
  | fails _ => exact .refl _
  | stays _ _ => exact .refl _
  | round hs _ _ ih => simpa using (hp hs).trans ih

/-- Without delimiters, all that a repetition reads is its elements. -/
theorem Spells.delimited (hp : p.Spells letters) (atLeastOne : Bool) :
    (p.delimited atLeastOne (none : Option (Parser β))).Spells (·.flatMap letters) := by
  intro s vs t h
  rw [Parser.delimited] at h
  cases hs : p s with
  | success v u =>
    simp only [hs] at h
    obtain ⟨ws, hrounds, rfl⟩ := advancing_eq_success_iff.1 h
    simpa using (hp hs).trans (hp.reads_of_rounds hrounds)
  | failure e u =>
    simp only [hs] at h
    split at h
    · cases h
    · cases h
      exact .refl _
  | fault r => simp [hs] at h
  | unfinished => simp [hs] at h

end Parser

/-! ## Grammars that keep the text -/

namespace Grammar

/-- The grammar is built from texts, patterns, lexers of text and the forms that keep all values of
their parts. A repetition has no delimiters. -/
inductive Textual : Grammar → Prop
  | literal (text) : Textual (.literal text)
  | pattern (p label) : Textual (.pattern p label)
  | eof : Textual .eof
  | whitespace : Textual (.lexeme .whitespace)
  | digits : Textual (.lexeme .digits)
  | word : Textual (.lexeme .word)
  | fail (label) : Textual (.fail label)
  | rule (name) : Textual (.rule name)
  | product {first second} : Textual first → Textual second → Textual (.product first second)
  | sequence {items} : (∀ g ∈ items, Textual g) → Textual (.sequence items)
  | alternatives {items} : (∀ g ∈ items, Textual g) → Textual (.alternatives items)
  | desc {of} (label) : Textual of → Textual (.desc of label)
  | times {of} (least most) : Textual of → Textual (.times of least most)
  | optional {of} : Textual of → Textual (.optional of)
  | delimited {of} (atLeastOne) : Textual of → Textual (.delimited of atLeastOne none)

variable {rules : Rules} {g : Grammar} {s t : State} {v : Value}

/-- A grammar that keeps the text spells what it reads, if the rules do. -/
theorem Textual.spells (hg : g.Textual) {parsers : String → Parser Value}
    (hrules : ∀ name, (parsers name).Spells Value.letters) :
    (g.parser parsers).Spells Value.letters := by
  induction hg with
  | literal text => exact (Parser.spells_literal text).map Value.letters_text
  | pattern p label => exact (Parser.spells_matching p label).map Value.letters_text
  | eof => exact Parser.spells_eof.map Value.letters_text
  | whitespace => exact (Parser.spells_matching _ _).map Value.letters_text
  | digits => exact (Parser.spells_matching _ _).map Value.letters_text
  | word => exact (Parser.spells_matching _ _).map Value.letters_text
  | fail label => exact Parser.spells_fail label
  | rule name => exact hrules name
  | product _ _ ih ih' => exact (ih.product ih').map Value.letters_pair
  | sequence _ ih =>
    rw [parser_sequence]
    exact (Parser.spells_sequence (by simpa using ih)).map Value.letters_list
  | alternatives _ ih =>
    rw [parser_alternatives]
    exact Parser.spells_alternatives (by simpa using ih)
  | desc label _ ih => exact ih.desc label
  | times least most _ ih => exact (ih.times least most).map Value.letters_list
  | optional _ ih => exact ih.optional.map Value.letters_ofOption
  | delimited atLeastOne _ ih => exact (ih.delimited atLeastOne).map Value.letters_list

theorem spells_unfold (hrules : ∀ name, (rules.body name).Textual) (depth : Nat) (name : String) :
    (rules.unfold depth name).Spells Value.letters := by
  induction depth generalizing name with
  | zero => exact nofun
  | succ depth ih => exact (hrules name).spells ih

/-- **Values keep the text.** Let a grammar and its rules be built from texts, patterns and lexers
of text by forms that keep all values of their parts, with repetitions that have no delimiters. If a
run ends with a success, it has read exactly the texts in its value, put together in order. So the
texts in the value of a whole text make up this text. -/
theorem lossless (hrules : ∀ name, (rules.body name).Textual) (hg : g.Textual) :
    (∀ s v t, g.Ends rules s (.success v t) →
      s.remaining = (String.join v.texts).toList ++ t.remaining ∧
        t.consumed = s.consumed + utf8Length (String.join v.texts).toList) ∧
    ∀ text v, (g.run rules).parse text = .ok v → (String.join v.texts).toList = text := by
  have hruns : ∀ s v t, g.Ends rules s (.success v t) →
      s.Reads (String.join v.texts).toList t := by
    intro s v t h
    obtain ⟨-, depth, hrun⟩ := h
    rw [String.toList_join]
    exact hg.spells (spells_unfold hrules depth) hrun
  refine ⟨hruns, fun text v h => ?_⟩
  obtain ⟨t, hrun, hend⟩ := Parser.parse_eq_ok_iff.1 h
  have hreads := hruns _ _ _ (hrun ▸ ends_run (by simp [hrun]))
  simpa [State.start, hend] using hreads.1.symm

/-- Nested brackets, of which the last pair is not closed, and then any number of letters that are
optional themselves: the loops give back half a pair, and a match of the empty text. -/
theorem lossless_brackets :
    let rules : Rules :=
      ⟨[("nest", .sequence [.literal "(", .optional (.rule "nest"), .literal ")"])]⟩
    let g : Grammar := .sequence [.times (.rule "nest") 0 maxOffset, .literal "(",
      .times (.optional (.literal "é")) 0 maxOffset]
    let s := State.start ['(', '(', ')', ')', '(', 'é', 'é', '!']
    ∃ v t, g.Ends rules s (.success v t) ∧
      v.texts = ["(", "(", ")", ")", "(", "é", "é"] ∧ t.remaining = ['!'] ∧
      s.remaining = (String.join v.texts).toList ++ t.remaining ∧
      t.consumed = s.consumed + utf8Length (String.join v.texts).toList := by
  intro rules g s
  have hrules : ∀ name, (rules.body name).Textual := by
    refine Rules.body_induction .fail fun e he => ?_
    obtain rfl := List.mem_singleton.1 he
    refine .sequence fun h hh => ?_
    simp only [List.mem_cons, List.not_mem_nil, or_false] at hh
    rcases hh with rfl | rfl | rfl
    · exact .literal _
    · exact .optional (.rule _)
    · exact .literal _
  have hg : g.Textual := by
    refine .sequence fun h hh => ?_
    simp only [List.mem_cons, List.not_mem_nil, or_false] at hh
    rcases hh with rfl | rfl | rfl
    · exact .times _ _ (.rule _)
    · exact .literal _
    · exact .times _ _ (.optional (.literal _))
  have hend : ∃ v t, g.parser (rules.unfold 3) s = .success v t ∧
      v.texts = ["(", "(", ")", ")", "(", "é", "é"] ∧ t.remaining = ['!'] := ⟨_, _, rfl, rfl, rfl⟩
  obtain ⟨v, t, hrun, htexts, hrest⟩ := hend
  have hg' : g.Ends rules s (.success v t) := ⟨nofun, 3, hrun⟩
  exact ⟨v, t, hg', htexts, hrest, (lossless hrules hg).1 s v t hg'⟩

end Grammar

end Descent
