import Descent.Proofs.Depth

/-!
# Whole texts

`Parser.parse` asks for a match of a whole text. What it answers can be told from one run of the
grammar, and the run from what it answers (`Reading`): the grammar matches all of the text, or a
proper prefix of it, or it fails.

The kind of a failure tells the last two cases apart. A failure about trailing input is made at the
end of `Parser.parse` and nowhere else: primitives make structural failures, repetitions make them
failures of quantity, and all other forms pass on what they get. And an empty rest means what the
byte counter says, because a success moves past exactly the text that it matched.

Main statement: `Grammar.parse_reads`.
-/

namespace Descent

/-! ## No failure is about trailing input -/

/-- No failure of the parser is about trailing input. -/
def Parser.NeverTrailing (p : Parser Value) : Prop :=
  ∀ ⦃s e t⦄, p s = .failure e t → e.kind ≠ .trailingInput

/-- The failures of a run are not about trailing input. -/
def Invariant.neverTrailing : Invariant where
  state _ := True
  failure e := e.kind ≠ .trailingInput
  fault _ := True

theorem Invariant.lawful_neverTrailing : Invariant.neverTrailing.Lawful where
  advance _ _ := trivial
  overflow _ _ := trivial
  here _ _ _ hkind := hkind
  relabel _ he := he
  withKind _ := nofun

theorem Invariant.keeps_neverTrailing {p : Parser Value} :
    Invariant.neverTrailing.Keeps p ↔ p.NeverTrailing := by
  constructor
  · intro h s e t hp
    have hholds := h s trivial
    rwa [hp] at hholds
  · intro h s _
    cases hp : p s with
    | failure e t => exact h hp
    | _ => trivial

/-- Grammars do not fail with a kind that none of their steps fails with. -/
theorem Grammar.parser_neverTrailing {rules : Rules} {g : Grammar}
    (hrules : rules.Steps Parser.NeverTrailing) (hg : g.Steps Parser.NeverTrailing) (depth : Nat) :
    (g.parser (rules.unfold depth)).NeverTrailing := by
  have hkept : Invariant.neverTrailing.KeptBy rules g :=
    { lawful := Invariant.lawful_neverTrailing
      steps := fun p hp => Invariant.keeps_neverTrailing.2 (hg p hp)
      rulesSteps := fun name p hp => Invariant.keeps_neverTrailing.2 (hrules name p hp)
      patterns := fun _ _ _ _ => trivial
      rulesPatterns := fun _ _ _ _ _ => trivial }
  exact Invariant.keeps_neverTrailing.1 (hkept.keeps depth)

theorem Parser.neverTrailing_anyChar : anyChar.NeverTrailing := by
  intro s e t h
  rw [anyChar] at h
  split at h
  · cases h
    intro hkind
    cases hkind
  · next c _ _ => cases hadv : s.advance c.utf8Size <;> rw [hadv] at h <;> cases h

/-! ## From a run to the answer for a whole text -/

namespace Parser

variable {p : Parser Value} {text : List Char} {t : State} {v : Value} {e : Failure}

theorem parse_of_success (h : p (.start text) = .success v t) :
    p.parse text = if t.atEnd then .ok v else .error (.trailingInput t.consumed) := by
  rw [parse, h]

theorem parse_of_failure (h : p (.start text) = .failure e t) : p.parse text = .error e := by
  rw [parse, h]

/-- A text is accepted if a run matches all of it. -/
theorem parse_eq_ok_iff :
    p.parse text = .ok v ↔ ∃ t, p (.start text) = .success v t ∧ t.remaining = [] := by
  cases hp : p (.start text) with
  | success w t =>
    rw [parse_of_success hp, State.atEnd]
    cases hleft : t.remaining with
    | nil =>
      constructor
      · intro h
        cases h
        exact ⟨t, rfl, hleft⟩
      · rintro ⟨u, h, -⟩
        cases h
        rfl
    | cons c rest =>
      constructor
      · intro h
        cases h
      · rintro ⟨u, h, hend⟩
        cases h
        rw [hleft] at hend
        cases hend
  | _ => simp [parse, hp]

/-- An error is the failure of the run, or the run has left something over. -/
theorem parse_eq_error (h : p.parse text = .error e) :
    (∃ t, p (.start text) = .failure e t) ∨
      ∃ v t, p (.start text) = .success v t ∧ t.atEnd = false ∧ e = .trailingInput t.consumed := by
  cases hp : p (.start text) with
  | success v t =>
    rw [parse_of_success hp] at h
    cases hend : t.atEnd with
    | true => simp [hend] at h
    | false =>
      simp only [hend, Bool.false_eq_true, if_false, Outcome.error.injEq] at h
      exact .inr ⟨v, t, rfl, hend, h.symm⟩
  | failure f t =>
    rw [parse_of_failure hp] at h
    cases h
    exact .inl ⟨t, rfl⟩
  | fault r => simp [parse, hp] at h
  | unfinished => simp [parse, hp] at h

end Parser

/-- From the start of a text, a state that comes later has read as many bytes as its offset says. -/
theorem State.Precedes.of_start {text : List Char} {t : State}
    (h : (State.start text).Precedes t) :
    ∃ front, text = front ++ t.remaining ∧ t.consumed = utf8Length front := by
  obtain ⟨front, htext, hc⟩ := h
  exact ⟨front, htext, by simpa [State.start] using hc⟩

/-! ## Readings -/

/-- How a grammar fares with a whole text. -/
inductive Reading where
  /-- It matches all of the text. -/
  | whole (v : Value)
  /-- It matches a proper prefix, of so many bytes. -/
  | front (bytes : Nat)
  | mismatch (e : Failure)

namespace Reading

/-- The run of the grammar from the start of the text is of this kind. -/
def OfRun (rules : Rules) (g : Grammar) (text : List Char) : Reading → Prop
  | whole v => ∃ t, g.Ends rules (.start text) (.success v t) ∧ t.remaining = []
  | front bytes => bytes < utf8Length text ∧
      ∃ v t passed, g.Ends rules (.start text) (.success v t) ∧ text = passed ++ t.remaining ∧
        utf8Length passed = bytes ∧ t.consumed = bytes
  | mismatch e => e.kind ≠ .trailingInput ∧ ∃ t, g.Ends rules (.start text) (.failure e t)

/-- The answer for the whole text. -/
def answer : Reading → Outcome Failure Value
  | whole v => .ok v
  | front bytes => .error ⟨"end of input", bytes, .trailingInput⟩
  | mismatch e => .error e

/-- The answer tells the readings apart, because failures of a run are not about trailing input. -/
theorem eq_of_answer_eq {rules : Rules} {g : Grammar} {text : List Char} {m n : Reading}
    (hm : m.OfRun rules g text) (hn : n.OfRun rules g text) (h : m.answer = n.answer) : m = n := by
  cases m with
  | whole v =>
    cases n with
    | whole w => simpa [answer] using h
    | _ => simp [answer] at h
  | front k =>
    cases n with
    | front l => simpa [answer] using h
    | whole w => simp [answer] at h
    | mismatch e =>
      simp only [answer, Outcome.error.injEq] at h
      exact (hn.1 (h ▸ rfl)).elim
  | mismatch e =>
    cases n with
    | mismatch f => simpa [answer] using h
    | whole w => simp [answer] at h
    | front k =>
      simp only [answer, Outcome.error.injEq] at h
      exact (hm.1 (h ▸ rfl)).elim

end Reading

namespace Grammar

variable {rules : Rules} {g : Grammar} {text : List Char} {r : Reply Value}

/-- A run that ends without a fault has a reading, and the answer is the one of that reading. -/
theorem Ends.exists_reading
    (hrules : rules.Steps fun p => p.Advances ∧ p.NeverTrailing)
    (hg : g.Steps fun p => p.Advances ∧ p.NeverTrailing)
    (hr : g.Ends rules (.start text) r) (hfault : ∀ reason, r ≠ .fault reason) :
    ∃ m : Reading, m.OfRun rules g text ∧ (g.run rules).parse text = m.answer := by
  have hadvRules : rules.Steps Parser.Advances := hrules.imp fun _ => And.left
  have hadv : g.Steps Parser.Advances := hg.imp fun _ => And.left
  have hrun : g.run rules (.start text) = r := run_eq_of_ends hadvRules hadv hr
  cases r with
  | success v t =>
    have hparse := Parser.parse_of_success hrun
    obtain ⟨passed, htext, hc⟩ := (advances_run hadvRules hadv hrun).of_start
    by_cases hleft : t.remaining = []
    · refine ⟨.whole v, ⟨t, hr, hleft⟩, ?_⟩
      rw [hparse, State.atEnd, hleft]
      rfl
    · have hlen : utf8Length t.remaining ≠ 0 := mt utf8Length_eq_zero.1 hleft
      refine ⟨.front t.consumed, ⟨?_, v, t, passed, hr, htext, hc.symm, rfl⟩, ?_⟩
      · rw [htext, utf8Length_append, hc]
        omega
      · rw [hparse, State.atEnd, List.isEmpty_eq_false_iff.2 hleft]
        rfl
  | failure e t =>
    have hkind : e.kind ≠ .trailingInput := parser_neverTrailing
      (hrules.imp fun _ => And.right) (hg.imp fun _ => And.right) _ hrun
    exact ⟨.mismatch e, ⟨hkind, t, hr⟩, Parser.parse_of_failure hrun⟩
  | fault reason => exact (hfault reason rfl).elim
  | unfinished => exact (hr.1 rfl).elim

/-- **Whole texts.** Let the steps written by hand advance when they succeed, and never fail with
trailing input. If the run of a grammar from the start of a text ends without a fault, the text has
exactly one reading: it is matched as a whole, and the answer is the value; or a proper prefix of
it is matched, and the answer is that the end of input was expected behind it, whatever labels the
grammar has; or the run fails, not with trailing input, and the answer is its failure. So a failure
is about trailing input exactly if the grammar matches a proper prefix of the text. -/
theorem parse_reads (hrules : rules.Steps fun p => p.Advances ∧ p.NeverTrailing)
    (hg : g.Steps fun p => p.Advances ∧ p.NeverTrailing) (text : List Char) :
    ((∃ r, g.Ends rules (.start text) r ∧ ∀ reason, r ≠ .fault reason) →
      ∃! m : Reading, m.OfRun rules g text ∧ (g.run rules).parse text = m.answer) ∧
    ((∃ e, (g.run rules).parse text = .error e ∧ e.kind = .trailingInput) ↔
      ∃ bytes, (Reading.front bytes).OfRun rules g text) := by
  have hadvRules : rules.Steps Parser.Advances := hrules.imp fun _ => And.left
  have hadv : g.Steps Parser.Advances := hg.imp fun _ => And.left
  have hreads : ∀ r, g.Ends rules (.start text) r → (∀ reason, r ≠ .fault reason) →
      ∃ m : Reading, m.OfRun rules g text ∧ (g.run rules).parse text = m.answer :=
    fun r hr hfault => hr.exists_reading hrules hg hfault
  refine ⟨?_, ?_, ?_⟩
  · rintro ⟨r, hr, hfault⟩
    obtain ⟨m, hm, hparse⟩ := hreads r hr hfault
    refine ⟨m, ⟨hm, hparse⟩, ?_⟩
    rintro n ⟨hn, hparse'⟩
    exact Reading.eq_of_answer_eq hn hm (hparse'.symm.trans hparse)
  · rintro ⟨e, hparse, hkind⟩
    have hends : ∃ r, g.Ends rules (.start text) r ∧ ∀ reason, r ≠ .fault reason := by
      rcases Parser.parse_eq_error hparse with ⟨t, hrun⟩ | ⟨v, t, hrun, -⟩
      · exact ⟨.failure e t, (ends_iff_run_eq hadvRules hadv).2 ⟨nofun, hrun⟩, nofun⟩
      · exact ⟨.success v t, (ends_iff_run_eq hadvRules hadv).2 ⟨nofun, hrun⟩, nofun⟩
    obtain ⟨r, hr, hfault⟩ := hends
    obtain ⟨m, hm, hanswer⟩ := hreads r hr hfault
    rw [hparse] at hanswer
    cases m with
    | whole v => cases hanswer
    | front bytes => exact ⟨bytes, hm⟩
    | mismatch f =>
      cases hanswer
      exact (hm.1 hkind).elim
  · rintro ⟨bytes, hlt, v, t, passed, hr, rfl, hlen, -⟩
    have hrun : g.run rules (.start (passed ++ t.remaining)) = .success v t :=
      run_eq_of_ends hadvRules hadv hr
    have hleft : t.remaining ≠ [] := by
      intro hnil
      rw [hnil, List.append_nil, hlen] at hlt
      exact Nat.lt_irrefl _ hlt
    refine ⟨.trailingInput t.consumed, ?_, rfl⟩
    rw [Parser.parse_of_success hrun, State.atEnd, List.isEmpty_eq_false_iff.2 hleft]
    rfl

/-- A labelled pair matches a proper prefix of three characters, and the label does not show. -/
theorem parse_reads_pair :
    let g : Grammar := .desc (.product (.custom .anyChar) (.literal "b")) "a pair"
    let text := ['é', 'b', 'c']
    (∃! m : Reading, m.OfRun ⟨[]⟩ g text ∧ (g.run ⟨[]⟩).parse text = m.answer) ∧
    (Reading.front 3).OfRun ⟨[]⟩ g text ∧
    ∃ e, (g.run ⟨[]⟩).parse text = .error e ∧ e.kind = .trailingInput := by
  intro g text
  have hg : g.Steps fun p => p.Advances ∧ p.NeverTrailing := by
    refine .of_parts nofun fun h hh => ?_
    simp only [g] at hh
    cases hh
    refine .of_parts nofun fun h hh => ?_
    cases hh with
    | productFirst =>
      refine .of_parts (fun p hp => ?_) nofun
      cases hp
      exact ⟨Parser.advances_anyChar, Parser.neverTrailing_anyChar⟩
    | productSecond => exact .of_parts nofun nofun
  have hrules : (⟨[]⟩ : Rules).Steps fun p => p.Advances ∧ p.NeverTrailing :=
    fun _ => .of_parts nofun nofun
  have hend : g.Ends ⟨[]⟩ (.start text)
      (.success (.list [.text "é", .text "b"]) ⟨['c'], 3, by decide⟩) := ⟨nofun, 0, rfl⟩
  have hfront : (Reading.front 3).OfRun ⟨[]⟩ g text :=
    ⟨by decide, _, _, ['é', 'b'], hend, rfl, by decide, rfl⟩
  obtain ⟨hunique, hkind⟩ := parse_reads hrules hg text
  exact ⟨hunique ⟨_, hend, nofun⟩, hfront, hkind.2 ⟨3, hfront⟩⟩

end Grammar

end Descent
