import Descent.Proofs.Forward
import Descent.Proofs.Restore
import Descent.Proofs.Spans

/-!
# Runs do not break down

A run breaks down where an offset falls inside a character, or where the counter passes its bound.
The first needs a pattern that is matched by bytes, because all other offsets are lengths of
prefixes. The second needs a state without room for the text that it has left (`State.Fits`), and
moving forward keeps the room: what the counter gains the text loses.

So nothing breaks down if patterns are matched by characters, the start has room, and steps written
by hand advance and do not break down by themselves. A session starts its next run where the last
one stopped. After a failure this can be a state that a step handed back, and only such a state can
be without room.

Main statement: `Grammar.never_breaks`.
-/

namespace Descent

/-! ## Steps that do not break down -/

/-- The parser advances when it succeeds, and does not break down where the text fits. -/
structure Parser.Sturdy (p : Parser Value) : Prop where
  advances : p.Advances
  fault {s r} : p s = .fault r → ¬ s.Fits

/-- When the parser fails where the text fits, it hands back a state where it fits. -/
def Parser.FailsWithRoom (p : Parser Value) : Prop :=
  ∀ ⦃s e t⦄, p s = .failure e t → s.Fits → t.Fits

namespace State.Fits

variable {s : State} {c : Char} {rest : List Char}

/-- With room for the text, its first character can be read. -/
theorem exists_advance_char (hs : s.Fits) (h : s.remaining = c :: rest) :
    ∃ t, s.advance c.utf8Size = .ok ([c], t) ∧ t.Fits := by
  have hfront : s.remaining = [c] ++ rest := h
  obtain ⟨t, hadv, -⟩ := hs.exists_advance hfront
  have hlength : utf8Length [c] = c.utf8Size := by simp
  rw [hlength] at hadv
  exact ⟨t, hadv, hs.of_precedes (.of_advance hadv)⟩

end State.Fits

namespace Parser

theorem sturdy_anyChar : anyChar.Sturdy where
  advances := advances_anyChar
  fault {s r} h hs := by
    rw [anyChar] at h
    cases hrest : s.remaining with
    | nil => simp [hrest, fail] at h
    | cons c rest =>
      obtain ⟨t, hadv, -⟩ := hs.exists_advance_char hrest
      simp [hrest, hadv, Reply.ofAdvance, Reply.map] at h

theorem sturdy_half : half.Sturdy where
  advances := advances_half
  fault {s r} h hs := by
    rw [half] at h
    cases hrest : s.remaining with
    | nil => simp [hrest] at h
    | cons c rest =>
      obtain ⟨t, hadv, -⟩ := hs.exists_advance_char hrest
      simp [hrest, hadv] at h

theorem failsWithRoom_half : half.FailsWithRoom := by
  intro s e t h hs
  rw [half] at h
  cases hrest : s.remaining with
  | nil =>
    simp only [hrest] at h
    cases h
    exact hs
  | cons c rest =>
    obtain ⟨u, hadv, hu⟩ := hs.exists_advance_char hrest
    simp only [hrest, hadv] at h
    cases h
    exact hu

/-- A step that gives back its start when it fails leaves as much room as there was. -/
theorem Restores.failsWithRoom {p : Parser Value} (hp : p.Restores) : p.FailsWithRoom := by
  intro s e t h hs
  rw [hp h]
  exact hs

end Parser

/-! ## Room for the text -/

/-- All states have room for their text, and nothing breaks down. -/
def Invariant.roomy : Invariant where
  state := State.Fits
  failure _ := True
  fault _ := False

theorem Invariant.lawful_roomy : Invariant.roomy.Lawful where
  advance hs h := hs.of_precedes (.of_advance h)
  overflow hs h := Nat.not_lt.2 hs (State.lt_of_advance_eq_overflow h)
  here _ _ _ _ := trivial
  relabel _ _ := trivial
  withKind _ := trivial

theorem Invariant.roomy_keeps {p : Parser Value} (hp : p.Sturdy) : Invariant.roomy.Keeps p := by
  intro s hs
  cases h : p s with
  | success v t => exact hs.of_precedes (hp.advances h)
  | failure _ _ => trivial
  | fault r => exact hp.fault h hs
  | unfinished => trivial

namespace Grammar

/-- All steps written by hand are sturdy, and all patterns are matched by characters. -/
structure Sturdy (g : Grammar) (rules : Rules) : Prop where
  steps : g.Steps Parser.Sturdy
  rulesSteps : rules.Steps Parser.Sturdy
  charwise : g.Charwise rules

variable {g : Grammar} {rules : Rules} {s t : State}

theorem Sturdy.roomy_keptBy (h : g.Sturdy rules) : Invariant.roomy.KeptBy rules g where
  lawful := Invariant.lawful_roomy
  steps p hp := Invariant.roomy_keeps (h.steps p hp)
  rulesSteps name p hp := Invariant.roomy_keeps (h.rulesSteps name p hp)
  patterns p label hp hbyte := by simp [h.charwise.1 p label hp] at hbyte
  rulesPatterns name p label hp hbyte := by simp [h.charwise.2 name p label hp] at hbyte

/-- At no depth does a run break down. -/
theorem Sturdy.parser_ne_fault (h : g.Sturdy rules) (hs : s.Fits) (depth : Nat) (reason : Fault) :
    g.parser (rules.unfold depth) s ≠ .fault reason := by
  intro hfault
  have hholds := h.roomy_keptBy.keeps depth s hs
  rw [hfault] at hholds
  exact hholds

theorem Sturdy.run_ne_fault (h : g.Sturdy rules) (hs : s.Fits) (reason : Fault) :
    g.run rules s ≠ .fault reason := h.parser_ne_fault hs (rules.depth s) reason

theorem Sturdy.parse_ne_fault (h : g.Sturdy rules) {text : List Char}
    (htext : (State.start text).Fits) (reason : Fault) :
    (g.run rules).parse text ≠ .fault reason := by
  have hrun := h.run_ne_fault htext
  rw [Parser.parse]
  split
  · split <;> simp
  · simp
  · next r hr => exact (hrun r hr).elim
  · simp

end Grammar

namespace Parser

variable {p : Parser Value} {name name' : String} {text source : List Char}

theorem parseSource_eq_fault_iff {reason : Fault} :
    p.parseSource name text = .fault reason ↔ p.parse text = .fault reason := by
  rw [parseSource]
  cases p.parse text <;> simp [Outcome.mapError]

/-- A report that a parser makes has the span that walking back from its position finds. -/
theorem search?_of_parseSource {e : Failure} {span : Span}
    (h : p.parseSource name text = .error (.parse e name' source span)) :
    Span.search? e.position source = some span := by
  rw [parseSource] at h
  cases hparse : p.parse text with
  | error f =>
    rw [hparse] at h
    cases h
    exact Span.search?_eq_around _ _
  | _ => simp [hparse, Outcome.mapError] at h

end Parser

/-! ## Sessions -/

namespace Session

variable {rules : Rules} {s : State} {steps : List Step}

/-- Every reply in a session is that of a run from the state which the steps before led to. -/
theorem exists_of_mem_run {r : Reply Value} (h : .reply r ∈ run rules s steps) :
    ∃ before g rest, steps = before ++ .run g :: rest ∧
      r = g.run rules (stateAfter rules s before) := by
  induction steps generalizing s with
  | nil => simp [run] at h
  | cons step steps ih =>
    cases step with
    | compare t =>
      rw [run] at h
      rcases List.mem_cons.1 h with h | h
      · cases h
      · obtain ⟨before, g, rest, rfl, rfl⟩ := ih h
        exact ⟨.compare t :: before, g, rest, rfl, rfl⟩
    | run g =>
      rw [run] at h
      rcases List.mem_cons.1 h with h | h
      · cases h
        exact ⟨[], g, steps, rfl, rfl⟩
      · obtain ⟨before, g', rest, rfl, rfl⟩ := ih h
        exact ⟨.run g :: before, g', rest, rfl, rfl⟩

/-- A run leaves room for the text, if a step that fails in its place does. -/
theorem fits_after {g : Grammar} (hg : g.Sturdy rules)
    (hfail : ∀ p, g.Wraps rules p → p.FailsWithRoom) (hs : s.Fits) :
    (after s (g.run rules s)).Fits := by
  have hholds := hg.roomy_keptBy.keeps (rules.depth s) s hs
  rw [← Grammar.run] at hholds
  cases hr : g.run rules s with
  | success v t =>
    rw [hr] at hholds
    exact hholds
  | failure e t =>
    have hend : g.Ends rules s (.failure e t) := hr ▸ Grammar.ends_run (by simp [hr])
    rcases hend.state_of_failure with rfl | ⟨p, hp, cause, hcause⟩
    · exact hs
    · exact hfail p hp hcause hs
  | fault r => exact hs
  | unfinished => exact hs

theorem fits_stateAfter (hsteps : ∀ g, .run g ∈ steps → g.Sturdy rules)
    (hfail : ∀ g, .run g ∈ steps → ∀ p, g.Wraps rules p → p.FailsWithRoom) (hs : s.Fits) :
    (stateAfter rules s steps).Fits := by
  induction steps generalizing s with
  | nil => exact hs
  | cons step steps ih =>
    have htail : ∀ g, .run g ∈ steps → g.Sturdy rules :=
      fun g hg => hsteps g (List.mem_cons_of_mem _ hg)
    have htailFail : ∀ g, .run g ∈ steps → ∀ p, g.Wraps rules p → p.FailsWithRoom :=
      fun g hg => hfail g (List.mem_cons_of_mem _ hg)
    cases step with
    | compare t => exact ih htail htailFail hs
    | run g =>
      refine ih htail htailFail ?_
      exact fits_after (hsteps g List.mem_cons_self) (hfail g List.mem_cons_self) hs

end Session

/-- **Nothing breaks down.** Let all patterns be matched by characters, and let the steps written by
hand advance when they succeed and not break down where the text fits. Then no run breaks down from
a state with room for its text, at whatever depth, and all states inside the run have room. On a
text that fits, neither an answer nor a report breaks down, and to find its span by walking back
from the position of the failure works out. In a session, only a run that starts without room
breaks down, and none does so if the first one has room and the steps that fail in place of a whole
grammar hand back states with room; those that go back to their start do. -/
theorem Grammar.never_breaks (rules : Rules) :
    (∀ g : Grammar, g.Sturdy rules →
      (∀ s, s.Fits →
        (∀ depth reason, g.parser (rules.unfold depth) s ≠ .fault reason) ∧
        ∀ t, g.Hands rules s t → t.Fits) ∧
      ∀ name text, (State.start text).Fits → ∀ reason,
        (g.run rules).parse text ≠ .fault reason ∧
        (g.run rules).parseSource name text ≠ .fault reason ∧
        ∀ e name' source span, (g.run rules).parseSource name text =
          .error (.parse e name' source span) → Span.search? e.position source = some span) ∧
    ∀ steps : List Session.Step, (∀ g, .run g ∈ steps → g.Sturdy rules) → ∀ s reason,
      (.reply (.fault reason) ∈ Session.run rules s steps →
        ∃ before g rest, steps = before ++ .run g :: rest ∧
          ¬ (Session.stateAfter rules s before).Fits) ∧
      (s.Fits → (∀ g, .run g ∈ steps → ∀ p, g.Wraps rules p → p.FailsWithRoom) →
        .reply (.fault reason) ∉ Session.run rules s steps) ∧
      (s.Fits → (∀ g, .run g ∈ steps → ∀ p, g.Wraps rules p → p.Restores) →
        .reply (.fault reason) ∉ Session.run rules s steps) := by
  refine ⟨fun g hg => ⟨fun s hs => ⟨hg.parser_ne_fault hs, fun t ht => ?_⟩, ?_⟩, ?_⟩
  · exact hg.roomy_keptBy.state_of_hands hs ht
  · intro name text htext reason
    have hparse := hg.parse_ne_fault htext reason
    exact ⟨hparse, mt Parser.parseSource_eq_fault_iff.1 hparse,
      fun e name' source span h => Parser.search?_of_parseSource h⟩
  · intro steps hsteps s reason
    have hroom : .reply (.fault reason) ∈ Session.run rules s steps →
        ∃ before g rest, steps = before ++ .run g :: rest ∧
          ¬ (Session.stateAfter rules s before).Fits := by
      intro h
      obtain ⟨before, g, rest, rfl, hfault⟩ := Session.exists_of_mem_run h
      have hg := hsteps g (by simp)
      exact ⟨before, g, rest, rfl, fun hfits => hg.run_ne_fault hfits reason hfault.symm⟩
    have hkept : s.Fits → (∀ g, .run g ∈ steps → ∀ p, g.Wraps rules p → p.FailsWithRoom) →
        .reply (.fault reason) ∉ Session.run rules s steps := by
      intro hs hfail h
      obtain ⟨before, g, rest, rfl, hnot⟩ := hroom h
      exact hnot (Session.fits_stateAfter (fun g hg => hsteps g (List.mem_append_left _ hg))
        (fun g hg => hfail g (List.mem_append_left _ hg)) hs)
    exact ⟨hroom, hkept, fun hs hrestores =>
      hkept hs fun g hg p hp => (hrestores g hg p hp).failsWithRoom⟩

/-- With the last offset at the end of the text, a step that fails behind the first character, and
then a run that goes on from there and fails at the end. -/
theorem Grammar.never_breaks_lastOffset :
    let g : Grammar := .product (.custom .anyChar) (.times (.literal "!") 1 maxOffset)
    let s : State := ⟨['é', '!'], maxOffset - 3, by decide⟩
    let steps : List Session.Step := [.run (.custom .half), .run g]
    s.Fits ∧ (∀ depth reason, g.parser ((⟨[]⟩ : Rules).unfold depth) s ≠ .fault reason) ∧
    (∀ reason, .reply (.fault reason) ∉ Session.run ⟨[]⟩ s steps) ∧
    ∃ e span, (g.run ⟨[]⟩).parseSource "input" ['é', 'x'] =
        .error (.parse e "input" ['é', 'x'] span) ∧
      Span.search? e.position ['é', 'x'] = some span ∧ span = ⟨2, 1⟩ := by
  intro g s steps
  have hrules : (⟨[]⟩ : Rules).Steps Parser.Sturdy := fun _ => .of_parts nofun nofun
  have hrulesPatterns : (⟨[]⟩ : Rules).Patterns fun p => p.bytewise = false :=
    fun _ => .of_parts nofun nofun
  have hchar : (Grammar.custom .anyChar).Sturdy ⟨[]⟩ :=
    ⟨.of_parts (fun p hp => by cases hp; exact Parser.sturdy_anyChar) nofun, hrules,
      .of_parts nofun nofun, hrulesPatterns⟩
  have hhalf : (Grammar.custom .half).Sturdy ⟨[]⟩ :=
    ⟨.of_parts (fun p hp => by cases hp; exact Parser.sturdy_half) nofun, hrules,
      .of_parts nofun nofun, hrulesPatterns⟩
  have hparts : ∀ h, PartOf h g → h.Steps Parser.Sturdy ∧
      h.Patterns fun p => p.bytewise = false := by
    intro h hh
    simp only [g] at hh
    cases hh with
    | productFirst => exact ⟨hchar.steps, hchar.charwise.1⟩
    | productSecond =>
      constructor
      · refine .of_parts nofun fun h hh => ?_
        cases hh
        exact .of_parts nofun nofun
      · refine .of_parts nofun fun h hh => ?_
        cases hh
        exact .of_parts nofun nofun
  have hg : g.Sturdy ⟨[]⟩ :=
    ⟨.of_parts nofun fun h hh => (hparts h hh).1, hrules,
      .of_parts nofun fun h hh => (hparts h hh).2, hrulesPatterns⟩
  have hs : s.Fits := by decide
  have hsteps : ∀ h, .run h ∈ steps → h = .custom .half ∨ h = g := by simp [steps]
  obtain ⟨hruns, hsessions⟩ := never_breaks ⟨[]⟩
  obtain ⟨hdepths, hsources⟩ := hruns g hg
  refine ⟨hs, (hdepths s hs).1, fun reason => ?_, ?_⟩
  · refine (hsessions steps (fun h hh => ?_) s reason).2.1 hs fun h hh p hp => ?_
    · rcases hsteps h hh with rfl | rfl
      · exact hhalf
      · exact hg
    · rcases hsteps h hh with rfl | rfl
      · cases hp
        exact Parser.failsWithRoom_half
      · simp only [g] at hp
        cases hp
  · have hsource : (g.run ⟨[]⟩).parseSource "input" ['é', 'x'] =
        .error (.parse ⟨"!", 2, .quantity⟩ "input" ['é', 'x'] ⟨2, 1⟩) := rfl
    exact ⟨_, _, hsource, (hsources "input" _ (by decide) .offsetOverflow).2.2 _ _ _ _ hsource, rfl⟩

end Descent
