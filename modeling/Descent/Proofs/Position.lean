import Descent.Proofs.Depth
import Descent.Report

/-!
# Where failures point

A failure carries the offset at which its parser gave up. Where nothing is written by hand, this is
the offset of a state that the run came to, so it lies within the text, between two characters: the
failures that are passed on, relabelled or chosen among keep it. A report then shows the character
that starts there. Neither the end of the text nor the inside of a character makes it point
elsewhere, and only a failure at the very end points at nothing.

Main statement: `Grammar.failures_point`.
-/

namespace Descent

/-! ## Spans -/

/-- The bytes of the first character, and none if the text is empty. -/
def leadWidth : List Char → Nat
  | [] => 0
  | c :: _ => c.utf8Size

theorem leadWidth_eq_zero {text : List Char} : leadWidth text = 0 ↔ text = [] := by
  cases text with
  | nil => simp [leadWidth]
  | cons c text =>
    have := c.utf8Size_pos
    simp only [leadWidth, reduceCtorEq, iff_false]
    omega

/-- At an offset between two characters the span begins there and covers the second one. -/
theorem Span.around_append (front rest : List Char) (offset : Nat) :
    around (offset + utf8Length front) offset (front ++ rest) =
      ⟨offset + utf8Length front, leadWidth rest⟩ := by
  induction front generalizing offset with
  | nil =>
    cases rest with
    | nil => rfl
    | cons c rest =>
      have := c.utf8Size_pos
      simp [around, leadWidth]
      omega
  | cons c front ih =>
    rw [List.cons_append, around, utf8Length_cons, if_neg (by omega), ← Nat.add_assoc]
    exact ih (offset + c.utf8Size)

theorem Report.located_append {e : Failure} {front rest : List Char}
    (he : e.position = utf8Length front) (name : String) :
    located e name (front ++ rest) =
      .parse e name (front ++ rest) ⟨e.position, leadWidth rest⟩ := by
  have h := Span.around_append front rest 0
  rw [Nat.zero_add, ← he] at h
  rw [located, h]

/-! ## Failures of a run -/

/-- All states come after `s`, and failures report the offset of such a state. -/
def Invariant.pointing (s : State) : Invariant where
  state := s.Precedes
  failure e := (∃ t, s.Precedes t ∧ e.position = t.consumed) ∧ e.kind ≠ .trailingInput
  fault r := r = .offsetOverflow ∧ maxOffset < s.consumed + utf8Length s.remaining

theorem Invariant.lawful_pointing (s : State) : (Invariant.pointing s).Lawful where
  advance hs h := hs.trans (.of_advance h)
  overflow hs h := ⟨rfl, hs.total ▸ State.lt_of_advance_eq_overflow h⟩
  here _ _ hs hk := ⟨⟨_, hs, rfl⟩, hk⟩
  relabel _ h := h
  withKind h := ⟨h.1, nofun⟩

namespace Grammar

variable {rules : Rules} {g : Grammar} {s t : State} {e : Failure}

theorem Plain.pointing_keptBy (h : g.Plain rules) (s : State) :
    (Invariant.pointing s).KeptBy rules g where
  lawful := Invariant.lawful_pointing s
  steps p hp := (h.steps p hp).elim
  rulesSteps name p hp := (h.rulesSteps name p hp).elim
  patterns p label hp hbyte := by simp [h.charwise.1 p label hp] at hbyte
  rulesPatterns name p label hp hbyte := by simp [h.charwise.2 name p label hp] at hbyte

/-- A failure reports an offset within the text, between two characters. -/
theorem Plain.position (h : g.Plain rules) (he : g.Ends rules s (.failure e t)) :
    ∃ front rest, s.remaining = front ++ rest ∧ e.position = s.consumed + utf8Length front := by
  obtain ⟨⟨u, ⟨front, hr, hc⟩, hu⟩, -⟩ := (h.pointing_keptBy s).holds (.refl s) he
  exact ⟨front, u.remaining, hr, hu.trans hc⟩

/-- The failure of a whole text points between two characters of it, and before the last one if it
is about trailing input. -/
theorem Plain.position_of_parse (h : g.Plain rules) {text : List Char}
    (he : (g.run rules).parse text = .error e) :
    ∃ front rest, text = front ++ rest ∧ e.position = utf8Length front ∧
      (e.kind = .trailingInput → rest ≠ []) := by
  rw [Parser.parse] at he
  cases hr : g.run rules (State.start text) with
  | success v t =>
    have hend : g.Ends rules (State.start text) (.success v t) := hr ▸ ends_run (by simp [hr])
    obtain ⟨front, htext, hc⟩ := (h.pointing_keptBy _).holds (.refl _) hend
    simp only [hr] at he
    split at he
    · cases he
    · next hleft =>
      cases he
      refine ⟨front, t.remaining, htext, hc.trans (Nat.zero_add _), fun _ hnil => hleft ?_⟩
      rw [State.atEnd, hnil]
      rfl
  | failure e' t =>
    have hend : g.Ends rules (State.start text) (.failure e' t) := hr ▸ ends_run (by simp [hr])
    obtain ⟨front, rest, htext, hposition⟩ := h.position hend
    have hkind : e'.kind ≠ .trailingInput := ((h.pointing_keptBy _).holds (.refl _) hend).2
    simp only [hr] at he
    cases he
    exact ⟨front, rest, htext, hposition.trans (Nat.zero_add _), fun hk => (hkind hk).elim⟩
  | fault r => simp [hr] at he
  | unfinished => simp [hr] at he

/-- A run on a whole text breaks down only if the text does not fit the counter. -/
theorem Plain.fault_of_parse (h : g.Plain rules) {text : List Char} {r : Fault}
    (hr : (g.run rules).parse text = .fault r) :
    r = .offsetOverflow ∧ maxOffset < utf8Length text := by
  have hrun : g.run rules (State.start text) = .fault r := by
    rw [Parser.parse] at hr
    split at hr
    · split at hr <;> cases hr
    · cases hr
    · next hfault =>
      cases hr
      exact hfault
    · cases hr
  have hend : g.Ends rules (State.start text) (.fault r) := hrun ▸ ends_run (by simp [hrun])
  obtain ⟨hreason, hlt⟩ := (h.pointing_keptBy _).holds (.refl _) hend
  exact ⟨hreason, Nat.lt_of_lt_of_eq hlt (Nat.zero_add _)⟩

/-- A run on a whole text is unfinished only if it never ends. -/
theorem Plain.not_ends_of_parse (h : g.Plain rules) {text : List Char}
    (hparse : (g.run rules).parse text = .unfinished) (r : Reply Value) :
    ¬ g.Ends rules (.start text) r := by
  intro hend
  have hrun := run_eq_of_ends (fun name => (h.rulesSteps name).imp nofun) (h.steps.imp nofun) hend
  rw [Parser.parse] at hparse
  rw [hrun] at hparse
  cases r with
  | success v t =>
    simp only at hparse
    split at hparse <;> cases hparse
  | unfinished => exact hend.1 rfl
  | _ => cases hparse

/-- **Where failures point.** In a grammar without anything written by hand, and with patterns that
are matched by characters, every failure of a run points into the text that was left at its start,
between two characters. So a whole text has the same values with and without a report, and a
report shows the failure unchanged, with a span that begins at its position and covers the
character there. It covers nothing exactly at the end of the text, where no trailing input is.
Otherwise the text does not fit the counter, or the run never ends. -/
theorem failures_point (h : g.Plain rules) :
    (∀ s e t, g.Ends rules s (.failure e t) → s.consumed ≤ e.position ∧
      e.position ≤ s.consumed + utf8Length s.remaining ∧
      (cut? (e.position - s.consumed) s.remaining).isSome) ∧
    ∀ name text,
      (∀ v, (g.run rules).parseSource name text = .ok v ↔ (g.run rules).parse text = .ok v) ∧
      match (g.run rules).parse text with
      | .ok v => (g.run rules).parseSource name text = .ok v
      | .error e => ∃ front rest, text = front ++ rest ∧
        (g.run rules).parseSource name text =
          .error (.parse e name text ⟨e.position, leadWidth rest⟩) ∧
        e.position = utf8Length front ∧ (leadWidth rest = 0 ↔ e.position = utf8Length text) ∧
        (e.kind = .trailingInput → 1 ≤ leadWidth rest)
      | .fault r => r = .offsetOverflow ∧ maxOffset < utf8Length text
      | .unfinished => (g.run rules).parseSource name text = .unfinished ∧
        ∀ r, ¬ g.Ends rules (.start text) r := by
  refine ⟨fun s e t he => ?_, fun name text => ⟨fun v => ?_, ?_⟩⟩
  · obtain ⟨front, rest, hr, hposition⟩ := h.position he
    have hcut : e.position - s.consumed = utf8Length front := by omega
    rw [hcut, cut?_eq_some_iff.2 ⟨hr, rfl⟩, hr, utf8Length_append]
    exact ⟨by omega, by omega, rfl⟩
  · rw [Parser.parseSource]
    cases (g.run rules).parse text <;> simp [Outcome.mapError]
  · rw [Parser.parseSource]
    split
    · next hparse => rw [hparse]; rfl
    · next e hparse =>
      obtain ⟨front, rest, rfl, hposition, hleft⟩ := h.position_of_parse hparse
      refine ⟨front, rest, rfl, ?_, hposition, ?_, fun hk => ?_⟩
      · rw [hparse, Outcome.mapError, Report.located_append hposition]
      · rw [leadWidth_eq_zero, ← utf8Length_eq_zero, utf8Length_append]
        omega
      · have hne := mt leadWidth_eq_zero.1 (hleft hk)
        omega
    · next hparse => exact h.fault_of_parse hparse
    · next hparse =>
      rw [hparse]
      exact ⟨rfl, h.not_ends_of_parse hparse⟩

/-- A second character is missing behind the first one, which takes two bytes. -/
theorem failures_point_missing :
    let g : Grammar := .times (.literal "é") 2 3
    let text := ['é', 'x']
    let e : Failure := ⟨"é", 2, .quantity⟩
    g.Ends ⟨[]⟩ (.start text) (.failure e (.start text)) ∧ (cut? (e.position - 0) text).isSome ∧
    ∃ width, (g.run ⟨[]⟩).parseSource "input" text = .error (.parse e "input" text ⟨2, width⟩) ∧
      width ≠ 0 := by
  intro g text e
  have hg : g.Plain ⟨[]⟩ := by
    refine ⟨.of_parts nofun fun h hh => ?_, fun _ => .of_parts nofun nofun,
      .of_parts nofun fun h hh => ?_, fun _ => .of_parts nofun nofun⟩
    all_goals
      obtain rfl : h = .literal "é" := by
        simp only [g] at hh
        cases hh
        rfl
    · exact .of_parts nofun nofun
    · exact .of_parts nofun nofun
  obtain ⟨hruns, hsources⟩ := failures_point hg
  have hend : g.Ends ⟨[]⟩ (.start text) (.failure e (.start text)) := ⟨nofun, 0, rfl⟩
  have hparse : (g.run ⟨[]⟩).parse text = .error e := rfl
  have hsource := (hsources "input" text).2
  rw [hparse] at hsource
  obtain ⟨front, rest, -, hreport, -, hwidth, -⟩ := hsource
  exact ⟨hend, (hruns _ _ _ hend).2.2, leadWidth rest, hreport, mt hwidth.1 (by decide)⟩

end Grammar

end Descent
