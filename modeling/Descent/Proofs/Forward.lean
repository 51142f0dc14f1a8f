import Descent.Proofs.Contract
import Descent.Proofs.Similar
import Descent.Session

/-!
# Success moves forward

A step keeps its part of the contract if a success advances: the new state is the old one moved
past a prefix of what was left. If all steps written by hand do this, so does every grammar that is
built around them, recursive ones included, and so does every state that comes up inside a run.

The invariant is the state itself: all states of a run that starts at `s` come after `s`
(`State.Precedes`), so what is left of the text is a suffix of what was left at `s`, and offset and
length of the rest have the same sum. Failed attempts do not matter, whatever states they hand
back, because no combinator goes on from such a state.

Main statement: `Grammar.advances`, for runs, the parts of runs, and sessions.
-/

namespace Descent

/-! ## Everything comes after the start -/

/-- All states come after `s`. -/
def Invariant.after (s : State) : Invariant where
  state := s.Precedes
  failure _ := True
  fault _ := True

theorem Invariant.lawful_after (s : State) : (Invariant.after s).Lawful where
  advance hs h := hs.trans (.of_advance h)
  overflow _ _ := trivial
  here _ _ _ _ := trivial
  relabel _ _ := trivial
  withKind _ := trivial

theorem Invariant.after_keeps {α : Type} {s : State} {p : Parser α} (hp : p.Advances) :
    (Invariant.after s).Keeps p := by
  intro t ht
  cases h : p t with
  | success v u => exact ht.trans (hp h)
  | failure _ _ => trivial
  | fault _ => trivial
  | unfinished => trivial

theorem Grammar.after_keptBy {rules : Rules} {g : Grammar} (hrules : rules.Steps Parser.Advances)
    (hg : g.Steps Parser.Advances) (s : State) : (Invariant.after s).KeptBy rules g where
  lawful := Invariant.lawful_after s
  steps p hp := Invariant.after_keeps (hg p hp)
  rulesSteps name p hp := Invariant.after_keeps (hrules name p hp)
  patterns _ _ _ _ := trivial
  rulesPatterns _ _ _ _ _ := trivial

/-- At every depth the parser of a grammar advances if its steps do. -/
theorem Grammar.parser_advances {rules : Rules} {g : Grammar}
    (hrules : rules.Steps Parser.Advances) (hg : g.Steps Parser.Advances) (depth : Nat) :
    (g.parser (rules.unfold depth)).Advances := by
  intro s v t h
  have hkeeps := (after_keptBy hrules hg s).keeps depth s (.refl s)
  rwa [h] at hkeeps

theorem Grammar.advances_run {rules : Rules} {g : Grammar} (hrules : rules.Steps Parser.Advances)
    (hg : g.Steps Parser.Advances) : (g.run rules).Advances :=
  fun s _ _ h => parser_advances hrules hg (rules.depth s) h

/-! ## Sessions -/

namespace Session

/-- The state that a session has come to after its steps. -/
def stateAfter (rules : Rules) : State → List Step → State
  | s, [] => s
  | s, .run g :: steps => stateAfter rules (after s (g.run rules s)) steps
  | s, .compare _ :: steps => stateAfter rules s steps

/-- Steps that advance on success and go back on failure leave the session behind its start. -/
theorem precedes_stateAfter {rules : Rules} {steps : List Step}
    (h : ∀ g, .run g ∈ steps → (g.run rules).Advances ∧ (g.run rules).Restores) (s : State) :
    s.Precedes (stateAfter rules s steps) := by
  induction steps generalizing s with
  | nil => exact .refl s
  | cons step steps ih =>
    have htail : ∀ g, .run g ∈ steps → (g.run rules).Advances ∧ (g.run rules).Restores :=
      fun g hg => h g (List.mem_cons_of_mem _ hg)
    cases step with
    | compare t => exact ih htail s
    | run g =>
      obtain ⟨hadv, hres⟩ := h g List.mem_cons_self
      refine .trans ?_ (ih htail _)
      cases hr : g.run rules s with
      | success v t => exact hadv hr
      | failure e t =>
        obtain rfl := hres hr
        exact .refl t
      | fault r => exact .refl s
      | unfinished => exact .refl s

end Session

/-- **Success moves forward.** Let all steps written by hand advance when they succeed. If a run
from `s` succeeds, the state it returns is `s` moved past a prefix of the text. All states that the
run hands to its parts keep the sum of the offset and the length of the rest, and have a suffix of
the text left. So does every state of a session whose grammars also go back on failure. -/
theorem Grammar.advances {rules : Rules} (hrules : rules.Steps Parser.Advances) (s : State) :
    (∀ g : Grammar, g.Steps Parser.Advances →
      (∀ v t, g.Ends rules s (.success v t) →
        ∃ front, s.remaining = front ++ t.remaining ∧
          t.consumed = s.consumed + utf8Length front) ∧
      ∀ t, g.Hands rules s t →
        t.consumed + utf8Length t.remaining = s.consumed + utf8Length s.remaining ∧
          t.remaining <:+ s.remaining) ∧
    ∀ steps : List Session.Step,
      (∀ g, .run g ∈ steps → g.Steps Parser.Advances ∧ (g.run rules).Restores) →
      (Session.stateAfter rules s steps).consumed +
          utf8Length (Session.stateAfter rules s steps).remaining =
        s.consumed + utf8Length s.remaining ∧
      (Session.stateAfter rules s steps).remaining <:+ s.remaining := by
  refine ⟨fun g hg => ⟨fun v t h => ?_, fun t h => ?_⟩, fun steps h => ?_⟩
  · exact (after_keptBy hrules hg s).holds (.refl s) h
  · have ht : s.Precedes t := (after_keptBy hrules hg s).state_of_hands (.refl s) h
    exact ⟨ht.total, ht.suffix⟩
  · have ht : s.Precedes (Session.stateAfter rules s steps) :=
      Session.precedes_stateAfter (fun g hg => (h g hg).imp_left (advances_run hrules)) s
    exact ⟨ht.total, ht.suffix⟩

/-- The first alternative goes past a character and fails behind a second; the rule starts over. -/
theorem Grammar.advances_twoChars :
    let rules : Rules := ⟨[("char", .custom .anyChar)]⟩
    let g : Grammar := .alternatives [.product (.literal "a") (.custom .half), .rule "char"]
    let s := State.start ['a', 'b']
    (∃ front, s.remaining = front ++ ['b'] ∧ 1 = s.consumed + utf8Length front) ∧
    g.Hands rules s ⟨['b'], 1, by decide⟩ ∧ 1 + utf8Length ['b'] = utf8Length ['a', 'b'] ∧
    (Session.stateAfter rules s [.run g, .run g]).remaining <:+ ['a', 'b'] := by
  intro rules g s
  have hrules : rules.Steps Parser.Advances := by
    refine Rules.body_induction (fun _ => ?_) fun e he => ?_
    · exact .of_parts nofun nofun
    · obtain rfl : e = ("char", .custom .anyChar) := by simpa [rules] using he
      exact .of_parts (fun p hp => by cases hp; exact Parser.advances_anyChar) nofun
  have hg : g.Steps Parser.Advances := by
    refine .of_parts nofun fun h hh => ?_
    simp only [g] at hh
    have hcases : h = .product (.literal "a") (.custom .half) ∨ h = .rule "char" := by
      cases hh with
      | alternatives hmem => simpa using hmem
    rcases hcases with rfl | rfl
    · refine .of_parts nofun fun h hh => ?_
      cases hh with
      | productFirst => exact .of_parts nofun nofun
      | productSecond => exact .of_parts (fun p hp => by cases hp; exact Parser.advances_half) nofun
    · exact .of_parts nofun nofun
  have hrun : g.Ends rules s (.success (.text "a") ⟨['b'], 1, by decide⟩) := ⟨nofun, 1, rfl⟩
  have hhands : g.Hands rules s ⟨['b'], 1, by decide⟩ := ⟨1, .splitCharacter, nofun⟩
  have hrestores : (g.run rules).Restores := fun _ _ _ h => Parser.restores_alternatives _ h
  obtain ⟨hruns, hsessions⟩ := Grammar.advances hrules s
  refine ⟨(hruns g hg).1 _ _ hrun, hhands, ((hruns g hg).2 _ hhands).1, ?_⟩
  refine (hsessions [.run g, .run g] fun h hh => ?_).2
  obtain rfl : h = g := by simpa using hh
  exact ⟨hg, hrestores⟩

end Descent
