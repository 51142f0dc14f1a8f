import Descent.Grammar.Basic

/-!
# Watched runs

To say something about what happens inside a run, the parser of every part of a grammar is put
under a watch. A *tripwire* is a watch that breaks down at one state: if it changes the run, that
state has been handed to some part (`Grammar.Hands`).
-/

namespace Descent

/-- Breaks down at the state `wire`. -/
def Watch.tripwire (wire : State) (reason : Fault) : Watch := fun _ p s =>
  if s = wire then .fault reason else p s

/-- The run of `g` from `s` hands the state `t` to `g` or to a parser inside it: one that breaks
down at `t` would change the run. -/
def Grammar.Hands (g : Grammar) (rules : Rules) (s t : State) : Prop :=
  ∃ depth reason, g.watched (.tripwire t reason) (rules.watched (.tripwire t reason) depth) s ≠
    g.parser (rules.unfold depth) s

end Descent
