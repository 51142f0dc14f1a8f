import Descent.Grammar.Basic

/-!
# Sessions

A session runs grammars one after another on one text. Each starts at the state that the one
before it returned, whether that was a success or a failure. A grammar that breaks down leaves the
state as it was.
-/

namespace Descent.Session

/-- A step of a session. -/
inductive Step where
  | run (g : Grammar)
  /-- Asks whether the session has come to a given state. -/
  | compare (s : State)

/-- The answer to a step. -/
inductive Answer where
  | reply (r : Reply Value)
  | same (isSame : Bool)

/-- The state after a reply. -/
def after (s : State) : Reply Value → State
  | .success _ next => next
  | .failure _ next => next
  | .fault _ => s
  | .unfinished => s

/-- The answers to the steps of a session that has come to `s`. -/
def run (rules : Rules) (s : State) : List Step → List Answer
  | [] => []
  | .run g :: steps =>
    let r := g.run rules s
    .reply r :: run rules (after s r) steps
  | .compare t :: steps => .same (s == t) :: run rules s steps

end Descent.Session
