import Descent.Failure

/-!
# Parsers

A parser is a function from states to replies. It may succeed with a value and the state after
the match; fail with a failure and a state; break down with a fault; or not finish within the
depth that a recursive grammar has been given. A well-behaved parser that fails hands back the
state it started from, but nothing here relies on that: combinators which promise to go back to
their start do so themselves, by `Reply.restart`.

`Parser.parse` runs a parser on a whole text and refuses input left after the match.
-/

namespace Descent

/-- The answer of a parser at a state. -/
inductive Reply (α : Type) where
  | success (value : α) (next : State)
  | failure (cause : Failure) (state : State)
  | fault (reason : Fault)
  /-- A recursive rule was entered more often than the depth of the run allows. -/
  | unfinished

namespace Reply

variable {α β : Type}

/-- Changes the value of a success. -/
def map (f : α → β) : Reply α → Reply β
  | success v s => success (f v) s
  | failure e s => failure e s
  | fault r => fault r
  | unfinished => unfinished

/-- Changes the failure, and nothing else. -/
def mapFailure (f : Failure → Failure) : Reply α → Reply α
  | failure e s => failure (f e) s
  | r => r

/-- Continues after a success. -/
def bind (r : Reply α) (next : α → State → Reply β) : Reply β :=
  match r with
  | success v s => next v s
  | failure e s => failure e s
  | fault r => fault r
  | unfinished => unfinished

/-- Goes back to `start` on a failure. -/
def restart (start : State) : Reply α → Reply α
  | failure e _ => failure e start
  | r => r

/-- Answers with the outcome of moving a state forward. -/
def ofAdvance : Except Fault (List Char × State) → Reply String
  | .ok (front, next) => success (String.ofList front) next
  | .error reason => fault reason

end Reply

/-- A parser for values of a type. -/
def Parser (α : Type) := State → Reply α

/-- What is put around every part of a run, to look at it or to interrupt it. -/
abbrev Watch := (α : Type) → Parser α → Parser α

/-- Leaves every parser as it is. -/
abbrev Watch.none : Watch := fun _ p => p

/-- The end of a whole run: a value or an error, or no answer. -/
inductive Outcome (ε α : Type) where
  | ok (value : α)
  | error (cause : ε)
  | fault (reason : Fault)
  | unfinished

namespace Outcome

variable {ε ε' α : Type}

/-- Changes the error, and nothing else. -/
def mapError (f : ε → ε') : Outcome ε α → Outcome ε' α
  | ok v => ok v
  | error e => error (f e)
  | fault r => fault r
  | unfinished => unfinished

end Outcome

namespace Parser

variable {α : Type}

/-- Runs a parser on a whole text. A match that leaves input over is a failure at its end. -/
def parse (p : Parser α) (text : List Char) : Outcome Failure α :=
  match p (State.start text) with
  | .success v s => if s.atEnd then .ok v else .error (.trailingInput s.consumed)
  | .failure e _ => .error e
  | .fault r => .fault r
  | .unfinished => .unfinished

end Parser

end Descent
