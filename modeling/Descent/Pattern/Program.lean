import Descent.Pattern.Expr

/-!
# Pattern programs

A pattern expression becomes a list of instructions, in which a choice is a fork that names its
preferred branch first. The program is run on all its threads at once, one unit of the text at a
time: the threads are kept in order of preference, no instruction twice, and a thread that accepts
ends all those behind it. The work per unit is bounded by the size of the program, whatever the
text.

The run sees nothing but the text it is given: its first position has the edge before it.
-/

namespace Descent.Pattern

/-- An instruction. All but `fork` and `jump` go on to the next one. -/
inductive Instr where
  | test (t : Test)
  | look (l : Look)
  | fork (preferred other : Nat)
  | jump (target : Nat)
  | accept
deriving DecidableEq

abbrev Program := Array Instr

namespace Expr

/-- The number of instructions of an expression. -/
def size : Expr → Nat
  | empty => 0
  | test _ => 1
  | look _ => 1
  | seq a b => a.size + b.size
  | choice a b => a.size + b.size + 2
  | plus e _ => e.size + 1

/-- The instructions of an expression, for a program in which the first of them stands at `start`.
They end by falling through to what follows. -/
def code : Expr → (start : Nat) → List Instr
  | empty, _ => []
  | test t, _ => [.test t]
  | look l, _ => [.look l]
  | seq a b, start => a.code start ++ b.code (start + a.size)
  | choice a b, start =>
    let other := start + 1 + a.size + 1
    .fork (start + 1) other :: a.code (start + 1) ++
      .jump (other + b.size) :: b.code other
  | plus e greedy, start =>
    let after := start + e.size + 1
    e.code start ++ [if greedy then .fork start after else .fork after start]

def program (e : Expr) : Program := (e.code 0 ++ [Instr.accept]).toArray

end Expr

namespace Program

/-- The instruction at a program point. -/
def instr? (p : Program) (pc : Nat) : Option Instr := p[pc]?

/-- Follows a thread at `pc` through forks, jumps and conditions to the instructions at which it
waits, and adds these to `threads`, which is in reverse order of preference. The bits of `seen`
mark the instructions that were reached before; these are left alone. -/
def follow (p : Program) (before after : Side) :
    (fuel pc : Nat) → Nat × List Nat → Nat × List Nat
  | 0, _, acc => acc
  | fuel + 1, pc, (seen, threads) =>
    if seen.testBit pc then (seen, threads)
    else
      let seen := seen ||| 1 <<< pc
      match p.instr? pc with
      | none => (seen, threads)
      | some (.test _) => (seen, pc :: threads)
      | some .accept => (seen, pc :: threads)
      | some (.look l) =>
        if l.holds before after then follow p before after fuel (pc + 1) (seen, threads)
        else (seen, threads)
      | some (.jump target) => follow p before after fuel target (seen, threads)
      | some (.fork preferred other) =>
        follow p before after fuel other
          (follow p before after fuel preferred (seen, threads))

/-- The threads that a list of program points leads to, most preferred first. A path to a waiting
instruction passes no instruction twice, so the size of the program bounds its length. -/
def threadsFrom (p : Program) (before after : Side) (points : List Nat) : List Nat :=
  (points.foldl (fun acc pc => follow p before after (p.size + 1) pc acc) (0, [])).2.reverse

/-- The points that threads reach by reading a unit. -/
def advance (p : Program) (token : Token) (threads : List Nat) : List Nat :=
  threads.filterMap fun pc =>
    match p.instr? pc with
    | some (.test t) => if t.passes token then some (pc + 1) else none
    | _ => none

def accepts (p : Program) (pc : Nat) : Bool := p.instr? pc == some .accept

/-- A run that has come to an offset: its threads, and the end of the best match so far. -/
structure Run where
  threads : List Nat
  offset : Nat
  best : Option Nat

namespace Run

/-- Records a match, if a thread accepts, and ends the threads that are less preferred. -/
def settle (p : Program) (r : Run) : Run :=
  { r with
    threads := r.threads.takeWhile fun pc => !p.accepts pc
    best := if r.threads.any p.accepts then some r.offset else r.best }

/-- The run before any unit has been read. -/
def start (p : Program) (text : List Char) : Run :=
  settle p ⟨p.threadsFrom .edge (.ofText text) [0], 0, none⟩

/-- Reads one unit; `before` and `after` are the sides of the position after it. -/
def feed (p : Program) (token : Token) (before after : Side) (r : Run) : Run :=
  settle p ⟨p.threadsFrom before after (p.advance token r.threads), r.offset + token.width, r.best⟩

/-- Reads the units of the character `c`, which is followed by `after`. -/
def feedAll (p : Program) (c : Char) (after : Side) : List Token → Run → Run
  | [], r => r
  | [token], r => r.feed p token (.char c) after
  | token :: tokens, r => feedAll p c after tokens (r.feed p token .inside .inside)

end Run

/-- Runs to the end of the text, or until no thread is left, and gives the end of the match. -/
def finish (p : Program) (units : Char → List Token) : List Char → Run → Option Nat
  | [], r => r.best
  | c :: rest, r =>
    if r.threads.isEmpty then r.best
    else finish p units rest (r.feedAll p c (.ofText rest) (units c))

/-- The byte offset at which the preferred match from the front of the text ends. -/
def matchEnd? (p : Program) (units : Char → List Token) (text : List Char) : Option Nat :=
  p.finish units text (Run.start p text)

end Program

/-- A character as one unit. -/
def charUnits (c : Char) : List Token := [⟨c.toNat, c, true, c.utf8Size⟩]

/-- A character as the bytes of its encoding. -/
def byteUnits (c : Char) : List Token :=
  (String.utf8EncodeChar c).mapIdx fun i byte => ⟨byte.toNat, c, i == 0, 1⟩

end Descent.Pattern
