import Descent.Unicode.CodeSet

/-!
# Pattern expressions

The core language that a pattern is brought into before it is run: tests of one unit of the text,
conditions on a position, sequence, prioritised choice and repetition. Everything else is defined
from these.

The units of a text are its characters or, for patterns that may match single bytes, the bytes of
its UTF-8 encoding. A condition on a position looks at what stands on its two sides.
-/

namespace Descent.Pattern

open Unicode (CodeSet)

/-! ## Units and positions -/

/-- One unit of a text: its code, the character it belongs to, whether it is the first unit of
that character, and the number of bytes it stands for. -/
structure Token where
  code : Nat
  owner : Char
  leads : Bool
  width : Nat

/-- What stands next to a position on one side. -/
inductive Side where
  /-- The end of the text. -/
  | edge
  | char (c : Char)
  /-- The position lies inside a character. -/
  | inside
deriving DecidableEq

/-- What stands to the right of a position, from the text there. -/
def Side.ofText : List Char → Side
  | [] => .edge
  | c :: _ => .char c

/-- A test of one unit. -/
inductive Test where
  /-- The unit's code is in the set. -/
  | code (set : CodeSet)
  /-- The unit is the first of a character in the set that takes `width` bytes. -/
  | lead (set : CodeSet) (width : Nat)
  | any
deriving DecidableEq

def Test.passes : Test → Token → Bool
  | .code set, t => set.contains t.code
  | .lead set width, t => t.leads && t.owner.utf8Size == width && set.contains t.owner.toNat
  | .any, _ => true

/-! ## Conditions on a position -/

/-- How word characters must lie around a position. -/
inductive WordEdge where
  | boundary
  | noBoundary
  | start
  | finish
  | startHalf
  | finishHalf
deriving DecidableEq, Repr

/-- A condition on a position. The set holds the word characters, and `strict` says that no
half-sided or negative condition holds inside a character. -/
inductive Look where
  | textStart
  | textEnd
  | lineStart
  | lineEnd
  /-- As `lineStart`, where a carriage return may also end a line. -/
  | lineStartCRLF
  | lineEndCRLF
  | word (edge : WordEdge) (set : CodeSet) (strict : Bool)
deriving DecidableEq

namespace Side

/-- A word character stands on this side. -/
def isWord (set : CodeSet) : Side → Bool
  | .char c => set.contains c.toNat
  | _ => false

end Side

namespace WordEdge

/-- The condition, from whether a word character stands before and after. -/
def holds : WordEdge → (before after : Bool) → Bool
  | boundary, b, a => b != a
  | noBoundary, b, a => b == a
  | start, b, a => !b && a
  | finish, b, a => b && !a
  | startHalf, b, _ => !b
  | finishHalf, _, a => !a

/-- The sides at which a strict condition needs a whole character or the end. -/
def needs : WordEdge → (before after : Side) → Bool
  | noBoundary, b, a => b != .inside && a != .inside
  | startHalf, b, _ => b != .inside
  | finishHalf, _, a => a != .inside
  | _, _, _ => true

end WordEdge

/-- Whether a condition holds between two sides. -/
def Look.holds : Look → (before after : Side) → Bool
  | textStart, b, _ => b == .edge
  | textEnd, _, a => a == .edge
  | lineStart, b, _ => b == .edge || b == .char '\n'
  | lineEnd, _, a => a == .edge || a == .char '\n'
  | lineStartCRLF, b, a => b == .edge || b == .char '\n' || b == .char '\r' && a != .char '\n'
  | lineEndCRLF, b, a => a == .edge || a == .char '\r' || a == .char '\n' && b != .char '\r'
  | word edge set strict, b, a =>
    edge.holds (b.isWord set) (a.isWord set) && (!strict || edge.needs b a)

/-! ## Expressions -/

/-- A pattern expression. Of two ways to match, a choice prefers the left one; a repetition
prefers another round if it is greedy, and to stop if it is not. -/
inductive Expr where
  | empty
  | test (t : Test)
  | look (l : Look)
  | seq (first second : Expr)
  | choice (preferred other : Expr)
  /-- One round or more. -/
  | plus (body : Expr) (greedy : Bool)
deriving DecidableEq

namespace Expr

/-- Matches nothing at all, not even the empty text. -/
def never : Expr := test (.code CodeSet.empty)

def seqAll (es : List Expr) : Expr :=
  match es with
  | [] => empty
  | [e] => e
  | e :: es => seq e (seqAll es)

def choiceAll (es : List Expr) : Expr :=
  match es with
  | [] => never
  | [e] => e
  | e :: es => choice e (choiceAll es)

/-- Nothing in the expression needs a unit, whatever its conditions say. -/
def nullable : Expr → Bool
  | empty => true
  | test _ => false
  | look _ => true
  | seq a b => a.nullable && b.nullable
  | choice a b => a.nullable || b.nullable
  | plus e _ => e.nullable

/-- `e` or nothing; a greedy one prefers `e`. -/
def opt (e : Expr) (greedy : Bool) : Expr := if greedy then choice e empty else choice empty e

/-- Any number of rounds. The detour over `plus` lets a round that matches the empty text end
the repetition. -/
def star (e : Expr) (greedy : Bool) : Expr := opt (plus e greedy) greedy

/-- `n` copies of `e`. -/
def copies (e : Expr) (n : Nat) : Expr := seqAll (List.replicate n e)

/-- Up to `n` rounds, each of which is only tried after the one before. -/
def upTo (e : Expr) (greedy : Bool) : Nat → Expr
  | 0 => empty
  | n + 1 => opt (seq e (upTo e greedy n)) greedy

/-- At least `least` rounds, and at most `most` if that is given. -/
def repeated (e : Expr) (least : Nat) (most : Option Nat) (greedy : Bool) : Expr :=
  match least, most with
  | 0, none => star e greedy
  | n + 1, none => seq (copies e n) (plus e greedy)
  | n, some m => seq (copies e n) (upTo e greedy (m - n))

end Expr

end Descent.Pattern
