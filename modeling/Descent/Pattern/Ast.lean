import Descent.Pattern.Expr
import Descent.Unicode.Query

/-!
# Pattern syntax

A pattern as it is written: literals, classes, assertions, repetition, groups and flags, with
nothing yet decided about what a flag does to them. `Ast.depth` measures nesting, for which a
pattern has a limit: a lone literal has depth 0, and every list, group, repetition and bracketed
class around it adds one.
-/

namespace Descent.Pattern

/-- Why a pattern is refused. -/
inductive PatternError where
  | groupUnclosed
  | groupUnopened
  | lookAround
  | groupNameInvalid
  | groupNameDuplicate
  | flagUnknown
  | flagDuplicate
  | flagDangling
  | flagsUnclosed
  | repetitionMissing
  | repetitionUnclosed
  | repetitionInvalid
  | decimalEmpty
  | decimalTooLarge
  | escapeUnfinished
  | escapeUnknown
  | backreference
  | hexInvalid
  | wordEdgeUnclosed
  | wordEdgeUnknown
  | propertyInvalid
  | propertyUnknown
  | classUnclosed
  | classItemInvalid
  | classRangeInvalid
  | nestingTooDeep
  /-- The pattern could match bytes that are no UTF-8 text. -/
  | invalidUtf8
  /-- A class or character outside ASCII is used where characters are bytes. -/
  | unicodeNotAllowed
deriving DecidableEq, Repr

/-- What a flag inside a pattern changes. -/
inductive Flag where
  | caseInsensitive
  | multiLine
  | dotMatchesNewLine
  | swapGreed
  | unicode
  | crlf
  | ignoreWhitespace
deriving DecidableEq, Repr

/-- The letter of a flag. -/
def Flag.ofChar? : Char → Option Flag
  | 'i' => some caseInsensitive
  | 'm' => some multiLine
  | 's' => some dotMatchesNewLine
  | 'U' => some swapGreed
  | 'u' => some unicode
  | 'R' => some crlf
  | 'x' => some ignoreWhitespace
  | _ => none

/-- A condition on a position, as it is written. -/
inductive Assertion where
  | lineStart
  | lineEnd
  | textStart
  | textEnd
  | word (edge : WordEdge)
deriving DecidableEq, Repr

/-- The classes with a letter of their own. -/
inductive PerlClass where
  | digit
  | space
  | word
deriving DecidableEq, Repr

/-- A literal character. `isByte` marks the escape of two hexadecimal digits, which stands for a
byte where characters are bytes. -/
structure Literal where
  char : Char
  isByte : Bool := false
deriving DecidableEq, Repr

/-- An operation on two classes. -/
inductive ClassOp where
  | inter
  | diff
  | symmDiff
deriving DecidableEq, Repr

/-- What stands between the brackets of a class. -/
inductive ClassSet where
  | empty
  | literal (l : Literal)
  | range (first last : Literal)
  /-- A named ASCII class, by its ranges. -/
  | ascii (ranges : List (Nat × Nat)) (negated : Bool)
  | unicode (query : Unicode.Query) (negated : Bool)
  | perl (kind : PerlClass) (negated : Bool)
  | bracketed (set : ClassSet) (negated : Bool)
  | union (items : List ClassSet)
  | op (kind : ClassOp) (left right : ClassSet)

/-- A pattern. -/
inductive Ast where
  | empty
  | flags (changes : List (Flag × Bool))
  | literal (l : Literal)
  | dot
  | assertion (a : Assertion)
  | unicode (query : Unicode.Query) (negated : Bool)
  | perl (kind : PerlClass) (negated : Bool)
  | bracketed (set : ClassSet) (negated : Bool)
  | repetition (body : Ast) (least : Nat) (most : Option Nat) (greedy : Bool)
  | group (changes : List (Flag × Bool)) (body : Ast)
  | alternation (branches : List Ast)
  | concat (items : List Ast)

namespace ClassSet

/-- A list of items as one set. -/
def ofItems : List ClassSet → ClassSet
  | [] => empty
  | [item] => item
  | items => union items

mutual

/-- How deeply a class is nested. -/
def depth : ClassSet → Nat
  | bracketed set _ => set.depth + 1
  | union items => depthAll items + 1
  | op _ left right => max left.depth right.depth + 1
  | _ => 0

def depthAll : List ClassSet → Nat
  | [] => 0
  | item :: items => max item.depth (depthAll items)

end

end ClassSet

namespace Ast

/-- A list of items as one pattern. -/
def ofItems : List Ast → Ast
  | [] => empty
  | [item] => item
  | items => concat items

/-- A list of branches as one pattern. -/
def ofBranches : List Ast → Ast
  | [] => empty
  | [branch] => branch
  | branches => alternation branches

mutual

/-- How deeply a pattern is nested. -/
def depth : Ast → Nat
  | bracketed set _ => set.depth + 1
  | repetition body _ _ _ => body.depth + 1
  | group _ body => body.depth + 1
  | alternation branches => depthAll branches + 1
  | concat items => depthAll items + 1
  | _ => 0

def depthAll : List Ast → Nat
  | [] => 0
  | item :: items => max item.depth (depthAll items)

end

end Ast

end Descent.Pattern
