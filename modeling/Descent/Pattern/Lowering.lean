import Descent.Pattern.Ast
import Descent.Pattern.Expr
import Descent.Unicode.CaseFolding

/-!
# From pattern syntax to expressions

Here the flags take effect. They are read from left to right: a change holds up to the end of the
group around it, across the branches of an alternation, and a group ends with the flags it began
with.

With the flag `unicode`, classes are sets of characters. Without it they are sets of bytes, and a
pattern that must stay within UTF-8 text may then only use ASCII. Case is folded before a class is
negated.
-/

namespace Descent.Pattern

open Unicode (CodeSet)

/-- How a pattern is to be read. -/
structure Options where
  caseInsensitive : Bool := false
  multiLine : Bool := false
  dotMatchesNewLine : Bool := false
  crlf : Bool := false
  swapGreed : Bool := false
  ignoreWhitespace : Bool := false
  unicode : Bool := true
  /-- Only UTF-8 text can match. -/
  utf8 : Bool := true
  octal : Bool := false
  nestLimit : Nat := 250
deriving DecidableEq, Repr

namespace Options

/-- The options after a change of flags. -/
def change (o : Options) : Flag × Bool → Options
  | (.caseInsensitive, on) => { o with caseInsensitive := on }
  | (.multiLine, on) => { o with multiLine := on }
  | (.dotMatchesNewLine, on) => { o with dotMatchesNewLine := on }
  | (.swapGreed, on) => { o with swapGreed := on }
  | (.unicode, on) => { o with unicode := on }
  | (.crlf, on) => { o with crlf := on }
  | (.ignoreWhitespace, on) => { o with ignoreWhitespace := on }

def changeAll (o : Options) (changes : List (Flag × Bool)) : Options := changes.foldl change o

/-! ## Sets -/

/-- Closes a set under case, if case does not count. -/
def fold (o : Options) (s : CodeSet) : CodeSet :=
  if !o.caseInsensitive then s
  else if o.unicode then Unicode.CaseFolding.close s
  else Unicode.CaseFolding.closeAscii s

/-- Refuses a set of bytes outside ASCII, if only UTF-8 text may match. -/
def checkBytes (o : Options) (s : CodeSet) : Except PatternError CodeSet :=
  if !o.unicode && o.utf8 && !s.isAscii then throw .invalidUtf8 else return s

/-- Closes a set under case and then negates it, as the options and the class demand. -/
def finishSet (o : Options) (negated : Bool) (s : CodeSet) : Except PatternError CodeSet :=
  let folded := o.fold s
  o.checkBytes (if negated then folded.complement else folded)

/-- The characters of words. -/
def wordSet (o : Options) : CodeSet :=
  if o.unicode then Unicode.Property.word
  else .ofRanges [(0x30, 0x39), (0x41, 0x5A), (0x5F, 0x5F), (0x61, 0x7A)]

def perlSet (o : Options) : PerlClass → CodeSet
  | .digit => if o.unicode then Unicode.Category.decimalNumber else .range 0x30 0x39
  | .space =>
    if o.unicode then Unicode.Property.whiteSpace else .ofRanges [(0x09, 0x0D), (0x20, 0x20)]
  | .word => o.wordSet

def perlClass (o : Options) (kind : PerlClass) (negated : Bool) : Except PatternError CodeSet :=
  let s := o.perlSet kind
  o.checkBytes (if negated then s.complement else s)

def unicodeClass (o : Options) (query : Unicode.Query) (negated : Bool) :
    Except PatternError CodeSet :=
  if !o.unicode then throw .unicodeNotAllowed
  else
    match query.find? with
    | some s => o.finishSet negated s
    | none => throw .propertyUnknown

/-- The code of a literal in a class. Where characters are bytes it must be ASCII or a byte. -/
def classCode (o : Options) (l : Literal) : Except PatternError Nat :=
  let n := l.char.toNat
  if o.unicode || n < 128 then return n
  else if !l.isByte then throw .unicodeNotAllowed
  else if o.utf8 then throw .invalidUtf8
  else return n

def applyOp : ClassOp → CodeSet → CodeSet → CodeSet
  | .inter => CodeSet.inter
  | .diff => CodeSet.diff
  | .symmDiff => CodeSet.symmDiff

end Options

open Options in
mutual

/-- The set that a class stands for. -/
def ClassSet.codes (o : Options) : ClassSet → Except PatternError CodeSet
  | .empty => return CodeSet.empty
  | .literal l => return .single (← o.classCode l)
  | .range first last => return .range (← o.classCode first) (← o.classCode last)
  | .ascii ranges negated => o.finishSet negated (.ofRanges ranges)
  | .unicode query negated => o.unicodeClass query negated
  | .perl kind negated => o.perlClass kind negated
  | .bracketed set negated => do o.finishSet negated (← set.codes o)
  | .union items => ClassSet.unionCodes o CodeSet.empty items
  | .op kind left right => do
    let left ← left.codes o
    let right ← right.codes o
    return applyOp kind (o.fold left) (o.fold right)

/-- The union of `done` and the sets of a list of items. -/
def ClassSet.unionCodes (o : Options) (done : CodeSet) :
    List ClassSet → Except PatternError CodeSet
  | [] => return done
  | item :: items => do ClassSet.unionCodes o (done.union (← item.codes o)) items

end

namespace Options

/-! ## Expressions -/

/-- The first and last characters whose encoding has a given number of bytes. -/
def encodedIn : List (Nat × Nat × Nat) :=
  [(1, 0, 0x7F), (2, 0x80, 0x7FF), (3, 0x800, 0xFFFF), (4, 0x10000, 0x10FFFF)]

/-- Matches one character of a set. Where the units are bytes, that is a first byte of such a
character and all its other bytes. -/
def charIn (o : Options) (s : CodeSet) : Expr :=
  if o.utf8 then .test (.code s)
  else
    .choiceAll ((encodedIn.filter fun (_, lo, hi) => s.meets lo hi).map fun (width, _, _) =>
      .seqAll (.test (.lead s width) :: List.replicate (width - 1) (.test .any)))

/-- Matches one member of a class, which is a set of characters or of bytes. -/
def memberOf (o : Options) (s : CodeSet) : Expr :=
  if o.unicode then o.charIn s else .test (.code s)

/-- Matches a literal. -/
def literal (o : Options) (l : Literal) : Except PatternError Expr :=
  let n := l.char.toNat
  if !o.unicode && l.isByte && 127 < n then
    if o.utf8 then throw .invalidUtf8 else return .test (.code (.single n))
  else return o.charIn (o.fold (.single n))

/-- Matches any character, but for the ends of lines unless they are included. -/
def dot (o : Options) : Except PatternError Expr :=
  if !o.unicode && o.utf8 then throw .invalidUtf8
  else
    let ends : CodeSet :=
      if o.dotMatchesNewLine then CodeSet.empty
      else if o.crlf then .ofRanges [(0xA, 0xA), (0xD, 0xD)]
      else .single 0xA
    return o.memberOf ends.complement

def look (o : Options) : Assertion → Look
  | .lineStart =>
    if !o.multiLine then .textStart else if o.crlf then .lineStartCRLF else .lineStart
  | .lineEnd => if !o.multiLine then .textEnd else if o.crlf then .lineEndCRLF else .lineEnd
  | .textStart => .textStart
  | .textEnd => .textEnd
  | .word edge => .word edge o.wordSet o.unicode

end Options

mutual

/-- The expression for a pattern, and the options after it. -/
def Ast.lower (o : Options) : Ast → Except PatternError (Expr × Options)
  | .empty => return (.empty, o)
  | .flags changes => return (.empty, o.changeAll changes)
  | .literal l => return (← o.literal l, o)
  | .dot => return (← o.dot, o)
  | .assertion a => return (.look (o.look a), o)
  | .unicode query negated => return (o.memberOf (← o.unicodeClass query negated), o)
  | .perl kind negated => return (o.memberOf (← o.perlClass kind negated), o)
  | .bracketed set negated => do
    return (o.memberOf (← o.finishSet negated (← set.codes o)), o)
  | .repetition body least most greedy => do
    let (e, o) ← body.lower o
    return (e.repeated least most (greedy != o.swapGreed), o)
  | .group changes body => do
    let (e, _) ← body.lower (o.changeAll changes)
    return (e, o)
  | .alternation branches => do
    let (es, o) ← Ast.lowerAll o branches
    return (.choiceAll es, o)
  | .concat items => do
    let (es, o) ← Ast.lowerAll o items
    return (.seqAll es, o)

/-- The expressions for a list of patterns, each with the options after the one before it. -/
def Ast.lowerAll (o : Options) : List Ast → Except PatternError (List Expr × Options)
  | [] => return ([], o)
  | item :: items => do
    let (e, o) ← item.lower o
    let (es, o) ← Ast.lowerAll o items
    return (e :: es, o)

end

end Descent.Pattern
