import Descent.Pattern.Ast

/-!
# Reading patterns

From the text of a pattern to its syntax. The reader goes through the text once and never back,
but for two places where a `[` or a `{` may turn out not to open what it seems to open. Where
white space is ignored, blanks and comments may stand before any piece of syntax and inside most
of them.

Loops and nested constructs are bounded by the length of the text: every round reads at least one
character.
-/

namespace Descent.Pattern

open Unicode (Query)

/-- Where the reader stands. -/
structure Cursor where
  rest : List Char
  /-- White space and comments are skipped. -/
  spacing : Bool
  /-- Backslash and octal digits are a literal. -/
  octal : Bool
  /-- The names of the groups so far. -/
  names : List (List Char) := []

abbrev Reader := StateT Cursor (Except PatternError)

namespace Reader

/-! ## Characters -/

def isBlank (c : Char) : Bool := Unicode.Property.whiteSpace.contains c.toNat

/-- Drops white space and comments, which run from a number sign to the end of the line. -/
def dropBlanks (inComment : Bool) : List Char → List Char
  | [] => []
  | c :: rest =>
    if inComment then dropBlanks (c != '\n') rest
    else if c == '#' then dropBlanks true rest
    else if isBlank c then dropBlanks false rest
    else c :: rest

def rest : Reader (List Char) := return (← get).rest

def setRest (cs : List Char) : Reader Unit := modify fun c => { c with rest := cs }

def skipBlanks : Reader Unit :=
  modify fun c => if c.spacing then { c with rest := dropBlanks false c.rest } else c

def head? : Reader (Option Char) := return (← rest).head?

/-- Passes one character. -/
def bump : Reader Unit := modify fun c => { c with rest := c.rest.tail }

/-- Passes one character and the blanks after it. -/
def bumpBlanks : Reader Unit := do bump; skipBlanks

/-- The next character, which must exist. -/
def need (e : PatternError) : Reader Char := do
  match ← head? with
  | some c => return c
  | none => throw e

/-- Passes a fixed text if it is next. -/
def bumpIf (text : String) : Reader Bool := do
  let cs ← rest
  if text.toList.isPrefixOf cs then
    setRest (cs.drop text.length)
    return true
  else return false

/-- The characters that satisfy a test, with the blanks after each of them passed. -/
def collect (p : Char → Bool) : Reader (List Char) := do go (← rest).length
where
  go : Nat → Reader (List Char)
    | 0 => return []
    | n + 1 => do
      match ← head? with
      | some c =>
        if p c then
          bumpBlanks
          return c :: (← go n)
        else return []
      | none => return []

/-! ## Numbers -/

def digitValue (c : Char) : Nat :=
  if c.isDigit then c.toNat - '0'.toNat
  else if c.isUpper then c.toNat - 'A'.toNat + 10
  else c.toNat - 'a'.toNat + 10

def number (base : Nat) (digits : List Char) : Nat :=
  digits.foldl (fun n c => base * n + digitValue c) 0

def isHex (c : Char) : Bool := c.isDigit || 'a' ≤ c && c ≤ 'f' || 'A' ≤ c && c ≤ 'F'

def isOctal (c : Char) : Bool := '0' ≤ c && c ≤ '7'

/-- A repetition count of at most 32 bits. -/
def decimal : Reader Nat := do
  setRest ((← rest).dropWhile isBlank)
  let digits ← collect Char.isDigit
  let _ ← collect isBlank
  if digits.isEmpty then throw .decimalEmpty
  let n := number 10 digits
  if n < UInt32.size then return n else throw .decimalTooLarge

/-- The character with a code, if there is one. -/
def scalar (n : Nat) : Reader Char :=
  if h : n.isValidChar then return Char.ofNatAux n h else throw .hexInvalid

/-- Hexadecimal digits in braces, up to the closing one. -/
def hexBraced : Reader Literal := do
  bumpBlanks
  let digits ← collect (· != '}')
  let _ ← need .escapeUnfinished
  if digits.isEmpty || !digits.all isHex then throw .hexInvalid
  bumpBlanks
  return { char := ← scalar (number 16 digits) }

/-- A fixed number of hexadecimal digits. -/
def hexFixed (count : Nat) : Reader Char := do
  let rec go : Nat → Nat → Reader Nat
    | 0, n => return n
    | k + 1, n => do
      let c ← need .escapeUnfinished
      if !isHex c then throw .hexInvalid
      bumpBlanks
      go k (16 * n + digitValue c)
  scalar (← go count 0)

/-- The escape of a code, from its letter on. -/
def hex (letter : Char) : Reader Literal := do
  bumpBlanks
  if (← need .escapeUnfinished) == '{' then hexBraced
  else
    match letter with
    | 'x' => return { char := ← hexFixed 2, isByte := true }
    | 'u' => return { char := ← hexFixed 4 }
    | _ => return { char := ← hexFixed 8 }

/-- An escape of up to three octal digits. -/
def octal : Reader Literal := do
  let cs ← rest
  let digits := (cs.take 3).takeWhile isOctal
  setRest (cs.drop digits.length)
  return { char := ← scalar (number 8 digits) }

/-! ## Escapes -/

/-- Splits a list at the first place where a separator stands. -/
def splitAt? (separator : List Char) : List Char → Option (List Char × List Char)
  | [] => none
  | c :: rest =>
    if separator.isPrefixOf (c :: rest) then some ([], (c :: rest).drop separator.length)
    else (splitAt? separator rest).map fun (front, back) => (c :: front, back)

/-- The request that the text in the braces of a property makes. -/
def propertyQuery (cs : List Char) : Query :=
  match splitAt? ['!', '='] cs <|> splitAt? [':'] cs <|> splitAt? ['='] cs with
  | some (property, value) => .value (.ofList property) (.ofList value)
  | none => .name (.ofList cs)

/-- A property, from its letter on. -/
def property : Reader Query := do
  bumpBlanks
  let c ← need .escapeUnfinished
  if c == '{' then
    bumpBlanks
    let cs ← collect (· != '}')
    let _ ← need .escapeUnfinished
    bump
    return propertyQuery cs
  else if c == '\\' then throw .propertyInvalid
  else
    bumpBlanks
    return .name (.singleton c)

def wordEdge? : String → Option WordEdge
  | "start" => some .start
  | "end" => some .finish
  | "start-half" => some .startHalf
  | "end-half" => some .finishHalf
  | _ => none

/-- What follows the letter of a word boundary: a name in braces, or nothing. Braces that do not
begin with a letter or a hyphen are left alone. -/
def wordEdge : Reader WordEdge := do
  let cursor ← get
  if cursor.rest.head? != some '{' then return .boundary
  bumpBlanks
  let c ← need .wordEdgeUnclosed
  let named (c : Char) := c.isAlpha || c == '-'
  if !named c then
    set cursor
    return .boundary
  let name ← collect named
  if (← need .wordEdgeUnclosed) != '}' then throw .wordEdgeUnclosed
  bump
  match wordEdge? (.ofList name) with
  | some edge => return edge
  | none => throw .wordEdgeUnknown

/-- The characters that have a meaning of their own and can be escaped to lose it. -/
def isMeta (c : Char) : Bool := "\\.+*?()|[]\x7b\x7d^$#&-~".toList.contains c

/-- The characters that stand for themselves after a backslash. -/
def isEscapable (c : Char) : Bool :=
  isMeta c || c.toNat < 128 && !c.isAlphanum && c != '<' && c != '>'

/-- An escape, from its backslash on. -/
def escape : Reader Ast := do
  bump
  let c ← need .escapeUnfinished
  if isOctal c then
    if (← get).octal then return .literal (← octal) else throw .backreference
  else if c == 'x' || c == 'u' || c == 'U' then return .literal (← hex c)
  else if c == 'p' || c == 'P' then return .unicode (← property) (c == 'P')
  bump
  if isEscapable c then return .literal { char := c }
  match c with
  | 'd' => return .perl .digit false
  | 's' => return .perl .space false
  | 'w' => return .perl .word false
  | 'D' => return .perl .digit true
  | 'S' => return .perl .space true
  | 'W' => return .perl .word true
  | 'a' => return .literal { char := '\x07' }
  | 'f' => return .literal { char := '\x0c' }
  | 't' => return .literal { char := '\t' }
  | 'n' => return .literal { char := '\n' }
  | 'r' => return .literal { char := '\r' }
  | 'v' => return .literal { char := '\x0b' }
  | 'A' => return .assertion .textStart
  | 'z' => return .assertion .textEnd
  | 'b' => return .assertion (.word (← wordEdge))
  | 'B' => return .assertion (.word .noBoundary)
  | '<' => return .assertion (.word .start)
  | '>' => return .assertion (.word .finish)
  | '8' | '9' => throw .backreference
  | _ => throw .escapeUnknown

/-! ## Classes -/

/-- The ranges of the named ASCII classes. -/
def asciiClass? : String → Option (List (Nat × Nat))
  | "alnum" => some [(0x30, 0x39), (0x41, 0x5A), (0x61, 0x7A)]
  | "alpha" => some [(0x41, 0x5A), (0x61, 0x7A)]
  | "ascii" => some [(0x00, 0x7F)]
  | "blank" => some [(0x09, 0x09), (0x20, 0x20)]
  | "cntrl" => some [(0x00, 0x1F), (0x7F, 0x7F)]
  | "digit" => some [(0x30, 0x39)]
  | "graph" => some [(0x21, 0x7E)]
  | "lower" => some [(0x61, 0x7A)]
  | "print" => some [(0x20, 0x7E)]
  | "punct" => some [(0x21, 0x2F), (0x3A, 0x40), (0x5B, 0x60), (0x7B, 0x7E)]
  | "space" => some [(0x09, 0x0D), (0x20, 0x20)]
  | "upper" => some [(0x41, 0x5A)]
  | "word" => some [(0x30, 0x39), (0x41, 0x5A), (0x5F, 0x5F), (0x61, 0x7A)]
  | "xdigit" => some [(0x30, 0x39), (0x41, 0x46), (0x61, 0x66)]
  | _ => none

/-- A named ASCII class and what follows it, if the text after a bracket is one. -/
def namedClass? (cs : List Char) : Option (ClassSet × List Char) := do
  let cs ← if cs.head? == some ':' then some cs.tail else none
  let negated := cs.head? == some '^'
  let cs := if negated then cs.tail else cs
  let (name, after) := cs.span (· != ':')
  let rest ← if [':', ']'].isPrefixOf after then some (after.drop 2) else none
  let ranges ← asciiClass? (.ofList name)
  return (.ascii ranges negated, rest)

/-- One piece of a class. -/
def classPrimitive : Reader Ast := do
  let c ← need .classUnclosed
  if c == '\\' then escape
  else
    bump
    return .literal { char := c }

def classItem : Ast → Reader ClassSet
  | .literal l => return .literal l
  | .unicode query negated => return .unicode query negated
  | .perl kind negated => return .perl kind negated
  | _ => throw .classItemInvalid

def classLiteral : Ast → Reader Literal
  | .literal l => return l
  | _ => throw .classRangeInvalid

/-- The character that decides whether the hyphen in front of `cs` makes a range: the first one
that is no blank, where the sign that begins a comment counts as blank. -/
def afterHyphen (spacing : Bool) (cs : List Char) : Option Char :=
  if spacing then
    match cs.dropWhile isBlank with
    | [] => cs.head?
    | '#' :: rest =>
      match rest.dropWhile isBlank with
      | [] => cs.head?
      | c :: _ => some c
    | c :: _ => some c
  else cs.head?

/-- A piece of a class, or a range between two of them. -/
def classRange : Reader ClassSet := do
  let first ← classPrimitive
  skipBlanks
  let c ← need .classUnclosed
  let next := afterHyphen (← get).spacing (← rest).tail
  if c != '-' || next == some ']' || next == some '-' then classItem first
  else
    bumpBlanks
    let _ ← need .classUnclosed
    let last ← classLiteral (← classPrimitive)
    let first ← classLiteral first
    if first.char ≤ last.char then return .range first last else throw .classRangeInvalid

/-- The hyphens that lead a class, each of which is a literal. -/
def leadingHyphens : Reader (List ClassSet) := do
  let hyphens ← collect (· == '-')
  let _ ← need .classUnclosed
  return hyphens.map fun c => .literal { char := c }

/-- The opening of a class: whether it is negated, and the literals that only stand there. -/
def classOpening : Reader (Bool × List ClassSet) := do
  bumpBlanks
  let c ← need .classUnclosed
  let negated := c == '^'
  if negated then bumpBlanks
  let _ ← need .classUnclosed
  let hyphens ← leadingHyphens
  if hyphens.isEmpty && (← head?) == some ']' then
    bumpBlanks
    let _ ← need .classUnclosed
    return (negated, [.literal { char := ']' }])
  return (negated, hyphens)

/-- Applies the operation that waits for its right operand, if there is one. -/
def applyPending (pending : Option (ClassOp × ClassSet)) (items : List ClassSet) : ClassSet :=
  match pending with
  | none => .ofItems items.reverse
  | some (op, left) => .op op left (.ofItems items.reverse)

/-- What is left of a class after its opening, up to and including the closing bracket. `items`
holds in reverse what has been read since the last operator. -/
def classBody : Nat → Option (ClassOp × ClassSet) → List ClassSet → Reader ClassSet
  | 0, _, _ => throw .classUnclosed
  | fuel + 1, pending, items => do
    skipBlanks
    match ← rest with
    | [] => throw .classUnclosed
    | '[' :: cs =>
      match namedClass? cs with
      | some (item, cs) =>
        setRest cs
        classBody fuel pending (item :: items)
      | none =>
        let (negated, first) ← classOpening
        let set ← classBody fuel none first.reverse
        classBody fuel pending (.bracketed set negated :: items)
    | ']' :: cs =>
      setRest cs
      return applyPending pending items
    | '&' :: '&' :: cs =>
      setRest cs
      classBody fuel (some (.inter, applyPending pending items)) []
    | '-' :: '-' :: cs =>
      setRest cs
      classBody fuel (some (.diff, applyPending pending items)) []
    | '~' :: '~' :: cs =>
      setRest cs
      classBody fuel (some (.symmDiff, applyPending pending items)) []
    | _ => classBody fuel pending ((← classRange) :: items)

/-- A bracketed class, from its opening bracket on. -/
def bracketed : Reader Ast := do
  let fuel := (← rest).length
  let (negated, first) ← classOpening
  return .bracketed (← classBody fuel none first.reverse) negated

/-! ## Repetition -/

/-- A question mark right after a repetition makes it prefer fewer rounds. -/
def greedy : Reader Bool := return !(← bumpIf "?")

/-- The counts in braces, from the opening one on, and whether the repetition is greedy. -/
def counts : Reader (Nat × Option Nat × Bool) := do
  bumpBlanks
  let _ ← need .repetitionUnclosed
  let least ← decimal
  let most ←
    if (← need .repetitionUnclosed) == ',' then do
      bumpBlanks
      if (← need .repetitionUnclosed) == '}' then pure none else some <$> decimal
    else pure (some least)
  if (← head?) != some '}' then throw .repetitionUnclosed
  bumpBlanks
  let isGreedy ← greedy
  if most.any (· < least) then throw .repetitionInvalid
  return (least, most, isGreedy)

/-- The item that a repetition applies to, and those before it. Items are in reverse. -/
def operand : List Ast → Reader (Ast × List Ast)
  | [] => throw .repetitionMissing
  | .empty :: _ | .flags _ :: _ => throw .repetitionMissing
  | item :: items => return (item, items)

/-! ## Groups -/

/-- What a parenthesis opens. -/
inductive Opening where
  | group (changes : List (Flag × Bool))
  /-- Flags for what follows, up to the end of the group around. -/
  | flags (changes : List (Flag × Bool))

/-- The flags up to a colon or a closing parenthesis. `negated` says that a hyphen was read, and
`dangling` that it was read last. -/
def flagList : Nat → (negated dangling : Bool) → List (Flag × Bool) → Reader (List (Flag × Bool))
  | 0, _, _, _ => throw .flagsUnclosed
  | fuel + 1, negated, dangling, flags => do
    let c ← need .flagsUnclosed
    if c == ':' || c == ')' then
      if dangling then throw .flagDangling
      return flags.reverse
    bump
    if c == '-' then
      if negated then throw .flagDuplicate
      flagList fuel true true flags
    else
      match Flag.ofChar? c with
      | none => throw .flagUnknown
      | some flag =>
        if flags.any (·.1 == flag) then throw .flagDuplicate
        flagList fuel negated false ((flag, !negated) :: flags)

def isNameStart (c : Char) : Bool := c == '_' || Unicode.Property.alphabetic.contains c.toNat

def isNameRest (c : Char) : Bool :=
  isNameStart c || c == '.' || c == '[' || c == ']' || Unicode.Category.number.contains c.toNat

/-- The name of a group and the bracket that closes it. -/
def groupName : Reader Unit := do
  let (name, after) := (← rest).span (· != '>')
  match name with
  | [] => throw .groupNameInvalid
  | c :: cs =>
    if after.isEmpty || !isNameStart c || !cs.all isNameRest then throw .groupNameInvalid
    if (← get).names.contains name then throw .groupNameDuplicate
    modify fun c => { c with rest := after.tail, names := name :: c.names }

/-- The opening of a group, from its parenthesis on. -/
def opening : Reader Opening := do
  bumpBlanks
  if (← bumpIf "?=") || (← bumpIf "?!") || (← bumpIf "?<=") || (← bumpIf "?<!") then
    throw .lookAround
  if (← bumpIf "?P<") || (← bumpIf "?<") then
    groupName
    return .group []
  if ← bumpIf "?" then
    let changes ← flagList ((← rest).length + 1) false false []
    let last ← need .flagsUnclosed
    bump
    if last == ')' then
      if changes.isEmpty then throw .repetitionMissing
      return .flags changes
    return .group changes
  return .group []

/-- What flags say about ignoring white space. -/
def spacingOf (changes : List (Flag × Bool)) : Option Bool := changes.lookup .ignoreWhitespace

def setSpacing (spacing : Bool) : Reader Unit := modify fun c => { c with spacing := spacing }

/-! ## Patterns -/

mutual

/-- Branches, up to a closing parenthesis or the end. -/
def branches : Nat → Reader (List Ast)
  | 0 => throw .groupUnclosed
  | fuel + 1 => do
    let branch := Ast.ofItems (← items fuel [])
    if (← head?) == some '|' then
      bump
      return branch :: (← branches fuel)
    else return [branch]

/-- The items of a branch, after those that `done` holds in reverse. -/
def items : Nat → List Ast → Reader (List Ast)
  | 0, _ => throw .groupUnclosed
  | fuel + 1, done => do
    skipBlanks
    match ← head? with
    | none => return done.reverse
    | some ')' => return done.reverse
    | some '|' => return done.reverse
    | some '(' =>
      match ← opening with
      | .flags changes =>
        if let some spacing := spacingOf changes then setSpacing spacing
        items fuel (.flags changes :: done)
      | .group changes =>
        let outside := (← get).spacing
        setSpacing ((spacingOf changes).getD outside)
        let body := Ast.ofBranches (← branches fuel)
        if (← head?) != some ')' then throw .groupUnclosed
        setSpacing outside
        bump
        items fuel (.group changes body :: done)
    | some '[' => items fuel ((← bracketed) :: done)
    | some '?' =>
      let (body, before) ← operand done
      bump
      items fuel (.repetition body 0 (some 1) (← greedy) :: before)
    | some '*' =>
      let (body, before) ← operand done
      bump
      items fuel (.repetition body 0 none (← greedy) :: before)
    | some '+' =>
      let (body, before) ← operand done
      bump
      items fuel (.repetition body 1 none (← greedy) :: before)
    | some '{' =>
      let (body, before) ← operand done
      let (least, most, isGreedy) ← counts
      items fuel (.repetition body least most isGreedy :: before)
    | some '\\' => items fuel ((← escape) :: done)
    | some '.' =>
      bump
      items fuel (.dot :: done)
    | some '^' =>
      bump
      items fuel (.assertion .lineStart :: done)
    | some '$' =>
      bump
      items fuel (.assertion .lineEnd :: done)
    | some c =>
      bump
      items fuel (.literal { char := c } :: done)

end

end Reader

/-- Reads a pattern. -/
def Ast.read (text : List Char) (ignoreWhitespace octal : Bool) : Except PatternError Ast := do
  let start : Cursor := { rest := text, spacing := ignoreWhitespace, octal := octal }
  let (found, cursor) ← (Reader.branches (2 * text.length + 2)).run start
  if cursor.rest.isEmpty then return .ofBranches found else throw .groupUnopened

end Descent.Pattern
