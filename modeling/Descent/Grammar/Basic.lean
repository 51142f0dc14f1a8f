import Descent.Parser.Custom
import Descent.Parser.Lexer
import Descent.Parser.Repetition

/-!
# Grammars

A grammar is a description of a parser that can be inspected, and whose parts may refer to rules
by name. Rules may refer to each other and to themselves.

`Grammar.parser` gives the parser that a grammar describes, for given parsers of the rules. It is
the case without a watch of `Grammar.watched`, which puts a watch around the parser of every part.
The rules themselves are unfolded to a depth: at depth 0 a rule does not answer, and at depth
`n + 1` it is its body over the rules at depth `n`. A run that answers at some depth gives the same
answer at every greater one, and `Grammar.run` chooses a depth that is enough for every run that
ends.
-/

namespace Descent

/-- The lexers that a grammar can use. -/
inductive Lexeme where
  | whitespace
  | digits
  | word
  | integer
  | decimal
deriving DecidableEq, Repr

/-- A description of a parser. -/
inductive Grammar where
  | literal (text : String)
  | pattern (p : Pattern) (label : String)
  | eof
  | lexeme (l : Lexeme)
  | succeed (v : Value)
  | fail (label : String)
  /-- The rule of a name. -/
  | rule (name : String)
  | map (of : Grammar) (f : Value → Value)
  | bind (of : Grammar) (next : Value → Grammar)
  | product (first second : Grammar)
  | skip (of trailing : Grammar)
  | andThen (of next : Grammar)
  | sequence (items : List Grammar)
  | alternatives (items : List Grammar)
  | desc (of : Grammar) (label : String)
  | surroundedBy (of : Grammar) (before after : String)
  | times (of : Grammar) (least most : Nat)
  | optional (of : Grammar)
  /-- Elements with delimiters between them. -/
  | delimited (of : Grammar) (atLeastOne : Bool) (delimiter : Option Grammar)
  /-- A parser written by hand. -/
  | custom (p : Parser Value)

/-- The parser of a lexer, with its value among the values of the grammar language, under a
watch. -/
def Lexeme.watched (w : Watch) : Lexeme → Parser Value
  | whitespace => w _ (Parser.whitespace.map .text)
  | digits => w _ (Parser.digits.map .text)
  | word => w _ (Parser.word.map .text)
  | integer => w _ ((Parser.integerUnder w).map .int)
  | decimal => w _ ((Parser.decimalUnder w).map .float)

def Lexeme.parser (l : Lexeme) : Parser Value := l.watched .none

namespace Grammar

/-! ## Further forms -/

def value (of : Grammar) (v : Value) : Grammar := of.map fun _ => v

def orElse (of other : Grammar) : Grammar := alternatives [of, other]

def exactly (of : Grammar) (count : Nat) : Grammar := of.times count count

def atMost (of : Grammar) (most : Nat) : Grammar := of.times 0 most

def oneOrMore (of : Grammar) (d : Parser.Delimiter Grammar) : Grammar :=
  of.delimited true (d.resolve literal)

def zeroOrMore (of : Grammar) (d : Parser.Delimiter Grammar) : Grammar :=
  of.delimited false (d.resolve literal)

/-! ## The parser of a grammar -/

mutual

/-- The parser that a grammar describes, where `rules` gives the parser of every rule, with a watch
around every part. -/
def watched (w : Watch) (rules : String → Parser Value) : Grammar → Parser Value
  | literal text => w _ ((Parser.literal text).map .text)
  | pattern p label => w _ ((Parser.matching p label).map .text)
  | eof => w _ (Parser.eof.map .text)
  | lexeme l => l.watched w
  | succeed v => w _ (Parser.succeed v)
  | fail label => w _ (Parser.fail label)
  | rule name => w _ (rules name)
  | map of f => w _ ((of.watched w rules).map f)
  | bind of next => w _ ((of.watched w rules).bind fun v => (next v).watched w rules)
  | product first second =>
    w _ (((first.watched w rules).product (second.watched w rules)).map .pair)
  | skip of trailing => w _ ((of.watched w rules).skip (trailing.watched w rules))
  | andThen of next => w _ ((of.watched w rules).andThen (next.watched w rules))
  | sequence items => w _ ((Parser.sequence (watchedAll w rules items)).map .list)
  | alternatives items => w _ (Parser.alternatives (watchedAll w rules items))
  | desc of label => w _ ((of.watched w rules).desc label)
  | surroundedBy of before after =>
    w _ ((of.watched w rules).between (w _ (Parser.literal before)) (w _ (Parser.literal after)))
  | times of least most => w _ (((of.watched w rules).times least most).map .list)
  | optional of => w _ ((of.watched w rules).optional.map .ofOption)
  | delimited of atLeastOne .none =>
    w _ (((of.watched w rules).delimited atLeastOne (.none : Option (Parser Value))).map .list)
  | delimited of atLeastOne (some d) =>
    w _ (((of.watched w rules).delimited atLeastOne (some (d.watched w rules))).map .list)
  | custom p => w _ p

/-- The watched parsers of a list of grammars. -/
def watchedAll (w : Watch) (rules : String → Parser Value) : List Grammar → List (Parser Value)
  | [] => []
  | g :: gs => g.watched w rules :: watchedAll w rules gs

end

/-- The parser that a grammar describes, where `rules` gives the parser of every rule. -/
def parser (rules : String → Parser Value) (g : Grammar) : Parser Value := g.watched .none rules

end Grammar

/-! ## Rules -/

/-- Named grammars that may refer to each other. -/
structure Rules where
  entries : List (String × Grammar)

namespace Rules

/-- The body of a rule. A name without a rule matches nothing. -/
def body (rules : Rules) (name : String) : Grammar :=
  (rules.entries.lookup name).getD (.fail ("rule " ++ name))

/-- The parser of a rule, unfolded to a depth, with a watch around every part. -/
def watched (w : Watch) (rules : Rules) : (depth : Nat) → String → Parser Value
  | 0, _ => fun _ => .unfinished
  | depth + 1, name => (rules.body name).watched w (rules.watched w depth)

/-- The parser of a rule, unfolded to a depth. -/
def unfold (rules : Rules) (depth : Nat) : String → Parser Value := rules.watched .none depth

theorem unfold_succ (rules : Rules) (depth : Nat) (name : String) :
    rules.unfold (depth + 1) name = (rules.body name).parser (rules.unfold depth) := rfl

/-- A depth that no run from a state exceeds if it ends. A run that goes deeper is inside the same
rule at the same state twice, if its parsers only move forward, and so goes on forever. -/
def depth (rules : Rules) (s : State) : Nat :=
  (s.remaining.length + 1) * UInt64.size * (rules.entries.length + 1)

end Rules

namespace Grammar

/-- The parser of a grammar over rules. -/
def run (g : Grammar) (rules : Rules) : Parser Value := fun s =>
  g.parser (rules.unfold (rules.depth s)) s

end Grammar

end Descent
