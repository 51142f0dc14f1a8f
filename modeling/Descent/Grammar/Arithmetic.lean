import Descent.Grammar.Basic

/-!
# Arithmetic

The grammar of calculations with four operators and parentheses. A chain of operands at each of two
levels gives the operators their precedence, and its value is worked out from left to right. The
rule `expr` stands inside parentheses, so that they nest.

White space may follow every numeral, operator and closing parenthesis, and stand in front of the
whole.
-/

namespace Descent.Grammar.Arithmetic

/-- White space, if there is any. -/
def blank : Grammar := .optional (.lexeme .whitespace)

/-- A fixed text with white space after it. -/
def token (text : String) : Grammar := .skip (.literal text) blank

/-- An operator and the operand on its right. -/
def link (operand : Grammar) (a b : String) : Grammar :=
  .product (.orElse (token a) (token b)) operand

/-- Operands with one of two operators between them. -/
def chain (operand : Grammar) (a b : String) : Grammar :=
  .map (.product operand (.zeroOrMore (link operand a b) {})) Value.foldOperators

def numeral : Grammar := .skip (.lexeme .integer) blank

def parenthesized : Grammar :=
  .desc (.skip (.surroundedBy (.rule "expr") "(" ")") blank) "parenthesized expression"

def factor : Grammar := .alternatives [numeral, parenthesized]

def term : Grammar := chain factor "*" "/"

def expr : Grammar := chain term "+" "-"

/-- What the name `expr` inside parentheses refers to. -/
def rules : Rules := ⟨[("expr", expr)]⟩

/-- A whole calculation. -/
def program : Grammar := .skip (.andThen blank expr) .eof

end Descent.Grammar.Arithmetic
