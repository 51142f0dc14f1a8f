import Descent.Number.Binary64
import Descent.Parser.Matching
import Descent.Unicode.Property

/-!
# Lexers

Ready-made parsers for white space, digits, words and numbers. Each matches a built-in pattern at
the cursor, as long as it goes. The lexers of numbers then convert the text: an integer must fit
64 bits with a sign, and a decimal is rounded to the nearest double-precision number.
-/

namespace Descent

namespace Pattern

open Unicode (CodeSet)

/-- One character of a set. -/
def Expr.oneOf (s : CodeSet) : Expr := .test (.code s)

/-- One character of a set or more. -/
def Expr.someOf (s : CodeSet) : Expr := .plus (oneOf s) true

def asciiDigit : CodeSet := .range 0x30 0x39

/-- White space. -/
def whitespace : Pattern := ofExpr (.someOf Unicode.Property.whiteSpace)

/-- ASCII digits. -/
def digits : Pattern := ofExpr (.someOf asciiDigit)

/-- Characters of words. -/
def word : Pattern := ofExpr (.someOf Unicode.Property.word)

/-- Digits after an optional minus sign. -/
def signedDigits : Expr := .seq (.opt (.oneOf (.single 0x2D)) true) (.someOf asciiDigit)

def integer : Pattern := ofExpr signedDigits

/-- As `integer`, and then an optional point with digits after it. -/
def decimal : Pattern :=
  ofExpr (.seq signedDigits (.opt (.seq (.oneOf (.single 0x2E)) (.someOf asciiDigit)) true))

end Pattern

namespace Parser

def whitespace : Parser String := matching Pattern.whitespace "whitespace"

def digits : Parser String := matching Pattern.digits "digits"

def word : Parser String := matching Pattern.word "word"

variable {α : Type}

/-- Converts the text of a match, and fails behind it if the text is refused. The match and the
answer are parts of the run, each under the watch. -/
def converted (w : Watch) (p : Parser String) (read : List Char → Option α) (label : String) :
    Parser α :=
  (w _ p).bind fun text => (read text.toList).elim (w _ (fail label)) fun v => w _ (succeed v)

def integerUnder (w : Watch) : Parser Int :=
  converted w (matching Pattern.integer "integer") Number.readInt? "integer in range"

def decimalUnder (w : Watch) : Parser UInt64 :=
  converted w (matching Pattern.decimal "number")
    (fun text => (Number.readDecimal? text).map Number.Binary64.ofDecimal) "number"

/-- An integer of 64 bits with a sign. -/
def integer : Parser Int := integerUnder .none

/-- The bits of the double-precision number nearest to a decimal numeral. -/
def decimal : Parser UInt64 := decimalUnder .none

end Parser

end Descent
