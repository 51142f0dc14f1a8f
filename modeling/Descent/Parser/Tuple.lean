import Descent.Parser.Combinator

/-!
# Sequences of other shapes

`sequence` runs the parsers of a list. The parsers to be run in order may also stand in an array,
whose length is part of its type, or in a tuple, where each of them has values of a type of its
own. An array yields the list of the values, and a tuple yields the tuple of them.
-/

namespace Descent.Parser

variable {α : Type}

/-- Two or more parsers in order. The index is the type of the tuple of their values. -/
inductive Tuple : Type → Type 1
  | pair {α β : Type} (p : Parser α) (q : Parser β) : Tuple (α × β)
  | cons {α β : Type} (p : Parser α) (ps : Tuple β) : Tuple (α × β)

/-- Runs every parser from where the one before it stopped. -/
def Tuple.run {α : Type} : Tuple α → Parser α
  | pair p q, s => (p s).bind fun v s' => (q s').map fun w => (v, w)
  | cons p ps, s => (p s).bind fun v s' => (ps.run s').map fun vs => (v, vs)

/-- Runs all of the parsers in order and yields the tuple of their values. -/
def tuple (ps : Tuple α) : Parser α := fun s => (ps.run s).restart s

/-- Runs all of the parsers in order and lists their values. -/
def array {n : Nat} (ps : Vector (Parser α) n) : Parser (List α) := sequence ps.toList

end Descent.Parser
