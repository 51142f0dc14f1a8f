/-!
# Nestings

Things in order can be put in brackets two at a time in more than one way. A combinator of two
parsers is applied to any number of them along such a nesting, and what matters in the end is
often the order of its leaves alone.

Where two parsers yield a pair, a nesting of parsers yields nested pairs of the same shape.
-/

namespace Descent

/-- Things in order, put in brackets two at a time. -/
inductive Nesting (ι : Type) where
  | single (a : ι)
  | pair (left right : Nesting ι)

namespace Nesting

variable {ι : Type}

def leaves : Nesting ι → List ι
  | single a => [a]
  | pair left right => left.leaves ++ right.leaves

theorem leaves_ne_nil (n : Nesting ι) : n.leaves ≠ [] := by
  induction n with
  | single a => exact List.cons_ne_nil a []
  | pair left right ihl _ => exact List.append_ne_nil_of_left_ne_nil ihl _

/-- Nested pairs in the shape of a nesting, with a value at every leaf. -/
def Values (α : Type) : Nesting ι → Type
  | single _ => α
  | pair left right => left.Values α × right.Values α

/-- The values of nested pairs in order. -/
def Values.toList {α : Type} : (n : Nesting ι) → n.Values α → List α
  | single _, v => [v]
  | pair left right, (v, w) => toList left v ++ toList right w

end Nesting

end Descent
