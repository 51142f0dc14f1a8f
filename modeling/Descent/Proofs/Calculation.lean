import Descent.Grammar.Arithmetic
import Descent.Parser.Lexer

/-!
# Calculations and their values

What a calculation is, apart from any parser: a numeral or a parenthesized calculation is a factor,
a chain of factors is a term, and a chain of terms is an expression. White space may stand behind
numerals, operators and closing parentheses. `Derives` gives every calculation its value, which is
missing if a step of it has no result in 64 bits.

The rest of the file ties this to the functions that the grammar uses. A numeral is what
`Number.readInt?` reads, and the value of a chain is what `Value.foldOperators` makes of the values
of its parts.

Main statements: `readInt?_eq_some_iff`, `foldOperators_chain`.
-/

namespace Descent.Calculation

open Number (InRange)

/-! ## The language -/

/-- White space characters. -/
def IsSpace (c : Char) : Prop := Unicode.Property.whiteSpace.contains c.toNat

/-- White space, or nothing. -/
def Blank (text : List Char) : Prop := ∀ c ∈ text, IsSpace c

/-- Digits after an optional minus sign, with the number that they denote. -/
inductive Numeral : List Char → Int → Prop
  | unsigned {digits : List Char} : digits ≠ [] → (∀ c ∈ digits, c.isDigit) →
    Numeral digits (Number.ofDigits 0 digits)
  | negated {digits : List Char} : digits ≠ [] → (∀ c ∈ digits, c.isDigit) →
    Numeral ('-' :: digits) (-(Number.ofDigits 0 digits : Int))

inductive Operator where
  | add
  | sub
  | mul
  | div
deriving DecidableEq

namespace Operator

def symbol : Operator → Char
  | add => '+'
  | sub => '-'
  | mul => '*'
  | div => '/'

/-- The operator as a text. -/
def text : Operator → String
  | add => "+"
  | sub => "-"
  | mul => "*"
  | div => "/"

/-- Operators between terms; the others stand between factors. -/
def additive : Operator → Bool
  | add => true
  | sub => true
  | mul => false
  | div => false

/-- The result in all integers. Division truncates, and there is none by zero. -/
def exact : Operator → Int → Int → Option Int
  | add, a, b => some (a + b)
  | sub, a, b => some (a - b)
  | mul, a, b => some (a * b)
  | div, a, b => if b = 0 then none else some (a.tdiv b)

/-- The result, if there is one in 64 bits. -/
def apply (o : Operator) (a b : Int) : Option Int := (o.exact a b).filter (InRange ·)

theorem toList_text (o : Operator) : o.text.toList = [o.symbol] := by cases o <;> rfl

theorem additive_iff {o : Operator} : o.additive = true ↔ o = add ∨ o = sub := by
  cases o <;> simp [additive]

theorem not_additive_iff {o : Operator} : o.additive = false ↔ o = mul ∨ o = div := by
  cases o <;> simp [additive]

end Operator

/-- An operator, the white space behind it, and the operand on its right. -/
structure Link where
  operator : Operator
  blank : List Char
  operand : List Char
  value : Option Int

namespace Link

def text (l : Link) : List Char := l.operator.symbol :: (l.blank ++ l.operand)

/-- Applies the operator to what is on its left. -/
def apply (left : Option Int) (l : Link) : Option Int := do
  l.operator.apply (← left) (← l.value)

end Link

/-- What can be derived. -/
inductive Symbol where
  | expr
  | term
  | factor

/-- The symbol derives the text, with a value or without one. -/
inductive Derives : Symbol → List Char → Option Int → Prop
  | int {text blank : List Char} {n : Int} : Numeral text n → InRange n → Blank blank →
    Derives .factor (text ++ blank) (some n)
  | parens {text blank : List Char} {v : Option Int} : Derives .expr text v → Blank blank →
    Derives .factor ('(' :: (text ++ ')' :: blank)) v
  | term {text : List Char} {v : Option Int} {links : List Link} : Derives .factor text v →
    (∀ l ∈ links, l.operator.additive = false) → (∀ l ∈ links, Blank l.blank) →
    (∀ l ∈ links, Derives .factor l.operand l.value) →
    Derives .term (text ++ links.flatMap Link.text) (links.foldl Link.apply v)
  | expr {text : List Char} {v : Option Int} {links : List Link} : Derives .term text v →
    (∀ l ∈ links, l.operator.additive = true) → (∀ l ∈ links, Blank l.blank) →
    (∀ l ∈ links, Derives .term l.operand l.value) →
    Derives .expr (text ++ links.flatMap Link.text) (links.foldl Link.apply v)

/-- A link to an operand that the symbol derives, with one of two operators. -/
structure Link.Joins (l : Link) (x : Symbol) (a b : Operator) : Prop where
  operator : l.operator = a ∨ l.operator = b
  blank : Blank l.blank
  operand : Derives x l.operand l.value

/-- A whole calculation, with white space in front. -/
def Program (text : List Char) (v : Option Int) : Prop :=
  ∃ blank rest, text = blank ++ rest ∧ Blank blank ∧ Derives .expr rest v

/-! ## Numerals -/

theorem readNat?_eq_some_iff {text : List Char} {n : Nat} :
    Number.readNat? text = some n ↔
      (text ≠ [] ∧ ∀ c ∈ text, c.isDigit) ∧ Number.ofDigits 0 text = n := by
  simp [Number.readNat?]

theorem numeral_minus_iff {digits : List Char} {n : Int} :
    Numeral ('-' :: digits) n ↔
      (digits ≠ [] ∧ ∀ c ∈ digits, c.isDigit) ∧ -(Number.ofDigits 0 digits : Int) = n := by
  constructor
  · intro h
    cases h with
    | unsigned _ hall => exact (Bool.false_ne_true (hall '-' List.mem_cons_self)).elim
    | negated hne hall => exact ⟨⟨hne, hall⟩, rfl⟩
  · rintro ⟨⟨hne, hall⟩, rfl⟩
    exact .negated hne hall

theorem numeral_unsigned_iff {text : List Char} {n : Int} (h : ∀ digits, text ≠ '-' :: digits) :
    Numeral text n ↔
      (text ≠ [] ∧ ∀ c ∈ text, c.isDigit) ∧ (Number.ofDigits 0 text : Int) = n := by
  constructor
  · intro hn
    cases hn with
    | unsigned hne hall => exact ⟨⟨hne, hall⟩, rfl⟩
    | negated => exact (h _ rfl).elim
  · rintro ⟨⟨hne, hall⟩, rfl⟩
    exact .unsigned hne hall

/-- **Reading an integer is recognizing a numeral in range.** -/
theorem readInt?_eq_some_iff {text : List Char} {n : Int} :
    Number.readInt? text = some n ↔ Numeral text n ∧ InRange n := by
  unfold Number.readInt?
  rw [Number.bind_checked_eq_some_iff]
  refine and_congr_left fun _ => ?_
  split
  · next digits =>
    rw [numeral_minus_iff]
    simp [readNat?_eq_some_iff, and_assoc]
  · next text hminus =>
    rw [numeral_unsigned_iff hminus]
    simp [readNat?_eq_some_iff, and_assoc]

/-! ## Values of chains -/

/-- The value as the grammar yields it. -/
def result (v : Option Int) : Value := (v.map .int).getD .null

/-- A link as the grammar yields it. -/
def Link.entry (l : Link) : Value := .list [.text l.operator.text, result l.value]

theorem operand?_result {v : Option Int} (h : ∀ n ∈ v, InRange n) : (result v).operand? = v := by
  cases v with
  | none => rfl
  | some n =>
    exact Number.checked_of_inRange (h n rfl)

theorem Operator.inRange_of_apply {o : Operator} {a b n : Int} (h : o.apply a b = some n) :
    InRange n := by
  obtain ⟨-, hn⟩ := Option.filter_eq_some_iff.1 h
  simpa using hn

theorem applyOperator_text (o : Operator) (a b : Int) :
    Value.applyOperator o.text a b = o.apply a b := by
  ext n
  rw [Operator.apply, Option.filter_eq_some_iff, decide_eq_true_iff]
  cases o <;> exact Number.bind_checked_eq_some_iff

/-- Values stay in range along a chain. -/
theorem inRange_foldl {links : List Link} {v : Option Int} (h : ∀ n ∈ v, InRange n) :
    ∀ n ∈ links.foldl Link.apply v, InRange n := by
  induction links generalizing v with
  | nil => exact h
  | cons l links ih =>
    refine ih fun n hn => ?_
    rw [Link.apply] at hn
    obtain ⟨a, -, hn⟩ := Option.bind_eq_some_iff.1 hn
    obtain ⟨b, -, hn⟩ := Option.bind_eq_some_iff.1 hn
    exact Operator.inRange_of_apply hn

theorem Derives.inRange {x : Symbol} {text : List Char} {v : Option Int}
    (h : Derives x text v) : ∀ n ∈ v, InRange n := by
  induction h with
  | @int _ _ n _ hrange _ =>
    rintro _ ⟨⟩
    exact hrange
  | parens _ _ ih => exact ih
  | term _ _ _ _ ih => exact inRange_foldl ih
  | expr _ _ _ _ ih => exact inRange_foldl ih

/-- **Folding a chain is applying its links one after the other.** -/
theorem foldOperators_chain {links : List Link} {v : Option Int} (hv : ∀ n ∈ v, InRange n)
    (hlinks : ∀ l ∈ links, ∀ n ∈ l.value, InRange n) :
    Value.foldOperators (.list [result v, .list (links.map Link.entry)]) =
      result (links.foldl Link.apply v) := by
  have hchain : Value.foldChain v (links.map Link.entry) = links.foldl Link.apply v := by
    clear hv
    induction links generalizing v with
    | nil => simp [Value.foldChain]
    | cons l links ih =>
      obtain ⟨hl, hlinks⟩ := List.forall_mem_cons.1 hlinks
      rw [List.map_cons, Link.entry, Value.foldChain, ih hlinks]
      simp only [operand?_result hl, applyOperator_text]
      rfl
  rw [Value.foldOperators, operand?_result hv, hchain]
  rfl

/-! ## First characters -/

theorem Numeral.head {text : List Char} {n : Int} (h : Numeral text n) :
    ∃ c rest, text = c :: rest ∧ (c.isDigit ∨ c = '-') := by
  cases h with
  | unsigned hne hall =>
    obtain ⟨c, rest, rfl⟩ := List.exists_cons_of_ne_nil hne
    exact ⟨c, rest, rfl, .inl (hall c List.mem_cons_self)⟩
  | negated => exact ⟨'-', _, rfl, .inr rfl⟩

theorem Derives.head {x : Symbol} {text : List Char} {v : Option Int} (h : Derives x text v) :
    ∃ c rest, text = c :: rest ∧ (c.isDigit ∨ c = '-' ∨ c = '(') := by
  induction h with
  | int hnumeral =>
    obtain ⟨c, rest, rfl, hc⟩ := hnumeral.head
    exact ⟨c, _, rfl, hc.imp_right .inl⟩
  | parens => exact ⟨'(', _, rfl, .inr (.inr rfl)⟩
  | term _ _ _ _ ih =>
    obtain ⟨c, rest, rfl, hc⟩ := ih
    exact ⟨c, _, rfl, hc⟩
  | expr _ _ _ _ ih =>
    obtain ⟨c, rest, rfl, hc⟩ := ih
    exact ⟨c, _, rfl, hc⟩

/-- A chain is as long as each of its operands. -/
theorem length_operand_le {links : List Link} {l : Link} (hl : l ∈ links) :
    l.operand.length ≤ (links.flatMap Link.text).length := by
  have hoperand : l.operand.length ≤ l.text.length := by
    simp only [Link.text, List.length_cons, List.length_append]
    omega
  have htext : l.text.length ≤ (links.flatMap Link.text).length := by
    rw [List.flatMap_def]
    exact (List.sublist_flatten_of_mem (List.mem_map_of_mem hl)).length_le
  exact Nat.le_trans hoperand htext

/-! ## What may follow -/

namespace Symbol

/-- The operators that stand between parts of a text that the symbol derives. -/
def chains : Symbol → Operator → Bool
  | factor, _ => false
  | term, o => !o.additive
  | expr, _ => true

/-- The character could carry on a text that the symbol derives. -/
def Extends (x : Symbol) (c : Char) : Prop :=
  IsSpace c ∨ c.isDigit ∨ ∃ o, x.chains o ∧ c = o.symbol

/-- What follows does not carry on a text that the symbol derives. -/
def Stops (x : Symbol) (rest : List Char) : Prop := ∀ c ∈ rest.head?, ¬ x.Extends c

/-- The symbol `x` derives chains of what `y` derives, with the operators `a` and `b`. -/
structure Level (x y : Symbol) (a b : Operator) : Prop where
  chains_iff (o : Operator) : x.chains o ↔ y.chains o ∨ o = a ∨ o = b
  left : y.chains a = false
  right : y.chains b = false
  ne : a ≠ b

theorem level_term : Level term factor .mul .div where
  chains_iff o := by cases o <;> simp [chains, Operator.additive]
  left := rfl
  right := rfl
  ne := nofun

theorem level_expr : Level expr term .add .sub where
  chains_iff o := by cases o <;> simp [chains, Operator.additive]
  left := rfl
  right := rfl
  ne := nofun

end Symbol

theorem Operator.symbol_injective {o o' : Operator} (h : o.symbol = o'.symbol) : o = o' := by
  cases o <;> cases o' <;> first | rfl | cases h

theorem Operator.not_isSpace_symbol (o : Operator) : ¬ IsSpace o.symbol := by
  cases o <;> unfold IsSpace <;> decide

theorem Operator.not_isDigit_symbol (o : Operator) : ¬ o.symbol.isDigit := by
  cases o <;> decide

theorem isDigit_iff {c : Char} : c.isDigit ↔ 48 ≤ c.toNat ∧ c.toNat ≤ 57 := by
  simp [Char.isDigit, UInt32.le_iff_toNat_le]

theorem not_isSpace_of_isDigit {c : Char} (h : c.isDigit) : ¬ IsSpace c := by
  have hdigits : ∀ n < 58, 48 ≤ n → ¬ Unicode.Property.whiteSpace.contains n := by decide
  obtain ⟨hle, hge⟩ := isDigit_iff.1 h
  exact hdigits c.toNat (by omega) hle

namespace Symbol

variable {x y : Symbol} {a b : Operator} {rest : List Char}

theorem Stops.not_isSpace (h : x.Stops rest) : ∀ c ∈ rest.head?, ¬ IsSpace c :=
  fun c hc hspace => h c hc (.inl hspace)

theorem Stops.not_isDigit (h : x.Stops rest) : ∀ c ∈ rest.head?, ¬ c.isDigit :=
  fun c hc hdigit => h c hc (.inr (.inl hdigit))

theorem Stops.ne_symbol (h : x.Stops rest) {o : Operator} (ho : x.chains o) :
    ∀ c ∈ rest.head?, c ≠ o.symbol := fun c hc heq => h c hc (.inr (.inr ⟨o, ho, heq⟩))

/-- What ends a chain ends its last part. -/
theorem Stops.part (hxy : x.Level y a b) (h : x.Stops rest) : y.Stops rest := by
  rintro c hc (hspace | hdigit | ⟨o, ho, heq⟩)
  · exact h.not_isSpace c hc hspace
  · exact h.not_isDigit c hc hdigit
  · exact h.ne_symbol ((hxy.chains_iff o).2 (.inl ho)) c hc heq

/-- A part of a chain ends where an operator of the chain follows. -/
theorem stops_symbol (hxy : x.Level y a b) {o : Operator} (ho : o = a ∨ o = b)
    (rest : List Char) : y.Stops (o.symbol :: rest) := by
  rintro _ ⟨⟩ (hspace | hdigit | ⟨o', ho', heq⟩)
  · exact o.not_isSpace_symbol hspace
  · exact o.not_isDigit_symbol hdigit
  · obtain rfl := Operator.symbol_injective heq
    rcases ho with rfl | rfl
    · exact Bool.false_ne_true (hxy.left.symm.trans ho')
    · exact Bool.false_ne_true (hxy.right.symm.trans ho')

/-- Nothing goes on at a closing parenthesis. -/
theorem stops_parenthesis (rest : List Char) : x.Stops (')' :: rest) := by
  rintro _ ⟨⟩ (hspace | hdigit | ⟨o, -, heq⟩)
  · revert hspace
    unfold IsSpace
    decide
  · exact Bool.false_ne_true hdigit
  · cases o <;> cases heq

/-- A part of a chain ends where the rest of the chain follows. -/
theorem stops_links (hxy : x.Level y a b) {links : List Link}
    (hlinks : ∀ l ∈ links, l.Joins y a b) (h : x.Stops rest) :
    y.Stops (links.flatMap Link.text ++ rest) := by
  cases links with
  | nil => exact h.part hxy
  | cons l links => exact stops_symbol hxy (hlinks l List.mem_cons_self).operator _

end Symbol

/-- No white space stands in front of what is derived. -/
theorem Derives.not_isSpace_head {x : Symbol} {text rest : List Char} {v : Option Int}
    (h : Derives x text v) : ∀ c ∈ (text ++ rest).head?, ¬ IsSpace c := by
  obtain ⟨c, tail, rfl, hc⟩ := h.head
  rintro _ ⟨⟩
  rcases hc with hdigit | rfl | rfl
  · exact not_isSpace_of_isDigit hdigit
  · exact Operator.sub.not_isSpace_symbol
  · unfold IsSpace
    decide

end Descent.Calculation
