import Descent.Proofs.Calculation
import Descent.Proofs.Lexing

/-!
# Integers

A numeral is digits after an optional minus sign. At the front of a text stands a minus sign or
none, and behind it a longest run of digits (`NumeralFront`). Every numeral in front of the text is
this sign with some of these digits, so with a digit at least they are the longest one, and without
a digit there is none.

The lexer of integers matches this longest numeral, however many digits it has. Its value alone
decides what follows: in 64 bits with a sign it is the answer, and otherwise the lexer fails behind
the last digit. An integer that is written out is read back.

Main statement: `Parser.integer_exact`.
-/

namespace Descent

open Calculation (Numeral)
open Number (InRange)

/-! ## Numerals in front of a text -/

/-- The text is a numeral, with whatever value. -/
def IsNumeral (text : List Char) : Prop := ∃ n, Numeral text n

theorem isNumeral_iff {text : List Char} :
    IsNumeral text ↔ ∃ sign digits, text = sign ++ digits ∧ (sign = [] ∨ sign = ['-']) ∧
      digits ≠ [] ∧ ∀ c ∈ digits, c.isDigit := by
  constructor
  · rintro ⟨n, hn⟩
    cases hn with
    | unsigned hne hall => exact ⟨[], text, rfl, .inl rfl, hne, hall⟩
    | @negated digits hne hall => exact ⟨['-'], digits, rfl, .inr rfl, hne, hall⟩
  · rintro ⟨sign, digits, rfl, rfl | rfl, hne, hall⟩
    · exact ⟨_, .unsigned hne hall⟩
    · exact ⟨_, .negated hne hall⟩

/-- A numeral denotes one number. -/
theorem numeral_unique {text : List Char} {n m : Int} (hn : Numeral text n) (hm : Numeral text m) :
    n = m := by
  cases hn with
  | @negated digits =>
    exact (Calculation.numeral_minus_iff.1 hm).2
  | unsigned hne hall =>
    have hminus : ∀ digits, text ≠ '-' :: digits := by
      rintro digits rfl
      exact Bool.false_ne_true (hall '-' List.mem_cons_self)
    exact ((Calculation.numeral_unsigned_iff hminus).1 hm).2

/-- The text begins with a sign, which is a minus if there is one, and then with a longest run of
digits, which may be empty. -/
structure NumeralFront (text sign digits rest : List Char) : Prop where
  text_eq : text = sign ++ digits ++ rest
  isSign : sign = [] ∨ sign = ['-']
  unsigned : sign = [] → text.head? ≠ some '-'
  longest : Pattern.Longest Pattern.asciiDigit digits rest

theorem exists_numeralFront (text : List Char) :
    ∃ sign digits rest, NumeralFront text sign digits rest := by
  by_cases hminus : text.head? = some '-'
  · obtain ⟨body, rfl⟩ := List.head?_eq_some_iff.1 hminus
    obtain ⟨digits, rest, rfl, hlongest⟩ := Pattern.exists_longest Pattern.asciiDigit body
    exact ⟨['-'], digits, rest, rfl, .inr rfl, nofun, hlongest⟩
  · obtain ⟨digits, rest, rfl, hlongest⟩ := Pattern.exists_longest Pattern.asciiDigit text
    exact ⟨[], digits, rest, rfl, .inl rfl, fun _ => hminus, hlongest⟩

namespace NumeralFront

variable {text sign digits rest other : List Char}

/-- Every numeral in front has the same sign, and no more digits. -/
theorem of_prefix (h : NumeralFront text sign digits rest) (hpre : other <+: text)
    (hother : IsNumeral other) :
    ∃ more, other = sign ++ more ∧ more ≠ [] ∧ more.length ≤ digits.length := by
  obtain ⟨sign', more, rfl, hsign', hne, hall⟩ := isNumeral_iff.1 hother
  have hsame : sign' = sign := by
    obtain ⟨d, ds, rfl⟩ := List.exists_cons_of_ne_nil hne
    obtain ⟨after, rfl⟩ := hpre
    rcases hsign' with rfl | rfl <;> rcases h.isSign with rfl | rfl
    · rfl
    · -- The digits would begin with the minus sign.
      obtain rfl : d = '-' := (List.cons_eq_cons.1 h.text_eq).1
      exact (Bool.false_ne_true (hall '-' List.mem_cons_self)).elim
    · exact (h.unsigned rfl rfl).elim
    · rfl
  subst hsame
  rw [h.text_eq, List.append_assoc, List.prefix_append_right_inj] at hpre
  obtain ⟨-, hstop⟩ := Pattern.longest_digits_iff.1 h.longest
  exact ⟨more, rfl, hne, length_le_of_stop hstop hpre hall⟩

/-- With a digit, the sign and the digits are the longest numeral. -/
theorem longestPrefix (h : NumeralFront text sign digits rest) (hne : digits ≠ []) :
    LongestPrefix IsNumeral text (sign ++ digits) where
  isPrefix := ⟨rest, h.text_eq.symm⟩
  member := isNumeral_iff.2
    ⟨sign, digits, rfl, h.isSign, hne, (Pattern.longest_digits_iff.1 h.longest).1⟩
  longest other hpre hother := by
    obtain ⟨more, rfl, -, hle⟩ := h.of_prefix hpre hother
    rw [List.length_append, List.length_append]
    exact Nat.add_le_add_left hle _

/-- Without a digit, there is no numeral. -/
theorem not_isNumeral (h : NumeralFront text sign [] rest) (hpre : other <+: text) :
    ¬ IsNumeral other := by
  intro hother
  obtain ⟨more, -, hne, hle⟩ := h.of_prefix hpre hother
  exact hne (List.length_eq_zero_iff.1 (Nat.le_zero.1 hle))

theorem matchEnd?_integer (h : NumeralFront text sign digits rest) (hne : digits ≠ []) :
    Pattern.integer.matchEnd? text = some (utf8Length (sign ++ digits)) := by
  rw [h.text_eq, Pattern.matchEnd?_integer_iff]
  exact ⟨sign, digits, rfl, h.isSign, hne, h.longest⟩

theorem matchEnd?_integer_of_nil (h : NumeralFront text sign [] rest) :
    Pattern.integer.matchEnd? text = none := by
  rw [Option.eq_none_iff_forall_ne_some]
  intro n hn
  obtain ⟨front, after, htext, rfl⟩ := Pattern.Program.matchEnd?_charUnits hn
  rw [htext, Pattern.matchEnd?_integer_iff] at hn
  obtain ⟨sign', digits, hfront, hsign', hne, hlongest⟩ := hn
  obtain ⟨hall, -⟩ := Pattern.longest_digits_iff.1 hlongest
  exact h.not_isNumeral ⟨after, htext.symm⟩
    (isNumeral_iff.2 ⟨sign', digits, hfront, hsign', hne, hall⟩)

end NumeralFront

/-! ## Written integers -/

/-- A natural number is written by digits that denote it. -/
theorem repr_digits (k : Nat) : k.repr.toList ≠ [] ∧ (∀ c ∈ k.repr.toList, c.isDigit) ∧
    Number.ofDigits 0 k.repr.toList = k := by
  rw [Nat.toList_repr]
  exact ⟨Nat.toDigits_ne_nil, fun _ => Nat.isDigit_of_mem_toDigits (by decide) (by decide),
    Nat.ofDigitChars_ten_toDigits⟩

theorem numeral_toString (n : Int) : Numeral (toString n).toList n := by
  rw [Int.toString_eq_repr, Int.repr_eq_if]
  by_cases hn : 0 ≤ n
  · obtain ⟨hne, hall, hvalue⟩ := repr_digits n.toNat
    have hnumeral := Numeral.unsigned hne hall
    rw [hvalue, Int.toNat_of_nonneg hn] at hnumeral
    rwa [if_pos hn]
  · obtain ⟨hne, hall, hvalue⟩ := repr_digits (-n).toNat
    have hnumeral := Numeral.negated hne hall
    rw [hvalue, Int.toNat_of_nonneg (by omega), Int.neg_neg] at hnumeral
    rwa [if_neg hn, String.toList_append]

theorem utf8Length_le (text : List Char) : utf8Length text ≤ 4 * text.length := by
  induction text with
  | nil => exact Nat.zero_le _
  | cons c text ih =>
    have hc := c.utf8Size_le_four
    rw [utf8Length_cons, List.length_cons]
    omega

/-- An integer of 64 bits with a sign is written with twenty characters at most. -/
theorem length_toString_le {n : Int} (hn : InRange n) : (toString n).toList.length ≤ 20 := by
  have hrepr {k : Nat} (hk : k < 10 ^ 19) : k.repr.length ≤ 19 :=
    (Nat.length_repr_le_iff (by decide)).2 hk
  obtain ⟨hmin, hmax⟩ := hn
  rw [Int.toString_eq_repr, Int.repr_eq_if]
  by_cases hsign : 0 ≤ n
  · have hlength := hrepr (k := n.toNat) (by omega)
    rw [if_pos hsign, String.length_toList]
    omega
  · have hlength := hrepr (k := (-n).toNat) (by omega)
    have hminus : "-".length = 1 := rfl
    rw [if_neg hsign, String.length_toList, String.length_append]
    omega

/-! ## The lexer -/

theorem compile_integer : Pattern.compile "-?[0-9]+" {} = .ok Pattern.integer := by
  have hinteger : Pattern.integer =
    ⟨#[.fork 1 3, .test (.code { bounds := [0x2D, 0x2E] }), .jump 3,
      .test (.code { bounds := [0x30, 0x3A] }), .fork 3 5, .accept], false, false⟩ := rfl
  rw [hinteger]
  decide +kernel

namespace Parser

variable {s : State} {sign digits rest : List Char} {n : Int}

theorem readInt?_of_numeral {text : List Char} (hn : Numeral text n) :
    Number.readInt? text = Number.checked n := by
  by_cases hrange : InRange n
  · rw [Number.checked_of_inRange hrange]
    exact Calculation.readInt?_eq_some_iff.2 ⟨hn, hrange⟩
  · rw [Number.checked, if_neg hrange, Option.eq_none_iff_forall_ne_some]
    intro m hm
    obtain ⟨hnumeral, hrange'⟩ := Calculation.readInt?_eq_some_iff.1 hm
    exact hrange (numeral_unique hn hnumeral ▸ hrange')

/-- Where the pattern of the lexer matches, the value decides. -/
theorem takes_integer (h : NumeralFront s.remaining sign digits rest) (hne : digits ≠ [])
    (hn : Numeral (sign ++ digits) n) :
    integer.Takes s (sign ++ digits) fun u => if InRange n then .success n u else
      .failure (.structural "integer in range" (s.consumed + utf8Length (sign ++ digits))) s := by
  have hmatch := @takes_matching s _ _ _ "integer" h.text_eq (h.matchEnd?_integer hne)
  refine (hmatch.converted _ _).congr fun u hreads => ?_
  rw [readInt?_of_numeral hn, Number.checked, ← hreads.2]
  by_cases hrange : InRange n
  · rw [if_pos hrange, if_pos hrange]
    rfl
  · rw [if_neg hrange, if_neg hrange]
    rfl

/-- There is no numeral, or the longest one decides. -/
theorem integer_cases (s : State) :
    ((∀ t, t <+: s.remaining → ¬ IsNumeral t) ∧
      integer s = .failure (.structural "integer" s.consumed) s) ∨
    ∃ t n, LongestPrefix IsNumeral s.remaining t ∧ Numeral t n ∧
      integer.Takes s t fun u => if InRange n then .success n u else
        .failure (.structural "integer in range" (s.consumed + utf8Length t)) s := by
  obtain ⟨sign, digits, rest, h⟩ := exists_numeralFront s.remaining
  by_cases hne : digits = []
  · subst hne
    refine .inl ⟨fun t => h.not_isNumeral, ?_⟩
    exact converted_of_failure (matching_of_none h.matchEnd?_integer_of_nil)
  · have hlongest := h.longestPrefix hne
    obtain ⟨n, hn⟩ := hlongest.member
    exact .inr ⟨_, n, hlongest, hn, takes_integer h hne hn⟩

/-- An integer that is written out is read back. -/
theorem parse_toString (hn : InRange n) : integer.parse (toString n).toList = .ok n := by
  have hnumeral := numeral_toString n
  rcases integer_cases (.start (toString n).toList) with ⟨hnone, -⟩ | ⟨t, m, hlongest, hm, htakes⟩
  · exact (hnone _ List.prefix_rfl ⟨n, hnumeral⟩).elim
  · -- The whole text is its own longest numeral.
    have hwhole : t = (toString n).toList := hlongest.eq_of_member ⟨n, hnumeral⟩
    obtain rfl : m = n := numeral_unique hm (hwhole ▸ hnumeral)
    have hfits : (State.start (toString m).toList).Fits := by
      have hbytes := utf8Length_le (toString m).toList
      have hlength := length_toString_le hn
      rw [State.fits_start_iff, maxOffset, UInt64.size]
      omega
    obtain ⟨u, hreads, hrun⟩ := htakes.of_fits hfits hlongest.isPrefix
    rw [if_pos hn] at hrun
    have hend : u.remaining = [] := by
      have htext : (toString m).toList = t ++ u.remaining := hreads.1
      rwa [hwhole, List.self_eq_append_right] at htext
    rw [parse, hrun]
    simp [State.atEnd, hend]

/-- **An integer is read from the longest numeral in front, and its value decides.** Where no
numeral stands, the lexer fails at once. Otherwise the value of the longest one is the answer,
however many digits it has, if it is a number of 64 bits with a sign. If it is not, the lexer fails
behind the numeral and hands back the state in front of it. Only where the counter has no room for
the numeral there is no answer. Every number in range is read back from the way it is written. -/
theorem integer_exact :
    Pattern.compile "-?[0-9]+" {} = .ok Pattern.integer ∧
    (∀ s, (∀ t, t <+: s.remaining → ¬ IsNumeral t) ∧
        integer s = .failure (.structural "integer" s.consumed) s ∨
      ∃ t n, LongestPrefix IsNumeral s.remaining t ∧ Numeral t n ∧
        integer.Takes s t fun u => if InRange n then .success n u else
          .failure (.structural "integer in range" (s.consumed + utf8Length t)) s) ∧
    ∀ n : Int, InRange n → integer.parse (toString n).toList = .ok n :=
  ⟨compile_integer, integer_cases, fun _ => parse_toString⟩

/-- The least number is read, and the one above the greatest is not, here behind a zero. -/
theorem integer_exact_bounds :
    let t := "09223372036854775808".toList
    let s := State.start (t ++ [';'])
    integer.parse "-9223372036854775808".toList = .ok (-9223372036854775808) ∧
    LongestPrefix IsNumeral s.remaining t ∧ Numeral t 9223372036854775808 ∧
    integer s = .failure ⟨"integer in range", 20, .structural⟩ s := by
  intro t s
  obtain ⟨-, hcases, hwritten⟩ := integer_exact
  have hleast : "-9223372036854775808".toList = (toString (-9223372036854775808 : Int)).toList := by
    decide +kernel
  have hdigits : ∀ c ∈ t, c.isDigit := by simp [t]
  have hfront : NumeralFront s.remaining [] t [';'] :=
    ⟨rfl, .inl rfl, by decide, Pattern.longest_digits_iff.2 ⟨hdigits, by simp⟩⟩
  have hlongest := hfront.longestPrefix (by decide)
  have hvalue : Number.ofDigits 0 t = 9223372036854775808 := by decide +kernel
  have hnumeral : Numeral t (9223372036854775808 : Nat) :=
    hvalue ▸ .unsigned (by decide) hdigits
  refine ⟨hleast ▸ hwritten _ (by decide), hlongest, hnumeral, ?_⟩
  rcases hcases s with ⟨hnone, -⟩ | ⟨t', n, hlongest', hn, htakes⟩
  · exact (hnone t hlongest.isPrefix hlongest.member).elim
  · obtain rfl : t' = t := hlongest'.unique hlongest
    obtain rfl : n = (9223372036854775808 : Nat) := numeral_unique hn hnumeral
    obtain ⟨u, -, hrun⟩ := htakes.of_fits (by decide) hlongest.isPrefix
    rw [hrun, if_neg (by decide)]
    rfl

/-- At the last offset a numeral in range stands in front, but the counter has no room for it. -/
theorem integer_lastOffset :
    let s : State := ⟨['1'], maxOffset, Nat.le_refl _⟩
    LongestPrefix IsNumeral s.remaining ['1'] ∧ Numeral ['1'] 1 ∧ InRange 1 ∧
      integer s = .fault .offsetOverflow ∧ ¬ ∃ u, integer s = .success 1 u := by
  intro s
  have hdigits : ∀ c ∈ ['1'], c.isDigit := by simp
  have hfront : NumeralFront s.remaining [] ['1'] [] :=
    ⟨rfl, .inl rfl, by decide, Pattern.longest_digits_iff.2 ⟨hdigits, by simp⟩⟩
  have hrun : integer s = .fault .offsetOverflow := rfl
  refine ⟨hfront.longestPrefix (by decide), .unsigned (by decide) hdigits, by decide, hrun, ?_⟩
  rw [hrun]
  rintro ⟨u, ⟨⟩⟩

end Parser

end Descent
