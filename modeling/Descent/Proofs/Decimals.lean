import Descent.Proofs.Integers
import Mathlib.Data.List.TakeDrop

/-!
# Decimals

Behind the longest numeral in front of a text the lexer of decimals reads a fraction, which is a
point with a longest run of digits behind it, or nothing where no digit stands behind a point
(`Fraction`). Its program waits at two points between digits, for another digit and for the point.
What has been read so far matches, so a point without digits behind it is left over.

The text that is matched is always a number in the format for double precision (`Number.FloatText`),
and it is read as such. So the lexer succeeds exactly where a numeral stands in front, also where
its value is out of range for an integer.

Main statement: `Parser.decimal_exact`.
-/

namespace Descent

/-! ## Numbers in double precision -/

namespace Number

/-- A sign of either kind, or nothing. -/
def IsSign (text : List Char) : Prop := text = [] ∨ text = ['+'] ∨ text = ['-']

/-- Digits, with a point in front of them, among them or behind them, or without one. -/
inductive Mantissa : List Char → Prop
  | whole {digits : List Char} : digits ≠ [] → (∀ c ∈ digits, c.isDigit) → Mantissa digits
  | point {whole fraction : List Char} : whole ++ fraction ≠ [] →
    (∀ c ∈ whole ++ fraction, c.isDigit) → Mantissa (whole ++ '.' :: fraction)

/-- A power of ten, or nothing. -/
inductive Exponent : List Char → Prop
  | none : Exponent []
  | power {e : Char} {sign digits : List Char} : e.toLower = 'e' → IsSign sign → digits ≠ [] →
    (∀ c ∈ digits, c.isDigit) → Exponent (e :: (sign ++ digits))

/-- The texts that denote a number in double precision. -/
inductive FloatText : List Char → Prop
  | finite {sign mantissa exponent : List Char} : IsSign sign → Mantissa mantissa →
    Exponent exponent → FloatText (sign ++ mantissa ++ exponent)
  | named {sign name : List Char} : IsSign sign →
    String.ofList (name.map Char.toLower) ∈ ["inf", "infinity", "nan"] → FloatText (sign ++ name)

end Number

/-! ## Fractions -/

/-- A fraction at the front of `fraction ++ rest`: a point and a longest run of digits, or nothing
if no digit stands behind a point. -/
inductive Fraction : List Char → List Char → Prop
  | none {rest : List Char} : (∀ c after, rest = '.' :: c :: after → ¬ c.isDigit) → Fraction [] rest
  | point {digits rest : List Char} : digits ≠ [] →
    Pattern.Longest Pattern.asciiDigit digits rest → Fraction ('.' :: digits) rest

theorem exists_fraction (text : List Char) :
    ∃ fraction rest, text = fraction ++ rest ∧ Fraction fraction rest := by
  by_cases hpoint : ∃ c after, text = '.' :: c :: after ∧ c.isDigit
  · obtain ⟨c, after, rfl, hc⟩ := hpoint
    obtain ⟨digits, rest, hbody, hlongest⟩ :=
      Pattern.exists_longest Pattern.asciiDigit (c :: after)
    refine ⟨'.' :: digits, rest, by rw [hbody]; rfl, .point ?_ hlongest⟩
    rintro rfl
    rw [List.nil_append] at hbody
    subst hbody
    exact (Pattern.longest_digits_iff.1 hlongest).2 c rfl hc
  · exact ⟨[], text, rfl, .none fun c after htext hc => hpoint ⟨c, after, htext, hc⟩⟩

theorem Fraction.unique {fraction rest fraction' rest' : List Char} (h : Fraction fraction rest)
    (h' : Fraction fraction' rest') (htext : fraction ++ rest = fraction' ++ rest') :
    fraction = fraction' := by
  -- A fraction has a digit behind its point.
  have hdigit {digits after : List Char} (hne : digits ≠ [])
      (hlongest : Pattern.Longest Pattern.asciiDigit digits after) :
      ∃ c more, '.' :: (digits ++ after) = '.' :: c :: more ∧ c.isDigit := by
    obtain ⟨c, digits, rfl⟩ := List.exists_cons_of_ne_nil hne
    exact ⟨c, digits ++ after, rfl,
      (Pattern.longest_digits_iff.1 hlongest).1 c List.mem_cons_self⟩
  cases h with
  | none hnone =>
    cases h' with
    | none => rfl
    | point hne hlongest =>
      obtain ⟨c, more, hmore, hc⟩ := hdigit hne hlongest
      exact (hnone c more (htext.trans hmore) hc).elim
  | point hne hlongest =>
    cases h' with
    | none hnone =>
      obtain ⟨c, more, hmore, hc⟩ := hdigit hne hlongest
      exact (hnone c more (htext.symm.trans hmore) hc).elim
    | point _ hlongest' =>
      rw [List.cons_append, List.cons_append, List.cons_eq_cons] at htext
      rw [← Pattern.run_eq_of_longest hlongest, ← Pattern.run_eq_of_longest hlongest', htext.2]

theorem Fraction.nil_or_digits {fraction rest : List Char} (h : Fraction fraction rest) :
    fraction = [] ∨ ∃ more, fraction = '.' :: more ∧ more ≠ [] ∧ ∀ c ∈ more, c.isDigit := by
  cases h with
  | none => exact .inl rfl
  | @point more _ hne hlongest =>
    exact .inr ⟨more, rfl, hne, (Pattern.longest_digits_iff.1 hlongest).1⟩

section Numeral

variable {numeral digits fraction rest : List Char}

theorem readUnsigned?_fraction (negative : Bool) (hne : digits ≠ [])
    (hall : ∀ c ∈ digits, c.isDigit) (h : Fraction fraction rest) :
    ∃ d, Number.readUnsigned? negative (digits ++ fraction) = some d := by
  have hwhole := Calculation.readNat?_eq_some_iff.2 ⟨⟨hne, hall⟩, rfl⟩
  have hspan : (digits ++ fraction).span Char.isDigit =
      (digits ++ fraction.takeWhile Char.isDigit, fraction.dropWhile Char.isDigit) := by
    rw [List.span_eq_takeWhile_dropWhile, List.takeWhile_append_of_pos hall,
      List.dropWhile_append_of_pos hall]
  rw [Number.readUnsigned?, hspan]
  rcases h.nil_or_digits with rfl | ⟨more, rfl, hmore, hmoreDigits⟩
  · exact ⟨⟨negative, Number.ofDigits 0 digits, 0⟩, by simp [hwhole]⟩
  · have hpart := Calculation.readNat?_eq_some_iff.2 ⟨⟨hmore, hmoreDigits⟩, rfl⟩
    exact ⟨⟨negative, Number.ofDigits (Number.ofDigits 0 digits) more, more.length⟩,
      by simp [hwhole, hpart]⟩

/-- Every numeral with a fraction is read. -/
theorem readDecimal?_fraction (hnumeral : IsNumeral numeral) (h : Fraction fraction rest) :
    ∃ d, Number.readDecimal? (numeral ++ fraction) = some d := by
  obtain ⟨sign, digits, rfl, rfl | rfl, hne, hall⟩ := isNumeral_iff.1 hnumeral
  · obtain ⟨c, digits, rfl⟩ := List.exists_cons_of_ne_nil hne
    have hc : c ≠ '-' := by
      rintro rfl
      exact Bool.false_ne_true (hall '-' List.mem_cons_self)
    unfold Number.readDecimal?
    split
    · next text htext => exact (hc (List.cons_eq_cons.1 htext).1).elim
    · exact readUnsigned?_fraction false hne hall h
  · exact readUnsigned?_fraction true hne hall h

/-- Every numeral with a fraction denotes a number in double precision. -/
theorem floatText_fraction (hnumeral : IsNumeral numeral) (h : Fraction fraction rest) :
    Number.FloatText (numeral ++ fraction) := by
  obtain ⟨sign, digits, rfl, hsign, hne, hall⟩ := isNumeral_iff.1 hnumeral
  have hmantissa : Number.Mantissa (digits ++ fraction) := by
    rcases h.nil_or_digits with rfl | ⟨more, rfl, -, hmore⟩
    · rw [List.append_nil]
      exact .whole hne hall
    · refine .point (List.append_ne_nil_of_left_ne_nil hne more) fun c hc => ?_
      exact (List.mem_append.1 hc).elim (hall c) (hmore c)
  have hfinite := Number.FloatText.finite (hsign.imp_right .inr) hmantissa .none
  rwa [List.append_nil, ← List.append_assoc] at hfinite

end Numeral

/-! ## The program -/

namespace Pattern

open Program

theorem program_decimal : decimal.program =
    #[.fork 1 3, .test (.code (.single 0x2D)), .jump 3, .test (.code asciiDigit), .fork 3 5,
      .fork 6 10, .test (.code (.single 0x2E)), .test (.code asciiDigit), .fork 7 9, .jump 10,
      .accept] := rfl

theorem loopsTo_decimal : Program.LoopsTo decimal.program 7 10 asciiDigit where
  test := rfl
  again _ _ := by rw [program_decimal]; rfl
  accept := rfl

/-- Behind a digit what has been read matches, and a digit or the point may come next. -/
theorem settle_decimal (before after : Side) (offset : Nat) (best : Option Nat) :
    Run.settle decimal.program ⟨decimal.program.threadsFrom before after [4], offset, best⟩ =
      ⟨[3, 6], offset, some offset⟩ := by
  rw [program_decimal]
  rfl

theorem advance_decimal (c : Char) :
    decimal.program.advance ⟨c.toNat, c, true, c.utf8Size⟩ [3, 6] =
      if asciiDigit.contains c.toNat then [4] else if c = '.' then [7] else [] := by
  have hdigit : decimal.program.instr? 3 = some (.test (.code asciiDigit)) := rfl
  have hpoint : decimal.program.instr? 6 = some (.test (.code (.single 0x2E))) := rfl
  have hc : (Unicode.CodeSet.single 0x2E).contains c.toNat ↔ c = '.' :=
    Unicode.CodeSet.contains_single.trans (@Char.toNat_inj c '.')
  by_cases h : c = '.'
  · subst h
    rfl
  · by_cases h' : asciiDigit.contains c.toNat <;>
      simp [Program.advance, hdigit, hpoint, Test.passes, h, h', hc]

variable {text sign digits fraction rest : List Char}

/-- The run passes more digits. -/
theorem finish_digits (hall : ∀ c ∈ digits, asciiDigit.contains c.toNat) (rest : List Char)
    (offset : Nat) :
    decimal.program.finish charUnits (digits ++ rest) ⟨[3, 6], offset, some offset⟩ =
      decimal.program.finish charUnits rest
        ⟨[3, 6], offset + utf8Length digits, some (offset + utf8Length digits)⟩ := by
  induction digits generalizing offset with
  | nil => rfl
  | cons c digits ih =>
    have hpoints := advance_decimal c
    rw [if_pos (hall c List.mem_cons_self)] at hpoints
    rw [List.cons_append, finish_cons (List.cons_ne_nil _ _) hpoints, settle_decimal,
      ih fun d hd => hall d (List.mem_cons_of_mem c hd), utf8Length_cons, Nat.add_assoc]

/-- Behind the digits the run matches the fraction. -/
theorem finish_fraction (hfraction : Fraction fraction rest)
    (hstop : ∀ c ∈ (fraction ++ rest).head?, ¬ asciiDigit.contains c.toNat) (offset : Nat) :
    decimal.program.finish charUnits (fraction ++ rest) ⟨[3, 6], offset, some offset⟩ =
      some (offset + utf8Length fraction) := by
  -- The point leaves what has been matched as it is, until a digit stands behind it.
  have hpoint (text : List Char) :
      decimal.program.finish charUnits ('.' :: text) ⟨[3, 6], offset, some offset⟩ =
        if run asciiDigit text = [] then some offset
        else some (offset + 1 + utf8Length (run asciiDigit text)) := by
    rw [finish_cons (List.cons_ne_nil _ _) (advance_decimal '.'), ← loopsTo_decimal.finish_eq]
    rfl
  cases hfraction with
  | @point digits _ hne hlongest =>
    rw [List.cons_append, hpoint, run_eq_of_longest hlongest, if_neg hne, utf8Length_cons,
      Nat.add_assoc]
    rfl
  | none hdigit =>
    cases rest with
    | nil => rfl
    | cons c rest =>
      have hpoints := advance_decimal c
      rw [if_neg (hstop c rfl)] at hpoints
      by_cases hc : c = '.'
      · subst hc
        have hrun : run asciiDigit rest = [] := by
          refine run_of_stop fun d hd => ?_
          obtain ⟨after, rfl⟩ := List.head?_eq_some_iff.1 hd
          exact mt contains_asciiDigit_iff.1 (hdigit d after rfl)
        rw [List.nil_append, hpoint, if_pos hrun]
        rfl
      · rw [if_neg hc] at hpoints
        exact finish_cons_of_stuck hpoints rest

/-- Behind the sign the program waits for a digit, and for nothing else. -/
theorem exists_threads_decimal (h : NumeralFront text sign digits rest) : ∃ threads ≠ [],
      (∀ c ∈ (digits ++ rest).head?,
        decimal.program.advance ⟨c.toNat, c, true, c.utf8Size⟩ threads =
          if asciiDigit.contains c.toNat then [4] else []) ∧
      decimal.matchEnd? text =
        decimal.program.finish charUnits (digits ++ rest) ⟨threads, utf8Length sign, none⟩ := by
  have hdigit : decimal.program.instr? 3 = some (.test (.code asciiDigit)) := rfl
  obtain ⟨rfl, rfl | rfl, hunsigned, -⟩ := h
  · refine ⟨[1, 3], List.cons_ne_nil _ _, fun c hc => ?_, rfl⟩
    refine advance_sign ?_ rfl hdigit
    rintro rfl
    exact hunsigned rfl hc
  · refine ⟨[3], List.cons_ne_nil _ _, fun c _ => ?_, rfl⟩
    by_cases hc : asciiDigit.contains c.toNat <;> simp [Program.advance, hdigit, Test.passes, hc]

/-- **A decimal is matched by the longest numeral and the fraction behind it.** -/
theorem matchEnd?_decimal (h : NumeralFront text sign digits (fraction ++ rest))
    (hne : digits ≠ []) (hfraction : Fraction fraction rest) :
    decimal.matchEnd? text = some (utf8Length (sign ++ digits ++ fraction)) := by
  obtain ⟨threads, hthreads, hpoints, hrun⟩ := exists_threads_decimal h
  obtain ⟨c, digits, rfl⟩ := List.exists_cons_of_ne_nil hne
  have hc := hpoints c rfl
  rw [if_pos (h.longest.members c List.mem_cons_self)] at hc
  have hdigits : ∀ d ∈ digits, asciiDigit.contains d.toNat :=
    fun d hd => h.longest.members d (List.mem_cons_of_mem c hd)
  rw [hrun, List.cons_append, finish_cons hthreads hc, settle_decimal, finish_digits hdigits,
    finish_fraction hfraction h.longest.stop]
  simp only [utf8Length_append, utf8Length_cons, Nat.add_assoc]

theorem matchEnd?_decimal_of_nil (h : NumeralFront text sign [] rest) :
    decimal.matchEnd? text = none := by
  obtain ⟨threads, -, hpoints, hrun⟩ := exists_threads_decimal h
  rw [hrun]
  cases rest with
  | nil => rfl
  | cons c rest =>
    have hc := hpoints c rfl
    rw [if_neg (h.longest.stop c rfl)] at hc
    exact finish_cons_of_stuck hc rest

end Pattern

/-! ## The lexer -/

theorem compile_decimal :
    Pattern.compile "-?[0-9]+(\\.[0-9]+)?" {} = .ok Pattern.decimal := by
  -- With the sets written out the two programs are compared by evaluation.
  have hdecimal : Pattern.decimal =
    ⟨#[.fork 1 3, .test (.code { bounds := [0x2D, 0x2E] }), .jump 3,
      .test (.code { bounds := [0x30, 0x3A] }), .fork 3 5, .fork 6 10,
      .test (.code { bounds := [0x2E, 0x2F] }), .test (.code { bounds := [0x30, 0x3A] }),
      .fork 7 9, .jump 10, .accept], false, false⟩ := rfl
  rw [hdecimal]
  decide +kernel

/-- An optional minus sign and a digit stand in front. -/
def BeginsNumeral (text : List Char) : Prop :=
  ∃ sign c rest, text = sign ++ c :: rest ∧ (sign = [] ∨ sign = ['-']) ∧ c.isDigit

theorem beginsNumeral_iff {text : List Char} :
    BeginsNumeral text ↔ ∃ t, t <+: text ∧ IsNumeral t := by
  constructor
  · rintro ⟨sign, c, rest, rfl, hsign, hc⟩
    refine ⟨sign ++ [c], ⟨rest, by simp⟩, isNumeral_iff.2 ?_⟩
    exact ⟨sign, [c], rfl, hsign, List.cons_ne_nil _ _, by simpa using hc⟩
  · rintro ⟨t, ⟨rest, rfl⟩, ht⟩
    obtain ⟨sign, digits, rfl, hsign, hne, hall⟩ := isNumeral_iff.1 ht
    obtain ⟨c, digits, rfl⟩ := List.exists_cons_of_ne_nil hne
    exact ⟨sign, c, digits ++ rest, by simp, hsign, hall c List.mem_cons_self⟩

theorem NumeralFront.beginsNumeral_iff {text sign digits rest : List Char}
    (h : NumeralFront text sign digits rest) : BeginsNumeral text ↔ digits ≠ [] := by
  rw [Descent.beginsNumeral_iff]
  constructor
  · rintro ⟨t, hpre, ht⟩ rfl
    exact h.not_isNumeral hpre ht
  · intro hne
    exact ⟨_, (h.longestPrefix hne).isPrefix, (h.longestPrefix hne).member⟩

/-- The text begins with the longest numeral and the fraction behind it. -/
structure DecimalFront (text numeral fraction rest : List Char) : Prop where
  text_eq : text = numeral ++ fraction ++ rest
  longest : LongestPrefix IsNumeral text numeral
  isFraction : Fraction fraction rest

theorem DecimalFront.unique {text numeral fraction rest numeral' fraction' rest' : List Char}
    (h : DecimalFront text numeral fraction rest)
    (h' : DecimalFront text numeral' fraction' rest') :
    numeral = numeral' ∧ fraction = fraction' := by
  obtain rfl := h.longest.unique h'.longest
  have htext := h.text_eq.symm.trans h'.text_eq
  rw [List.append_assoc, List.append_assoc, List.append_cancel_left_eq] at htext
  exact ⟨rfl, h.isFraction.unique h'.isFraction htext⟩

/-- A text that begins with a numeral has a longest one, which both patterns of numbers match, with
a fraction behind it that only the pattern of decimals matches. This text is a number. -/
theorem BeginsNumeral.exists_front {text : List Char} (h : BeginsNumeral text) :
    ∃ numeral fraction rest, DecimalFront text numeral fraction rest ∧
      Pattern.integer.matchEnd? text = some (utf8Length numeral) ∧
      Pattern.decimal.matchEnd? text = some (utf8Length (numeral ++ fraction)) ∧
      Number.FloatText (numeral ++ fraction) ∧
      ∃ d, Number.readDecimal? (numeral ++ fraction) = some d := by
  obtain ⟨sign, digits, behind, hfront⟩ := exists_numeralFront text
  obtain ⟨fraction, rest, rfl, hfraction⟩ := exists_fraction behind
  have hne := hfront.beginsNumeral_iff.1 h
  have hlongest := hfront.longestPrefix hne
  refine ⟨sign ++ digits, fraction, rest, ⟨?_, hlongest, hfraction⟩,
    hfront.matchEnd?_integer hne, Pattern.matchEnd?_decimal hfront hne hfraction,
    floatText_fraction hlongest.member hfraction, readDecimal?_fraction hlongest.member hfraction⟩
  rw [hfront.text_eq, ← List.append_assoc]

theorem matchEnd?_of_not_beginsNumeral {text : List Char} (h : ¬ BeginsNumeral text) :
    Pattern.decimal.matchEnd? text = none := by
  obtain ⟨sign, digits, rest, hfront⟩ := exists_numeralFront text
  obtain rfl : digits = [] := not_not.1 (mt hfront.beginsNumeral_iff.2 h)
  exact Pattern.matchEnd?_decimal_of_nil hfront

namespace Parser

variable {s : State}

theorem takes_decimal (h : BeginsNumeral s.remaining) : ∃ numeral fraction rest d,
    DecimalFront s.remaining numeral fraction rest ∧
    Pattern.integer.matchEnd? s.remaining = some (utf8Length numeral) ∧
    Number.readDecimal? (numeral ++ fraction) = some d ∧
    decimal.Takes s (numeral ++ fraction) (.success (Number.Binary64.ofDecimal d)) := by
  obtain ⟨numeral, fraction, rest, hfront, hinteger, hend, -, d, hd⟩ := h.exists_front
  have hmatch := @takes_matching s _ _ _ "number" hfront.text_eq hend
  have htakes := hmatch.converted
    (fun text => (Number.readDecimal? text).map Number.Binary64.ofDecimal) "number"
  refine ⟨numeral, fraction, rest, d, hfront, hinteger, hd, htakes.congr fun u _ => ?_⟩
  rw [hd]
  rfl

theorem decimal_of_not_beginsNumeral (h : ¬ BeginsNumeral s.remaining) :
    decimal s = .failure (.structural "number" s.consumed) s := by
  rw [decimal, decimalUnder]
  exact converted_of_failure (matching_of_none (matchEnd?_of_not_beginsNumeral h))

/-- Where the lexer of integers succeeds or only the range is wrong, a numeral stands. -/
theorem beginsNumeral_of_integer (h : (∃ n u, integer s = .success n u) ∨
    ∃ offset u, integer s = .failure (.structural "integer in range" offset) u) :
    BeginsNumeral s.remaining := by
  rcases integer_cases s with ⟨-, hrun⟩ | ⟨t, n, hlongest, -⟩
  · rw [hrun] at h
    rcases h with ⟨n, u, h⟩ | ⟨offset, u, h⟩
    · cases h
    · simp [Failure.structural] at h
  · exact beginsNumeral_iff.2 ⟨t, hlongest.isPrefix, hlongest.member⟩

/-- Where no fraction follows an integer, the lexer of decimals reads the same text. -/
theorem decimal_of_integer {u : State} {n : Int} (h : integer s = .success n u)
    (hfraction : Fraction [] u.remaining) : ∃ v, decimal s = .success v u := by
  rcases integer_cases s with ⟨-, hrun⟩ | ⟨t, m, hlongest, -, hinteger⟩
  · rw [hrun] at h
    cases h
  obtain ⟨numeral, fraction, rest, d, hfront, -, -, hdecimal⟩ :=
    takes_decimal (beginsNumeral_iff.2 ⟨t, hlongest.isPrefix, hlongest.member⟩)
  obtain ⟨w, hreads, hrun⟩ := hinteger.of_ne_overflow (by simp [h])
  obtain rfl : w = u := by
    rw [hrun] at h
    split at h
    · cases h
      rfl
    · cases h
  have hself : DecimalFront s.remaining t [] w.remaining :=
    ⟨by rw [List.append_nil, hreads.1], hlongest, hfraction⟩
  obtain ⟨rfl, rfl⟩ := hfront.unique hself
  rw [List.append_nil] at hdecimal
  exact ⟨_, hdecimal.eq_of_reads hreads⟩

/-- **A decimal is read from the longest numeral in front and the fraction behind it.** Where an
optional minus sign and a digit stand, the lexer succeeds, or breaks down if the counter has no room
for the text; elsewhere it fails without having moved. It reads what the pattern of integers
matches, and behind it a point with all the digits that follow, if there is a digit. Whatever its
pattern matches is a number in double precision, so to convert it never fails. It succeeds wherever
the lexer of integers does, and also where that one fails for the range, if there is room for the
fraction, too; where no fraction follows an integer, both read the same text. -/
theorem decimal_exact :
    Pattern.compile "-?[0-9]+(\\.[0-9]+)?" {} = .ok Pattern.decimal ∧
    (∀ s, BeginsNumeral s.remaining → ∃ numeral fraction rest d,
      DecimalFront s.remaining numeral fraction rest ∧
      Pattern.integer.matchEnd? s.remaining = some (utf8Length numeral) ∧
      Number.readDecimal? (numeral ++ fraction) = some d ∧
      decimal.Takes s (numeral ++ fraction) (.success (Number.Binary64.ofDecimal d))) ∧
    (∀ s, ¬ BeginsNumeral s.remaining →
      decimal s = .failure (.structural "number" s.consumed) s) ∧
    (∀ text n, Pattern.decimal.matchEnd? text = some n → ∃ front rest, text = front ++ rest ∧
      utf8Length front = n ∧ Number.FloatText front ∧ (Number.readDecimal? front).isSome) ∧
    (∀ s, ((∃ n u, integer s = .success n u) ∨
        ∃ offset u, integer s = .failure (.structural "integer in range" offset) u) →
      ∃ numeral fraction rest v, DecimalFront s.remaining numeral fraction rest ∧
        decimal.Takes s (numeral ++ fraction) (.success v)) ∧
    ∀ s n u, integer s = .success n u → Fraction [] u.remaining →
      ∃ v, decimal s = .success v u := by
  refine ⟨compile_decimal, fun s => takes_decimal, fun s => decimal_of_not_beginsNumeral,
    fun text n hend => ?_, fun s hinteger => ?_, fun s n u => decimal_of_integer⟩
  · by_cases h : BeginsNumeral text
    · obtain ⟨numeral, fraction, rest, hfront, -, hend', hfloat, d, hd⟩ := h.exists_front
      exact ⟨numeral ++ fraction, rest, hfront.text_eq, Option.some.inj (hend'.symm.trans hend),
        hfloat, by rw [hd]; rfl⟩
    · rw [matchEnd?_of_not_beginsNumeral h] at hend
      cases hend
  · obtain ⟨numeral, fraction, rest, d, hfront, -, -, htakes⟩ :=
      takes_decimal (beginsNumeral_of_integer hinteger)
    exact ⟨numeral, fraction, rest, _, hfront, htakes⟩

/-- A point without a digit behind it is left over, and one without a digit in front is refused. -/
theorem decimal_exact_point :
    let s := State.start ['-', '0', '7', '.', 'x']
    let t : State := ⟨['.', 'x'], 3, by decide⟩
    let u := State.start ['-', '.', '5']
    DecimalFront s.remaining ['-', '0', '7'] [] t.remaining ∧
    decimal s = .success 0xC01C000000000000 t ∧
    decimal u = .failure ⟨"number", 0, .structural⟩ u := by
  intro s t u
  obtain ⟨-, htakes, hfails, -⟩ := decimal_exact
  have hnumeral : NumeralFront s.remaining ['-'] ['0', '7'] t.remaining :=
    ⟨rfl, .inr rfl, nofun, Pattern.longest_digits_iff.2 ⟨by simp, by simp [t]⟩⟩
  have hfraction : Fraction [] t.remaining := .none (by simp [t])
  have hself : DecimalFront s.remaining ['-', '0', '7'] [] t.remaining :=
    ⟨rfl, hnumeral.longestPrefix (by decide), hfraction⟩
  have hnone : ¬ BeginsNumeral u.remaining := by
    rintro ⟨sign, c, rest, htext, rfl | rfl, hc⟩ <;> cases htext <;> exact Bool.false_ne_true hc
  have hbits : Number.Binary64.ofDecimal ⟨true, 7, 0⟩ = 0xC01C000000000000 := by decide +kernel
  refine ⟨hself, ?_, hfails u hnone⟩
  obtain ⟨numeral, fraction, rest, d, hfront, -, hd, hrun⟩ :=
    htakes s ⟨['-'], '0', ['7', '.', 'x'], rfl, .inr rfl, rfl⟩
  obtain ⟨rfl, rfl⟩ := hfront.unique hself
  obtain rfl : ⟨true, 7, 0⟩ = d := Option.some.inj hd
  rw [← hbits]
  exact hrun.eq_of_reads ⟨rfl, rfl⟩

/-- One byte before the last offset the counter has room for an integer, but not for the fraction
behind it. -/
theorem decimal_lastOffset :
    let s : State := ⟨['1', '.', '5'], 0xFFFFFFFFFFFFFFFE, by decide⟩
    BeginsNumeral s.remaining ∧ (∃ u, integer s = .success 1 u) ∧
      decimal s = .fault .offsetOverflow ∧ ¬ ∃ v u, decimal s = .success v u := by
  intro s
  let u : State := ⟨['.', '5'], maxOffset, Nat.le_refl _⟩
  have hinteger : integer s = .success 1 u := integer_eq_success_iff.2
    ⟨[], ['1'], ⟨rfl, by decide⟩, .inl rfl, by decide,
      Pattern.longest_digits_iff.2 ⟨by simp, by simp [u]⟩, by decide⟩
  have hbegins : BeginsNumeral s.remaining := ⟨[], '1', ['.', '5'], rfl, .inl rfl, rfl⟩
  have hnumeral : NumeralFront s.remaining [] ['1'] ['.', '5'] :=
    ⟨rfl, .inl rfl, by decide, Pattern.longest_digits_iff.2 ⟨by simp, by simp⟩⟩
  have hfraction : Fraction ['.', '5'] [] :=
    .point (by decide) (Pattern.longest_digits_iff.2 ⟨by simp, by simp⟩)
  have hself : DecimalFront s.remaining ['1'] ['.', '5'] [] :=
    ⟨rfl, hnumeral.longestPrefix (by decide), hfraction⟩
  obtain ⟨numeral, fraction, rest, d, hfront, -, -, htakes⟩ := takes_decimal hbegins
  obtain ⟨rfl, rfl⟩ := hfront.unique hself
  have hrun := htakes.overflows (by decide)
  refine ⟨hbegins, ⟨u, hinteger⟩, hrun, ?_⟩
  rw [hrun]
  rintro ⟨v, u, ⟨⟩⟩

end Parser

end Descent
