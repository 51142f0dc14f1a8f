import Descent.Parser.Lexer
import Descent.Proofs.Boundary
import Descent.Proofs.Rounds
import Mathlib.Data.List.TakeWhile

/-!
# Longest matches

The built-in patterns for white space and for integers match as long as they go: characters of a
set, for the integers with a minus sign in front if there is one. Their programs run in a loop with
one waiting thread (`Program.LoopsTo`), which accepts after every character of the set, and which
the first other character ends. A pattern of any number of characters has the same loop, and accepts
before it as well.

Main statements: `matchEnd?_someOf_iff`, `matchEnd?_anyOf`, `matchEnd?_integer_iff`.
-/

namespace Descent

open Unicode (CodeSet)

/-! ## Runs of characters -/

namespace Pattern

variable {set : CodeSet}

theorem contains_asciiDigit_iff {c : Char} : asciiDigit.contains c.toNat ↔ c.isDigit := by
  simp [asciiDigit, Char.isDigit, UInt32.le_iff_toNat_le]

/-- `front` is the longest run of members of the set at the front of `front ++ rest`. -/
structure Longest (set : CodeSet) (front rest : List Char) : Prop where
  members : ∀ c ∈ front, set.contains c.toNat
  stop : ∀ c ∈ rest.head?, ¬ set.contains c.toNat

theorem longest_digits_iff {front rest : List Char} : Longest asciiDigit front rest ↔
    (∀ c ∈ front, c.isDigit) ∧ ∀ c ∈ rest.head?, ¬ c.isDigit := by
  simp only [← contains_asciiDigit_iff]
  exact ⟨fun h => ⟨h.members, h.stop⟩, fun ⟨hmembers, hstop⟩ => ⟨hmembers, hstop⟩⟩

/-- The longest run of members at the front of a text. -/
def run (set : CodeSet) (text : List Char) : List Char :=
  text.takeWhile fun c => set.contains c.toNat

theorem run_cons_of_mem {c : Char} (hc : set.contains c.toNat) (text : List Char) :
    run set (c :: text) = c :: run set text := by
  rw [run, List.takeWhile_cons, if_pos hc, run]

theorem run_cons_of_notMem {c : Char} (hc : ¬ set.contains c.toNat) (text : List Char) :
    run set (c :: text) = [] := by
  rw [run, List.takeWhile_cons, if_neg hc]

theorem run_of_stop {text : List Char} (h : ∀ c ∈ text.head?, ¬ set.contains c.toNat) :
    run set text = [] := by
  cases text with
  | nil => rfl
  | cons c text => exact run_cons_of_notMem (h c rfl) text

theorem run_eq_of_longest {front rest : List Char} (h : Longest set front rest) :
    run set (front ++ rest) = front := by
  induction front with
  | nil => exact run_of_stop h.stop
  | cons c front ih =>
    rw [List.cons_append, run_cons_of_mem (h.members c List.mem_cons_self),
      ih ⟨fun d hd => h.members d (List.mem_cons_of_mem _ hd), h.stop⟩]

/-- A prefix as long as the longest run is the longest run. -/
theorem longest_of_utf8Length_eq {front rest : List Char}
    (h : utf8Length (run set (front ++ rest)) = utf8Length front) : Longest set front rest := by
  have hrun : front ++ rest = run set (front ++ rest) ++
      (front ++ rest).dropWhile fun c => set.contains c.toNat :=
    List.takeWhile_append_dropWhile.symm
  -- Both prefixes split off at the same offset.
  have hcut := cut?_eq_some_iff.2 ⟨hrun, h⟩
  rw [cut?_eq_some_iff.2 ⟨rfl, rfl⟩, Option.some.injEq, Prod.mk.injEq] at hcut
  obtain ⟨hfront, hrest⟩ := hcut
  refine ⟨fun c hc => ?_, fun c hc => ?_⟩
  · rw [hfront] at hc
    exact List.mem_takeWhile_imp (p := fun c : Char => set.contains c.toNat) hc
  · have hstop := List.head?_dropWhile_not (fun c => set.contains c.toNat) (front ++ rest)
    rw [← hrest, Option.mem_def.1 hc] at hstop
    simpa using hstop

/-- Every text begins with a longest run, which may be empty. -/
theorem exists_longest (set : CodeSet) (text : List Char) :
    ∃ front rest, text = front ++ rest ∧ Longest set front rest := by
  have hsplit : run set text ++ text.dropWhile (fun c => set.contains c.toNat) = text :=
    List.takeWhile_append_dropWhile
  exact ⟨_, _, hsplit.symm, longest_of_utf8Length_eq (by rw [hsplit])⟩

/-- What a loop over the set finds from a given offset. -/
theorem end_of_run_iff (set : CodeSet) (front rest : List Char) (offset : Nat) :
    (if run set (front ++ rest) = [] then none
      else some (offset + utf8Length (run set (front ++ rest)))) =
        some (offset + utf8Length front) ↔ front ≠ [] ∧ Longest set front rest := by
  constructor
  · intro h
    by_cases hrun : run set (front ++ rest) = []
    · simp [hrun] at h
    · rw [if_neg hrun, Option.some.injEq, Nat.add_left_cancel_iff] at h
      have hlongest := longest_of_utf8Length_eq h
      rw [run_eq_of_longest hlongest] at hrun
      exact ⟨hrun, hlongest⟩
  · rintro ⟨hne, hlongest⟩
    rw [run_eq_of_longest hlongest, if_neg hne]

/-- At `pc` the program reads members of the set in a loop, and after each of them it may accept at
`exit`. -/
structure Program.LoopsTo (p : Program) (pc exit : Nat) (set : CodeSet) : Prop where
  test : p.instr? pc = some (.test (.code set))
  again (before after : Side) : p.threadsFrom before after [pc + 1] = [pc, exit]
  accept : p.instr? exit = some .accept

namespace Program

variable {p : Program} {pc exit : Nat}

theorem finish_of_no_threads (text : List Char) {r : Run} (hr : r.threads = []) :
    p.finish charUnits text r = r.best := by
  cases text with
  | nil => rfl
  | cons c text => rw [finish, hr]; rfl

/-- The run after a character, from the points that the waiting threads reach by it. -/
theorem feedAll_charUnits (r : Run) (c : Char) (after : Side) {points : List Nat}
    (hpoints : p.advance ⟨c.toNat, c, true, c.utf8Size⟩ r.threads = points) :
    r.feedAll p c after (charUnits c) =
      .settle p ⟨p.threadsFrom (.char c) after points, r.offset + c.utf8Size, r.best⟩ := by
  rw [charUnits, Run.feedAll, Run.feed, hpoints]

/-- A character moves a run on to the points that the waiting threads reach by it. -/
theorem finish_cons {r : Run} {c : Char} {points : List Nat} (hthreads : r.threads ≠ [])
    (hpoints : p.advance ⟨c.toNat, c, true, c.utf8Size⟩ r.threads = points) (text : List Char) :
    p.finish charUnits (c :: text) r = p.finish charUnits text (.settle p
      ⟨p.threadsFrom (.char c) (.ofText text) points, r.offset + c.utf8Size, r.best⟩) := by
  rw [finish, if_neg (mt List.isEmpty_iff.1 hthreads), feedAll_charUnits _ _ _ hpoints]

/-- A character by which no thread gets further ends the run. -/
theorem finish_cons_of_stuck {r : Run} {c : Char}
    (hpoints : p.advance ⟨c.toNat, c, true, c.utf8Size⟩ r.threads = []) (text : List Char) :
    p.finish charUnits (c :: text) r = r.best := by
  by_cases hthreads : r.threads = []
  · exact finish_of_no_threads _ hthreads
  · rw [finish_cons hthreads hpoints, finish_of_no_threads _ rfl]
    rfl

namespace LoopsTo

theorem accepts_pc (h : p.LoopsTo pc exit set) : p.accepts pc = false := by
  rw [accepts, h.test]
  rfl

theorem accepts_exit (h : p.LoopsTo pc exit set) : p.accepts exit = true := by
  rw [accepts, h.accept]
  rfl

/-- Where the loop and its exit are reached, what has been read matches, and one thread waits. -/
theorem settle_eq (h : p.LoopsTo pc exit set) (offset : Nat) (best : Option Nat) :
    Run.settle p ⟨[pc, exit], offset, best⟩ = ⟨[pc], offset, some offset⟩ := by
  rw [Run.settle]
  simp [h.accepts_pc, h.accepts_exit]

theorem settle_again (h : p.LoopsTo pc exit set) (before after : Side) (offset : Nat)
    (best : Option Nat) :
    Run.settle p ⟨p.threadsFrom before after [pc + 1], offset, best⟩ =
      ⟨[pc], offset, some offset⟩ := by
  rw [h.again, h.settle_eq]

/-- **A loop matches the longest run of members.** -/
theorem finish_eq (h : p.LoopsTo pc exit set) (text : List Char) (offset : Nat)
    (best : Option Nat) :
    p.finish charUnits text ⟨[pc], offset, best⟩ =
      if run set text = [] then best else some (offset + utf8Length (run set text)) := by
  induction text generalizing offset best with
  | nil => rfl
  | cons c text ih =>
    by_cases hc : set.contains c.toNat
    · have hpoints : p.advance ⟨c.toNat, c, true, c.utf8Size⟩ [pc] = [pc + 1] := by
        simp [advance, h.test, Test.passes, hc]
      rw [finish_cons (List.cons_ne_nil _ _) hpoints, h.settle_again, ih, run_cons_of_mem hc]
      by_cases hrun : run set text = []
      · simp [hrun]
      · simp [hrun, Nat.add_assoc]
    · have hpoints : p.advance ⟨c.toNat, c, true, c.utf8Size⟩ [pc] = [] := by
        simp [advance, h.test, Test.passes, hc]
      rw [finish_cons_of_stuck hpoints, run_cons_of_notMem hc]
      rfl

end LoopsTo

end Program

/-! ## Characters of a set, and integers -/

theorem program_someOf (set : CodeSet) :
    (Expr.someOf set).program = #[.test (.code set), .fork 0 2, .accept] := rfl

theorem loopsTo_someOf (set : CodeSet) : Program.LoopsTo (Expr.someOf set).program 0 2 set where
  test := rfl
  again _ _ := by rw [program_someOf]; rfl
  accept := rfl

theorem matchEnd?_someOf (set : CodeSet) (text : List Char) :
    (ofExpr (.someOf set)).matchEnd? text =
      if run set text = [] then none else some (utf8Length (run set text)) := by
  have h := (loopsTo_someOf set).finish_eq text 0 none
  rw [Nat.zero_add] at h
  exact h

/-- **Some characters of a set are matched by the longest run of them.** -/
theorem matchEnd?_someOf_iff {front rest : List Char} :
    (ofExpr (.someOf set)).matchEnd? (front ++ rest) = some (utf8Length front) ↔
      front ≠ [] ∧ Longest set front rest := by
  have hrun := end_of_run_iff set front rest 0
  rw [Nat.zero_add, Nat.zero_add] at hrun
  rw [matchEnd?_someOf, hrun]

/-- Any number of characters of a set. -/
def Expr.anyOf (s : CodeSet) : Expr := .star (.oneOf s) true

theorem program_anyOf (set : CodeSet) : (Expr.anyOf set).program =
    #[.fork 1 4, .test (.code set), .fork 1 3, .jump 4, .accept] := rfl

theorem loopsTo_anyOf (set : CodeSet) : Program.LoopsTo (Expr.anyOf set).program 1 4 set where
  test := rfl
  again _ _ := by rw [program_anyOf]; rfl
  accept := rfl

/-- **Any number of characters of a set is matched by the longest run of them**, which may be
empty. -/
theorem matchEnd?_anyOf (set : CodeSet) (text : List Char) :
    (ofExpr (.anyOf set)).matchEnd? text = some (utf8Length (run set text)) := by
  have hloop := loopsTo_anyOf set
  have hthreads : (Expr.anyOf set).program.threadsFrom .edge (.ofText text) [0] = [1, 4] := by
    rw [program_anyOf]
    rfl
  have hstart : Program.Run.start (Expr.anyOf set).program text = ⟨[1], 0, some 0⟩ := by
    rw [Program.Run.start, hthreads, hloop.settle_eq]
  show (Expr.anyOf set).program.finish charUnits text
    (Program.Run.start (Expr.anyOf set).program text) = _
  rw [hstart, hloop.finish_eq]
  by_cases hrun : run set text = []
  · rw [if_pos hrun, hrun]
    rfl
  · rw [if_neg hrun, Nat.zero_add]

theorem loopsTo_signedDigits : Program.LoopsTo signedDigits.program 3 5 asciiDigit where
  test := rfl
  again _ _ := rfl
  accept := rfl

theorem start_signedDigits (text : List Char) :
    Program.Run.start signedDigits.program text = ⟨[1, 3], 0, none⟩ := by
  rw [Program.Run.start]
  rfl

theorem matchEnd?_minus (text : List Char) :
    integer.matchEnd? ('-' :: text) = if run asciiDigit text = [] then none
      else some (1 + utf8Length (run asciiDigit text)) := by
  have h := loopsTo_signedDigits.finish_eq text 1 none
  rw [← h]
  rfl

/-- The first character as the two threads at the front of a program see it that reads digits after
an optional minus sign. -/
theorem Program.advance_sign {p : Program} {c : Char} (hc : c ≠ '-')
    (hminus : p.instr? 1 = some (.test (.code (.single 0x2D))))
    (hdigit : p.instr? 3 = some (.test (.code asciiDigit))) :
    p.advance ⟨c.toNat, c, true, c.utf8Size⟩ [1, 3] =
      if asciiDigit.contains c.toNat then [4] else [] := by
  have hsign : (CodeSet.single 0x2D).contains c.toNat = false := by
    rw [Bool.eq_false_iff, ne_eq, CodeSet.contains_single]
    exact fun h => hc (Char.toNat_inj.1 h)
  by_cases hc : asciiDigit.contains c.toNat <;>
    simp [Program.advance, hminus, hdigit, Test.passes, hsign, hc]

theorem matchEnd?_unsigned {text : List Char} (h : ∀ c ∈ text.head?, c ≠ '-') :
    integer.matchEnd? text = if run asciiDigit text = [] then none
      else some (utf8Length (run asciiDigit text)) := by
  cases text with
  | nil => rfl
  | cons c text =>
    have hpoints := Program.advance_sign (p := signedDigits.program) (h c rfl) rfl rfl
    have hfinish : integer.matchEnd? (c :: text) =
      signedDigits.program.finish charUnits (c :: text) ⟨[1, 3], 0, none⟩ := rfl
    rw [hfinish]
    by_cases hc : asciiDigit.contains c.toNat
    · rw [if_pos hc] at hpoints
      rw [Program.finish_cons (List.cons_ne_nil _ _) hpoints,
        loopsTo_signedDigits.settle_again, loopsTo_signedDigits.finish_eq,
        run_cons_of_mem hc]
      by_cases hrun : run asciiDigit text = []
      · simp [hrun]
      · simp [hrun]
    · rw [if_neg hc] at hpoints
      rw [Program.finish_cons_of_stuck hpoints, run_cons_of_notMem hc]
      rfl

theorem matchEnd?_integer_pos {text : List Char} {n : Nat} (h : integer.matchEnd? text = some n) :
    0 < n := Program.matchEnd?_pos (congrArg Program.Run.best (start_signedDigits text)) h

/-- **An integer is matched by the longest run of digits, after a minus sign if there is one.** -/
theorem matchEnd?_integer_iff {front rest : List Char} :
    integer.matchEnd? (front ++ rest) = some (utf8Length front) ↔
      ∃ sign digits, front = sign ++ digits ∧ (sign = [] ∨ sign = ['-']) ∧ digits ≠ [] ∧
        Longest asciiDigit digits rest := by
  cases front with
  | nil =>
    constructor
    · intro h
      exact (Nat.lt_irrefl 0 (matchEnd?_integer_pos h)).elim
    · rintro ⟨sign, digits, heq, -, hne, -⟩
      exact (hne (List.append_eq_nil_iff.1 heq.symm).2).elim
  | cons c front =>
    by_cases hc : c = '-'
    · subst hc
      have hlength : utf8Length ('-' :: front) = 1 + utf8Length front := utf8Length_cons ..
      rw [List.cons_append, matchEnd?_minus, hlength, end_of_run_iff]
      constructor
      · rintro ⟨hne, hlongest⟩
        exact ⟨['-'], front, rfl, .inr rfl, hne, hlongest⟩
      · rintro ⟨sign, digits, heq, rfl | rfl, hne, hlongest⟩
        · rw [List.nil_append] at heq
          subst heq
          exact (Bool.false_ne_true (hlongest.members '-' List.mem_cons_self)).elim
        · cases heq
          exact ⟨hne, hlongest⟩
    · have hrun := end_of_run_iff asciiDigit (c :: front) rest 0
      rw [Nat.zero_add, Nat.zero_add] at hrun
      have hunsigned : ∀ d ∈ (c :: front ++ rest).head?, d ≠ '-' := by simpa using hc
      rw [matchEnd?_unsigned hunsigned, hrun]
      constructor
      · rintro ⟨hne, hlongest⟩
        exact ⟨[], c :: front, rfl, .inl rfl, hne, hlongest⟩
      · rintro ⟨sign, digits, heq, rfl | rfl, hne, hlongest⟩
        · rw [List.nil_append] at heq
          subst heq
          exact ⟨hne, hlongest⟩
        · cases heq
          exact (hc rfl).elim

end Pattern

/-! ## The lexers -/

namespace Parser

variable {s t : State}

theorem matching_of_none {e : Pattern} {label : String} (h : e.matchEnd? s.remaining = none) :
    matching e label s = .failure (.structural label s.consumed) s := by
  rw [matching, h]
  rfl

/-- Where there is no text, there is nothing to convert. -/
theorem converted_of_failure {α : Type} {p : Parser String} {read : List Char → Option α}
    {label : String} {e : Failure} (h : p s = .failure e t) :
    converted .none p read label s = .failure e s := bind_of_failure h

theorem whitespace_eq_success_iff {v : String} :
    whitespace s = .success v t ↔ s.Reads v.toList t ∧ v.toList ≠ [] ∧
      Pattern.Longest Unicode.Property.whiteSpace v.toList t.remaining := by
  rw [whitespace, matching_eq_success_iff]
  refine and_congr_right fun hreads => ?_
  rw [hreads.1]
  exact Pattern.matchEnd?_someOf_iff

/-- Where no white space stands, the lexer for it fails. -/
theorem whitespace_of_stop
    (h : ∀ c ∈ s.remaining.head?, ¬ Unicode.Property.whiteSpace.contains c.toNat) :
    ∃ e, whitespace s = .failure e s := by
  have hnone : Pattern.whitespace.matchEnd? s.remaining = none := by
    rw [Pattern.whitespace, Pattern.matchEnd?_someOf, if_pos (Pattern.run_of_stop h)]
  exact ⟨_, matching_of_none hnone⟩

/-- An integer is read as far as its digits go, and it fits 64 bits with a sign. -/
theorem integer_eq_success_iff {n : Int} :
    integer s = .success n t ↔ ∃ sign digits, s.Reads (sign ++ digits) t ∧
      (sign = [] ∨ sign = ['-']) ∧ digits ≠ [] ∧
      Pattern.Longest Pattern.asciiDigit digits t.remaining ∧
      Number.readInt? (sign ++ digits) = some n := by
  rw [integer, integerUnder, converted_eq_success]
  constructor
  · rintro ⟨v, hmatch, hn⟩
    obtain ⟨hreads, hend⟩ := matching_eq_success_iff.1 hmatch
    rw [hreads.1, Pattern.matchEnd?_integer_iff] at hend
    obtain ⟨sign, digits, hv, hsign, hne, hlongest⟩ := hend
    rw [hv] at hreads hn
    exact ⟨sign, digits, hreads, hsign, hne, hlongest, hn⟩
  · rintro ⟨sign, digits, hreads, hsign, hne, hlongest, hn⟩
    have htext : (String.ofList (sign ++ digits)).toList = sign ++ digits := String.toList_ofList
    refine ⟨.ofList (sign ++ digits), ?_, by rw [htext, hn]⟩
    rw [matching_eq_success_iff, htext, hreads.1, Pattern.matchEnd?_integer_iff]
    exact ⟨hreads, sign, digits, rfl, hsign, hne, hlongest⟩

/-- Before a character that starts no integer, the lexer for integers fails. -/
theorem integer_of_head {c : Char} {rest : List Char} (h : s.remaining = c :: rest)
    (hminus : c ≠ '-') (hdigit : ¬ Pattern.asciiDigit.contains c.toNat) :
    ∃ e, integer s = .failure e s := by
  have hhead : ∀ d ∈ s.remaining.head?, d = c := by simp [h]
  have hnone : Pattern.integer.matchEnd? s.remaining = none := by
    rw [Pattern.matchEnd?_unsigned fun d hd => hhead d hd ▸ hminus,
      if_pos (Pattern.run_of_stop fun d hd => hhead d hd ▸ hdigit)]
  exact ⟨_, converted_of_failure (matching_of_none hnone)⟩

end Parser

end Descent
