import Descent.Failure.Json
import Descent.Proofs.Calculation
import Descent.Proofs.Documents
import Mathlib.Data.List.Basic

/-!
# Failures come back from JSON

A failure is read from exactly the documents that denote it (`Denotes`): an object in which each of
the three members stands once, among any others and in any order, or an array of the three values.
What is written for a failure is one of these documents, so it is read back as the same failure, and
so is what is written for a failure that has been read.

In the text that is written, a character is one letter of the string (`letter_escape`). No character
is a surrogate, so the letters of a text are its code points (`joinPairs_codes`).

Main statement: `Failure.json_round_trip`.
-/

namespace Descent

namespace Json

variable {codes : List Nat} {s : String}

/-! ## Texts -/

theorem char?_eq_some_iff {n : Nat} {c : Char} : text?.char? n = some c ↔ n = c.toNat := by
  unfold text?.char?
  constructor
  · intro h
    by_cases hn : n.isValidChar
    · rw [dif_pos hn, Option.some.injEq] at h
      subst h
      rfl
    · rw [dif_neg hn] at h
      cases h
  · intro h
    subst h
    have hvalid : c.toNat.isValidChar := c.valid
    rw [dif_pos hvalid]
    rfl

theorem mapM_char?_eq_some_iff {cs : List Char} :
    codes.mapM text?.char? = some cs ↔ codes = cs.map Char.toNat := by
  induction codes generalizing cs with
  | nil => simp [eq_comm]
  | cons n codes ih =>
    simp only [List.mapM_cons, Option.bind_eq_bind, Option.bind_eq_some_iff, char?_eq_some_iff, ih,
      Option.pure_def, Option.some.injEq]
    constructor
    · intro h
      obtain ⟨c, rfl, ds, rfl, rfl⟩ := h
      rfl
    · intro h
      cases cs with
      | nil => simp at h
      | cons c cs =>
        obtain ⟨rfl, rfl⟩ := List.cons.inj h
        exact ⟨c, rfl, cs, rfl, rfl⟩

/-- The code points of a text, and of no other one, stand for it. -/
theorem text?_eq_some_iff : text? codes = some s ↔ codes = Json.codes s := by
  simp only [text?, Option.map_eq_some_iff, mapM_char?_eq_some_iff, Json.codes]
  constructor
  · intro h
    obtain ⟨cs, rfl, rfl⟩ := h
    rw [String.toList_ofList]
  · intro h
    subst h
    exact ⟨s.toList, rfl, String.ofList_toList⟩

theorem codes_injective {s t : String} (h : Json.codes s = Json.codes t) : s = t := by
  have hs := text?_eq_some_iff.2 (rfl : Json.codes s = Json.codes s)
  rw [h, text?_eq_some_iff.2 rfl] at hs
  exact (Option.some.inj hs).symm

/-! ## Writing strings -/

theorem hexValue?_hexDigit {n : Nat} (h : n < 16) : hexValue? (hexDigit n) = some n := by
  decide +revert

theorem letter_escape (c : Char) : Letter c.toNat (escape c) := by
  unfold escape
  split_ifs with hquote hescape _ _ _ _ _ hcontrol
  -- Seven characters have a short escape.
  iterate 7
    · subst_vars
      exact .short rfl
  · have hzero : hexValue? '0' = some 0 := rfl
    have hhigh := hexValue?_hexDigit (n := c.toNat / 16) (by omega)
    have hlow := hexValue?_hexDigit (n := c.toNat % 16) (by omega)
    have hsum : 16 * (c.toNat / 16) + c.toNat % 16 = c.toNat := Nat.div_add_mod _ _
    exact .hex (by simp [hex4?, hzero, hhigh, hlow, hsum])
  · exact .plain (Nat.not_lt.1 hcontrol) hquote hescape

theorem letters_escape (cs : List Char) : Letters (cs.map Char.toNat) (cs.flatMap escape) := by
  induction cs with
  | nil => exact .nil
  | cons c cs ih => exact .cons (letter_escape c) ih

/-- No character is a surrogate, so characters make up no pairs. -/
theorem joinPairs_codes (cs : List Char) : joinPairs (cs.map Char.toNat) = cs.map Char.toNat := by
  induction cs with
  | nil => rfl
  | cons c cs ih =>
    cases cs with
    | nil => rfl
    | cons d cs =>
      have hc : ¬ (0xD800 ≤ c.toNat ∧ c.toNat < 0xDC00 ∧ 0xDC00 ≤ d.toNat ∧ d.toNat < 0xE000) := by
        have hvalid : c.toNat < 0xD800 ∨ 0xDFFF < c.toNat ∧ c.toNat < 0x110000 := c.valid
        omega
      simp only [List.map_cons] at ih ⊢
      rw [joinPairs, if_neg hc, ih]

/-- A quoted text stands for its code points. -/
theorem quoted_quote (s : String) : Quoted (Json.codes s) (quote s.toList) :=
  ⟨_, _, letters_escape s.toList, (joinPairs_codes _).symm, rfl⟩

/-! ## Writing numbers -/

theorem head?_toDigits {n : Nat} (hn : 0 < n) : (Nat.toDigits 10 n).head? ≠ some '0' := by
  have hdigit : ∀ n < 10, 0 < n → [Nat.digitChar n].head? ≠ some '0' := by decide
  induction n using Nat.strong_induction_on with
  | _ n ih =>
    rw [Nat.toDigits_eq_if (by decide)]
    by_cases hsmall : n < 10
    · rw [if_pos hsmall]
      exact hdigit n hsmall hn
    · rw [if_neg hsmall, List.head?_append_of_ne_nil _ Nat.toDigits_ne_nil]
      exact ih (n / 10) (by omega) (by omega)

/-- The digits of a number are a numeral without a sign. -/
theorem whole_repr (n : Nat) : Whole (Nat.repr n).toList := by
  rw [Nat.repr_eq_ofList_toDigits, String.toList_ofList]
  refine ⟨⟨Nat.toDigits_ne_nil, fun c hc => Nat.isDigit_of_mem_toDigits (by decide) (by decide) hc⟩,
    fun hzero => ?_⟩
  by_cases hn : 0 < n
  · exact (head?_toDigits hn hzero).elim
  · obtain rfl : n = 0 := by omega
    rfl

theorem numeral_of_whole {w : List Char} (h : Whole w) : Numeral w := by
  simpa using Numeral.mk (.inl rfl) h .absent .absent

theorem ofDigits_repr (n : Nat) : Number.ofDigits 0 (Nat.repr n).toList = n := by
  rw [Nat.repr_eq_ofList_toDigits, String.toList_ofList]
  have hdigits := Nat.ofDigitChars_toDigits (b := 10) (n := n) (by decide) (by decide)
  rwa [Nat.ofDigitChars_eq_foldl] at hdigits

end Json

namespace FailureKind

theorem ofName?_eq_some_iff {name : String} {kind : FailureKind} :
    ofName? name = some kind ↔ name = kind.name := by
  constructor
  · intro h
    unfold ofName? at h
    split at h <;> cases h <;> rfl
  · intro h
    subst h
    cases kind <;> rfl

/-- A kind is written as its name, or as an object with this name and nothing in it. -/
theorem ofJson?_eq_some_iff {j : Json} {kind : FailureKind} :
    ofJson? j = some kind ↔
      j = .string (Json.codes kind.name) ∨ j = .object [(Json.codes kind.name, .null)] := by
  constructor
  · intro h
    unfold ofJson? at h
    split at h
    · simp only [Option.bind_eq_some_iff, Json.text?_eq_some_iff, ofName?_eq_some_iff] at h
      obtain ⟨_, rfl, rfl⟩ := h
      exact .inl rfl
    · simp only [Option.bind_eq_some_iff, Json.text?_eq_some_iff, ofName?_eq_some_iff] at h
      obtain ⟨_, rfl, rfl⟩ := h
      exact .inr rfl
    · cases h
  · intro h
    rcases h with rfl | rfl
    · simp [ofJson?, Json.text?_eq_some_iff.2 rfl, ofName?_eq_some_iff]
    · simp [ofJson?, Json.text?_eq_some_iff.2 rfl, ofName?_eq_some_iff]

end FailureKind

namespace Failure

/-! ## The documents of a failure -/

/-- The values of the three members of a failure: a text, a number in range that is written with
digits alone, and the name of a kind, as a text or as the only member of an object. -/
structure Parts (expected position kind : Json) (f : Failure) : Prop where
  expected : expected = .string (Json.codes f.expected)
  position : ∃ digits, position = .number digits ∧ Json.Digits digits ∧
    Number.ofDigits 0 digits = f.position ∧ f.position ≤ maxOffset
  kind : kind = .string (Json.codes f.kind.name) ∨ kind = .object [(Json.codes f.kind.name, .null)]

/-- The name stands once in a list of members, with this value. -/
def Once (name : String) (value : Json) (members : List (String × Json)) : Prop :=
  ∃ before after, members = before ++ (name, value) :: after ∧ ∀ m ∈ before ++ after, m.1 ≠ name

/-- The members of an object by the code points of their names. -/
def coded (members : List (String × Json)) : List (List Nat × Json) :=
  members.map fun m => (Json.codes m.1, m.2)

/-- `Denotes j f`: the value `j` stands for the failure `f`. The names in an object are texts. The
three members stand there once each, and other members anywhere, any number of times. -/
inductive Denotes : Json → Failure → Prop
  | object {members expected position kind f} (hexpected : Once "expected" expected members)
      (hposition : Once "position" position members) (hkind : Once "kind" kind members)
      (h : Parts expected position kind f) : Denotes (.object (coded members)) f
  | array {expected position kind f} (h : Parts expected position kind f) :
      Denotes (.array [expected, position, kind]) f

theorem textOf?_eq_some_iff {j : Json} {s : String} :
    textOf? j = some s ↔ j = .string (Json.codes s) := by
  cases j <;> simp [textOf?, Json.text?_eq_some_iff]

theorem positionOf?_eq_some_iff {j : Json} {n : Nat} :
    positionOf? j = some n ↔ ∃ digits, j = .number digits ∧ Json.Digits digits ∧
      Number.ofDigits 0 digits = n ∧ n ≤ maxOffset := by
  cases j with
  | number numeral =>
    simp [positionOf?, Option.filter_eq_some_iff, Calculation.readNat?_eq_some_iff,
      Json.Digits, and_assoc]
  | _ => simp [positionOf?]

theorem ofParts?_eq_some_iff {expected position kind : Json} {f : Failure} :
    ofParts? expected position kind = some f ↔ Parts expected position kind f := by
  simp only [ofParts?, Option.bind_eq_bind, Option.bind_eq_some_iff, textOf?_eq_some_iff,
    positionOf?_eq_some_iff, FailureKind.ofJson?_eq_some_iff, Option.pure_def, Option.some.injEq]
  constructor
  · intro h
    obtain ⟨_, hexpected, _, hposition, _, hkind, rfl⟩ := h
    exact ⟨hexpected, hposition, hkind⟩
  · intro h
    obtain ⟨hexpected, hposition, hkind⟩ := h
    exact ⟨_, hexpected, _, hposition, _, hkind, rfl⟩

theorem member?_coded {name : String} {value : Json} {members : List (String × Json)} :
    member? name (coded members) = some value ↔ Once name value members := by
  have hname (m : String × Json) : (Json.codes m.1 == Json.codes name) = decide (m.1 = name) := by
    by_cases hm : m.1 = name
    · simp [hm]
    · simp [hm, mt Json.codes_injective hm]
  have hfilter : member? name (coded members) = some value ↔
      members.filter (fun m => m.1 = name) = [(name, value)] := by
    simp only [member?, coded, List.filter_map, Function.comp_def, hname]
    have hall : ∀ m ∈ members.filter (fun m => m.1 = name), m.1 = name := by
      intro m hm
      simpa using List.of_mem_filter hm
    generalize members.filter (fun m => m.1 = name) = found at hall
    match found with
    | [] => simp
    | [m] =>
      obtain rfl := hall m List.mem_cons_self
      simp [Prod.ext_iff]
    | _ :: _ :: _ => simp
  rw [hfilter, List.filter_eq_cons_iff]
  constructor
  · intro h
    obtain ⟨before, after, rfl, hbefore, -, hafter⟩ := h
    refine ⟨before, after, rfl, fun m hm => ?_⟩
    rcases List.mem_append.1 hm with hm | hm
    · simpa using hbefore m hm
    · simpa using List.filter_eq_nil_iff.1 hafter m hm
  · intro h
    obtain ⟨before, after, rfl, hnone⟩ := h
    refine ⟨before, after, rfl, fun m hm => ?_, by simp, List.filter_eq_nil_iff.2 fun m hm => ?_⟩
    · simpa using hnone m (List.mem_append_left _ hm)
    · simpa using hnone m (List.mem_append_right _ hm)

/-- The names of the members are texts if they are coded from texts. -/
theorem all_text?_iff {members : List (List Nat × Json)} :
    (members.all fun m => (Json.text? m.1).isSome) ↔ ∃ named, members = coded named := by
  simp only [List.all_eq_true, Option.isSome_iff_exists, Json.text?_eq_some_iff]
  constructor
  · intro h
    induction members with
    | nil => exact ⟨[], rfl⟩
    | cons m members ih =>
      obtain ⟨name, hname⟩ := h m List.mem_cons_self
      obtain ⟨named, rfl⟩ := ih fun m' hm' => h m' (List.mem_cons_of_mem _ hm')
      exact ⟨(name, m.2) :: named, by simp [coded, ← hname]⟩
  · rintro ⟨named, rfl⟩ m hm
    obtain ⟨n, -, rfl⟩ := List.mem_map.1 hm
    exact ⟨n.1, rfl⟩

theorem ofJson?_iff {j : Json} {f : Failure} : ofJson? j = some f ↔ Denotes j f := by
  constructor
  · intro h
    unfold ofJson? at h
    split at h
    · next members =>
      simp only [Option.ite_none_right_eq_some, Option.bind_eq_bind, Option.bind_eq_some_iff,
        ofParts?_eq_some_iff] at h
      obtain ⟨htexts, expected, hexpected, position, hposition, kind, hkind, hparts⟩ := h
      obtain ⟨named, rfl⟩ := all_text?_iff.1 htexts
      exact .object (member?_coded.1 hexpected) (member?_coded.1 hposition) (member?_coded.1 hkind)
        hparts
    · exact .array (ofParts?_eq_some_iff.1 h)
    · cases h
  · intro h
    cases h with
    | @object members expected position kind _ hexpected hposition hkind hparts =>
      have htexts := all_text?_iff.2 ⟨members, rfl⟩
      simp [ofJson?, htexts, member?_coded.2 hexpected, member?_coded.2 hposition,
        member?_coded.2 hkind, ofParts?_eq_some_iff.2 hparts]
    | array hparts => exact ofParts?_eq_some_iff.2 hparts

/-! ## What is written -/

/-- The document that is written for a failure. -/
def document (f : Failure) : Json :=
  .object (coded [("expected", .string (Json.codes f.expected)),
    ("position", .number (Nat.repr f.position).toList), ("kind", .string (Json.codes f.kind.name))])

theorem denotes_document {f : Failure} (hf : f.position ≤ maxOffset) : Denotes f.document f := by
  have hposition : Json.Digits (Nat.repr f.position).toList := (Json.whole_repr f.position).1
  refine .object ⟨[], _, rfl, by simp⟩ ⟨[_], _, rfl, by simp⟩ ⟨[_, _], [], rfl, by simp⟩ ?_
  exact ⟨rfl, ⟨_, rfl, hposition, Json.ofDigits_repr f.position, hf⟩, .inl rfl⟩

/-- What is written for a failure writes its document, without white space. -/
theorem written_toJson (f : Failure) : Json.Written f.document f.toJson := by
  have member (name : String) {j : Json} {w : List Char} (hw : Json.Written j w) :
      Json.Member Json.Written (Json.codes name, j) (Json.quote name.toList ++ ':' :: w) := by
    simpa using Json.Member.mk (Json.quoted_quote name) Json.spaces_nil Json.spaces_nil hw
  have hexpected := member "expected" (.string (Json.quoted_quote f.expected))
  have hposition := member "position"
    (.number (Json.numeral_of_whole (Json.whole_repr f.position)))
  have hkind := member "kind" (.string (Json.quoted_quote f.kind.name))
  have hobject := Json.Written.object Json.spaces_nil
    (.more hexpected Json.spaces_nil Json.spaces_nil
      (.more hposition Json.spaces_nil Json.spaces_nil (.last hkind Json.spaces_nil)))
  have htext : f.toJson = '{' :: [] ++ (Json.quote "expected".toList ++ ':' ::
      Json.quote f.expected.toList ++ [] ++ ',' :: [] ++ (Json.quote "position".toList ++ ':' ::
        (Nat.repr f.position).toList ++ [] ++ ',' :: [] ++ (Json.quote "kind".toList ++ ':' ::
          Json.quote f.kind.name.toList ++ [] ++ ['}']))) := by
    delta toJson
    simp [Json.quote, Json.escape]
  rw [htext]
  simpa [document, coded] using hobject

theorem Denotes.position_le {j : Json} {f : Failure} (h : Denotes j f) :
    f.position ≤ maxOffset := by
  cases h with
  | object _ _ _ hparts =>
    obtain ⟨_, _, _, _, hle⟩ := hparts.position
    exact hle
  | array hparts =>
    obtain ⟨_, _, _, _, hle⟩ := hparts.position
    exact hle

theorem readJson?_eq_some_iff {text : List Char} {f : Failure} :
    readJson? text = some f ↔ ∃ j, Json.Document j text ∧ Denotes j f := by
  simp only [readJson?, Option.bind_eq_some_iff, Json.read?_eq_some_iff, ofJson?_iff]

theorem readJson?_toJson {f : Failure} (hf : f.position ≤ maxOffset) :
    readJson? f.toJson = some f :=
  readJson?_eq_some_iff.2 ⟨_, (written_toJson f).document, denotes_document hf⟩

/-- **Failures come back from JSON.** What is written for a failure with a position in range is
read as this failure. A text is read as a failure if and only if it is a document that denotes it.
A failure that has been read has a position in range, and comes back in the same way. -/
theorem json_round_trip :
    (∀ f : Failure, f.position ≤ maxOffset → readJson? f.toJson = some f) ∧
    (∀ text f, readJson? text = some f ↔ ∃ j, Json.Document j text ∧ Denotes j f) ∧
    ∀ text f, readJson? text = some f → f.position ≤ maxOffset ∧ readJson? f.toJson = some f := by
  refine ⟨fun f => readJson?_toJson, fun text f => readJson?_eq_some_iff, fun text f h => ?_⟩
  obtain ⟨j, -, hdenotes⟩ := readJson?_eq_some_iff.1 h
  exact ⟨hdenotes.position_le, readJson?_toJson hdenotes.position_le⟩

/-- The members in another order, with an unknown one twice, escapes in the label, and the largest
position. -/
theorem json_round_trip_reordered :
    let f : Failure := ⟨"\"\\\nλ", maxOffset, .trailingInput⟩
    let text :=
      (" \x7b\"kind\": \x7b\"trailing_input\":null\x7d, \"x\":[1.5e-3, \x7b\x7d], " ++
        "\"position\":18446744073709551615,\"x\":\"\\ud800\", " ++
        "\"expected\" : \"\\\"\\\\\\n\\u03bb\"\x7d ").toList
    readJson? text = some f ∧ f.position ≤ maxOffset ∧ readJson? f.toJson = some f ∧
      ∃ j, Json.Document j text ∧ Denotes j f := by
  intro f text
  have hread : readJson? text = some f := by decide +kernel
  obtain ⟨hf, hback⟩ := json_round_trip.2.2 text f hread
  exact ⟨hread, hf, hback, (json_round_trip.2.1 text f).1 hread⟩

end Failure

end Descent
