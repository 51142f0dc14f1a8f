import Descent.Proofs.Tokens

/-!
# The documents of JSON

Which texts write which value, as a grammar apart from the reader (`Written`): white space may stand
around every token, the elements of an array and the members of an object are apart by commas, and
no comma stands before the closing bracket. The reader accepts exactly the texts of this grammar.

Both directions are proved for a reader with some fuel. What it finds is written there (`Sound`);
and it finds what is written, if the fuel is at least the length of the text and the text does not
go on with a numeral (`Complete`). Each of the three readers calls the others with one unit less, on
a text that is shorter by a bracket or a comma.

Main statement: `read?_eq_some_iff`.
-/

namespace Descent.Json

/-! ## The grammar -/

variable {α : Type}

/-- One element or more up to a closing character, apart by commas, with white space before and
after each comma and before the closing character. -/
inductive Listed (close : Char) (Element : α → List Char → Prop) : List α → List Char → Prop
  | last {x w b} (h : Element x w) (hb : Spaces b) : Listed close Element [x] (w ++ b ++ [close])
  | more {x w b a xs tail} (h : Element x w) (hb : Spaces b) (ha : Spaces a)
      (htail : Listed close Element xs tail) :
      Listed close Element (x :: xs) (w ++ b ++ ',' :: a ++ tail)

/-- A name, a colon and a value. -/
inductive Member (Value : Json → List Char → Prop) : List Nat × Json → List Char → Prop
  | mk {name q b a j w} (hname : Quoted name q) (hb : Spaces b) (ha : Spaces a) (hw : Value j w) :
      Member Value (name, j) (q ++ b ++ ':' :: a ++ w)

/-- `Written j w`: the characters `w` write the value `j`, with no white space around it. -/
inductive Written : Json → List Char → Prop
  | null : Written .null "null".toList
  | bool (b : Bool) : Written (.bool b) (if b then "true".toList else "false".toList)
  | number {w} (h : Numeral w) : Written (.number w) w
  | string {codes w} (h : Quoted codes w) : Written (.string codes) w
  | emptyArray {a} (ha : Spaces a) : Written (.array []) ('[' :: a ++ [']'])
  | array {a items w} (ha : Spaces a) (h : Listed ']' Written items w) :
      Written (.array items) ('[' :: a ++ w)
  | emptyObject {a} (ha : Spaces a) : Written (.object []) ('{' :: a ++ ['}'])
  | object {a members w} (ha : Spaces a) (h : Listed '}' (Member Written) members w) :
      Written (.object members) ('{' :: a ++ w)

/-- `Document j text`: the text is the value `j` between white space. -/
def Document (j : Json) (text : List Char) : Prop :=
  ∃ a w b, text = a ++ w ++ b ∧ Spaces a ∧ Written j w ∧ Spaces b

theorem Written.document {j : Json} {w : List Char} (h : Written j w) : Document j w :=
  ⟨[], w, [], by simp, spaces_nil, h, spaces_nil⟩

theorem Listed.head {close : Char} {Element : α → List Char → Prop} {xs : List α} {w : List Char}
    (h : Listed close Element xs w) : ∃ x u v, Element x u ∧ w = u ++ v := by
  cases h with
  | last h => exact ⟨_, _, _, h, List.append_assoc _ _ _⟩
  | @more x w b a xs tail h => exact ⟨x, w, b ++ ',' :: a ++ tail, h, by simp⟩

/-- A value does not begin with white space, nor with a closing bracket. -/
theorem Written.head {j : Json} {w : List Char} (h : Written j w) :
    ∃ c u, w = c :: u ∧ isSpace c = false ∧ c ≠ ']' := by
  cases h with
  | number h =>
    obtain ⟨c, u, rfl, hc⟩ := h.head
    refine ⟨c, u, rfl, isSpace_eq_false hc, ?_⟩
    rintro rfl
    simp at hc
  | string h =>
    obtain ⟨units, body, -, -, rfl⟩ := h
    exact ⟨_, _, rfl, rfl, by decide⟩
  | bool b =>
    cases b with
    | false => exact ⟨_, _, rfl, rfl, by decide⟩
    | true => exact ⟨_, _, rfl, rfl, by decide⟩
  | null => exact ⟨_, _, rfl, rfl, by decide⟩
  | emptyArray => exact ⟨_, _, rfl, rfl, by decide⟩
  | array => exact ⟨_, _, rfl, rfl, by decide⟩
  | emptyObject => exact ⟨_, _, rfl, rfl, by decide⟩
  | object => exact ⟨_, _, rfl, rfl, by decide⟩

/-! ## What is found is written there -/

section Sound

variable {a b w rest text : List Char} {fuel : Nat}

/-- What the reader finds stands in the text, after white space. -/
def Sound (read : List Char → Option (α × List Char)) (Phrase : α → List Char → Prop) : Prop :=
  ∀ ⦃text x rest⦄, read text = some (x, rest) →
    ∃ a w, Spaces a ∧ Phrase x w ∧ text = a ++ w ++ rest

theorem after?_eq_some_iff {fixed : String} :
    after? fixed text = some rest ↔ text = fixed.toList ++ rest := by
  have hlength : fixed.length = fixed.toList.length := String.length_toList.symm
  rw [after?, hlength]
  constructor
  · intro h
    by_cases hfixed : fixed.toList.isPrefixOf text
    · obtain ⟨tail, rfl⟩ := List.isPrefixOf_iff_prefix.1 hfixed
      simpa using h
    · simp [hfixed] at h
  · intro h
    subst h
    simp

theorem sound_value? (hitems : Sound (items? fuel) (Listed ']' Written))
    (hmembers : Sound (members? fuel) (Listed '}' (Member Written))) :
    Sound (value? (fuel + 1)) Written := by
  intro text j rest h
  obtain ⟨a, ha, htext⟩ := exists_spaces text
  rw [value?] at h
  suffices ∃ w, Written j w ∧ skipSpace text = w ++ rest by
    obtain ⟨w, hw, hskip⟩ := this
    exact ⟨a, w, ha, hw, by rw [htext, hskip, List.append_assoc]⟩
  generalize skipSpace text = tail at h
  split at h
  · simp at h
  · simp only [Option.map_eq_some_iff, Prod.mk.injEq, Prod.exists] at h
    obtain ⟨codes, _, hread, rfl, rfl⟩ := h
    obtain ⟨w, hw, rfl⟩ := string?_eq_some_iff.1 hread
    exact ⟨_, .string hw, rfl⟩
  · next tail =>
    obtain ⟨b, hb, htail⟩ := exists_spaces tail
    rw [htail]
    generalize skipSpace tail = tail at h
    split at h
    · cases h
      exact ⟨_, .emptyArray hb, by simp⟩
    · simp only [Option.map_eq_some_iff, Prod.mk.injEq, Prod.exists] at h
      obtain ⟨items, _, hread, rfl, rfl⟩ := h
      obtain ⟨a, w, ha, hw, rfl⟩ := hitems hread
      exact ⟨_, .array (spaces_append hb ha) hw, by simp⟩
  · next tail =>
    obtain ⟨b, hb, htail⟩ := exists_spaces tail
    rw [htail]
    generalize skipSpace tail = tail at h
    split at h
    · cases h
      exact ⟨_, .emptyObject hb, by simp⟩
    · simp only [Option.map_eq_some_iff, Prod.mk.injEq, Prod.exists] at h
      obtain ⟨members, _, hread, rfl, rfl⟩ := h
      obtain ⟨a, w, ha, hw, rfl⟩ := hmembers hread
      exact ⟨_, .object (spaces_append hb ha) hw, by simp⟩
  · simp only [Option.map_eq_some_iff, after?_eq_some_iff, Prod.mk.injEq] at h
    obtain ⟨_, rfl, rfl, rfl⟩ := h
    exact ⟨_, .null, rfl⟩
  · simp only [Option.map_eq_some_iff, after?_eq_some_iff, Prod.mk.injEq] at h
    obtain ⟨_, rfl, rfl, rfl⟩ := h
    exact ⟨_, .bool true, rfl⟩
  · simp only [Option.map_eq_some_iff, after?_eq_some_iff, Prod.mk.injEq] at h
    obtain ⟨_, rfl, rfl, rfl⟩ := h
    exact ⟨_, .bool false, rfl⟩
  · simp only [Option.map_eq_some_iff, Prod.mk.injEq, Prod.exists] at h
    obtain ⟨numeral, _, hread, rfl, rfl⟩ := h
    obtain ⟨htext, hw⟩ := numeral?_sound hread
    exact ⟨_, .number hw, htext⟩

theorem sound_items? (hvalue : Sound (value? fuel) Written)
    (hitems : Sound (items? fuel) (Listed ']' Written)) :
    Sound (items? (fuel + 1)) (Listed ']' Written) := by
  intro text items rest h
  simp only [items?, Option.bind_eq_bind, Option.bind_eq_some_iff, Prod.exists] at h
  obtain ⟨item, after, hread, h⟩ := h
  obtain ⟨a, w, ha, hw, rfl⟩ := hvalue hread
  obtain ⟨b, hb, hafter⟩ := exists_spaces after
  rw [hafter]
  generalize skipSpace after = tail at h
  split at h
  · simp only [Option.bind_eq_some_iff, Option.pure_def, Option.some.injEq, Prod.mk.injEq,
      Prod.exists] at h
    obtain ⟨items, _, hread, rfl, rfl⟩ := h
    obtain ⟨c, v, hc, hv, rfl⟩ := hitems hread
    exact ⟨a, _, ha, .more hw hb hc hv, by simp⟩
  · cases h
    exact ⟨a, _, ha, .last hw hb, by simp⟩
  · simp at h

theorem sound_members? (hvalue : Sound (value? fuel) Written)
    (hmembers : Sound (members? fuel) (Listed '}' (Member Written))) :
    Sound (members? (fuel + 1)) (Listed '}' (Member Written)) := by
  intro text members rest h
  simp only [members?, Option.bind_eq_bind, Option.bind_eq_some_iff, Prod.exists,
    after?_eq_some_iff, string?_eq_some_iff] at h
  obtain ⟨quoted, hquote, name, unread, ⟨q, hname, rfl⟩, tail, hcolon, value, after, hread, h⟩ := h
  obtain ⟨a, ha, htext⟩ := exists_spaces text
  obtain ⟨b, hb, hunread⟩ := exists_spaces unread
  obtain ⟨c, w, hc, hw, rfl⟩ := hvalue hread
  obtain ⟨d, hd, hafter⟩ := exists_spaces after
  have hmember := Member.mk hname hb hc hw
  rw [htext, hquote, hunread, hcolon, hafter]
  generalize skipSpace after = tail at h
  split at h
  · simp only [Option.bind_eq_some_iff, Option.pure_def, Option.some.injEq, Prod.mk.injEq,
      Prod.exists] at h
    obtain ⟨members, _, hread, rfl, rfl⟩ := h
    obtain ⟨e, v, he, hv, rfl⟩ := hmembers hread
    exact ⟨a, _, ha, .more hmember hd he hv, by simp⟩
  · cases h
    exact ⟨a, _, ha, .last hmember hd, by simp⟩
  · simp at h

/-- What the readers find is written in the text. -/
theorem readers_sound (fuel : Nat) : Sound (value? fuel) Written ∧
    Sound (items? fuel) (Listed ']' Written) ∧
      Sound (members? fuel) (Listed '}' (Member Written)) := by
  induction fuel with
  | zero =>
    refine ⟨?_, ?_, ?_⟩ <;> intro text x rest h
    · simp [value?] at h
    · simp [items?] at h
    · simp [members?] at h
  | succ fuel ih =>
    obtain ⟨hvalue, hitems, hmembers⟩ := ih
    exact ⟨sound_value? hitems hmembers, sound_items? hvalue hitems, sound_members? hvalue hmembers⟩

end Sound

/-! ## What is written is found -/

section Complete

variable {a b w rest text : List Char} {fuel : Nat}

/-- With enough fuel, the reader finds a phrase after white space, where the text after it does not
go on with a numeral. -/
def Complete (fuel : Nat) (read : List Char → Option (α × List Char))
    (Phrase : α → List Char → Prop) : Prop :=
  ∀ ⦃a w x rest⦄, Spaces a → Phrase x w → Ends rest → w.length ≤ fuel →
    read (a ++ w ++ rest) = some (x, rest)

theorem ends_close {c : Char} (hb : Spaces b) (hc : c = ',' ∨ c = ']' ∨ c = '}')
    (rest : List Char) : Ends (b ++ c :: rest) := by
  refine Ends.spaces_append (fun d hd => ?_) hb
  obtain rfl : c = d := by simpa using hd
  rcases hc with rfl | rfl | rfl <;> decide

theorem complete_items? (hvalue : Complete fuel (value? fuel) Written)
    (hitems : Complete fuel (items? fuel) (Listed ']' Written)) :
    Complete (fuel + 1) (items? (fuel + 1)) (Listed ']' Written) := by
  intro a w items rest ha h hrest hfuel
  cases h with
  | @last j w b hw hb =>
    simp only [List.length_append, List.length_singleton] at hfuel
    have hread := hvalue ha hw (ends_close hb (.inr (.inl rfl)) rest) (by omega)
    have hskip := skipSpace_append_cons hb (c := ']') (by decide) rest
    simp only [List.append_assoc, List.singleton_append] at hread ⊢
    simp [items?, hread, hskip]
  | @more j w b c items tail hw hb hc htail =>
    simp only [List.length_append, List.length_cons] at hfuel
    have hread := hvalue ha hw (ends_close hb (.inl rfl) (c ++ tail ++ rest)) (by omega)
    have hskip := skipSpace_append_cons hb (c := ',') (by decide) (c ++ tail ++ rest)
    have hmore := hitems hc htail hrest (by omega)
    simp only [List.append_assoc, List.cons_append] at hread hskip hmore ⊢
    simp [items?, hread, hskip, hmore]

/-- A member is read off the front, and the next character decides whether it is the last one. -/
theorem members?_member (hvalue : Complete fuel (value? fuel) Written) {m : List Nat × Json}
    (ha : Spaces a) (h : Member Written m w) (hends : Ends text) (hfuel : w.length ≤ fuel) :
    (∀ rest, skipSpace text = '}' :: rest →
      members? (fuel + 1) (a ++ w ++ text) = some ([m], rest)) ∧
    ∀ tail ms rest, skipSpace text = ',' :: tail → members? fuel tail = some (ms, rest) →
      members? (fuel + 1) (a ++ w ++ text) = some (m :: ms, rest) := by
  obtain ⟨hname, hb, hc, hv⟩ := h
  rename_i name q b c j v
  obtain ⟨u, rfl⟩ := hname.head
  simp only [List.length_append, List.length_cons] at hfuel
  -- What is left after the quote, the name and the colon.
  let text₂ := c ++ (v ++ text)
  let text₁ := b ++ ':' :: text₂
  have hquote := skipSpace_append_cons ha (c := '"') (by decide) (u ++ text₁)
  have hopen : after? "\"" ('"' :: (u ++ text₁)) = some (u ++ text₁) := after?_eq_some_iff.2 rfl
  have hstring : string? (u ++ text₁) = some (name, text₁) :=
    string?_eq_some_iff.2 ⟨u, hname, rfl⟩
  have hskip := skipSpace_append_cons hb (c := ':') (by decide) text₂
  have hcolon : after? ":" (':' :: text₂) = some text₂ := after?_eq_some_iff.2 rfl
  have hread : value? fuel text₂ = some (j, text) := by
    simpa [text₂] using hvalue hc hv hends (by omega)
  have htext : a ++ ('"' :: u ++ b ++ ':' :: c ++ v) ++ text = a ++ '"' :: (u ++ text₁) := by
    simp [text₁, text₂]
  rw [htext]
  refine ⟨fun rest hclose => ?_, fun tail ms rest hcomma hmore => ?_⟩
  · simp [members?, hquote, hopen, hstring, text₁, hskip, hcolon, hread, hclose]
  · simp [members?, hquote, hopen, hstring, text₁, hskip, hcolon, hread, hcomma, hmore]

theorem complete_members? (hvalue : Complete fuel (value? fuel) Written)
    (hmembers : Complete fuel (members? fuel) (Listed '}' (Member Written))) :
    Complete (fuel + 1) (members? (fuel + 1)) (Listed '}' (Member Written)) := by
  intro a w members rest ha h hrest hfuel
  cases h with
  | @last m w b hm hb =>
    simp only [List.length_append, List.length_singleton] at hfuel
    have hread := members?_member hvalue ha hm (ends_close hb (.inr (.inr rfl)) rest)
      (by omega)
    have hlast := hread.1 rest (skipSpace_append_cons hb (by decide) rest)
    simpa only [List.append_assoc, List.singleton_append] using hlast
  | @more m w b c members tail hm hb hc htail =>
    simp only [List.length_append, List.length_cons] at hfuel
    have hread := members?_member hvalue ha hm
      (ends_close hb (.inl rfl) (c ++ tail ++ rest)) (by omega)
    have hmore := hread.2 _ members rest (skipSpace_append_cons hb (by decide) _)
      (hmembers hc htail hrest (by omega))
    simpa only [List.append_assoc, List.cons_append] using hmore

theorem value?_numeral {c : Char} (ha : Spaces a) (hc : c = '-' ∨ c.isDigit) (text : List Char) :
    value? (fuel + 1) (a ++ c :: text) =
      (numeral? (c :: text)).map fun r => (number r.1, r.2) := by
  have hne : ∀ d : Char, ¬ (d = '-' ∨ d.isDigit) → c ≠ d := by
    rintro d hd rfl
    exact hd hc
  rw [value?, skipSpace_append_cons ha (isSpace_eq_false hc)]
  simp [hne '"' (by decide), hne '[' (by decide), hne '\x7b' (by decide), hne 'n' (by decide),
    hne 't' (by decide), hne 'f' (by decide)]

theorem complete_value? (hitems : Complete fuel (items? fuel) (Listed ']' Written))
    (hmembers : Complete fuel (members? fuel) (Listed '}' (Member Written))) :
    Complete (fuel + 1) (value? (fuel + 1)) Written := by
  intro a w j rest ha h hrest hfuel
  cases h with
  | null =>
    have hskip := skipSpace_append_cons ha (c := 'n') (by decide) ('u' :: 'l' :: 'l' :: rest)
    have hread : after? "ull" ('u' :: 'l' :: 'l' :: rest) = some rest := after?_eq_some_iff.2 rfl
    simp [value?, hskip, hread]
  | bool b =>
    cases b with
    | false =>
      have hskip := skipSpace_append_cons ha (c := 'f') (by decide)
        ('a' :: 'l' :: 's' :: 'e' :: rest)
      have hread : after? "alse" ('a' :: 'l' :: 's' :: 'e' :: rest) = some rest :=
        after?_eq_some_iff.2 rfl
      simp [value?, hskip, hread]
    | true =>
      have hskip := skipSpace_append_cons ha (c := 't') (by decide) ('r' :: 'u' :: 'e' :: rest)
      have hread : after? "rue" ('r' :: 'u' :: 'e' :: rest) = some rest := after?_eq_some_iff.2 rfl
      simp [value?, hskip, hread]
  | number h =>
    obtain ⟨c, v, rfl, hc⟩ := h.head
    have hread := numeral?_complete h hrest
    simp only [List.append_assoc, List.cons_append] at hread ⊢
    rw [value?_numeral ha hc, hread, Option.map_some]
  | string h =>
    obtain ⟨u, rfl⟩ := h.head
    have hskip := skipSpace_append_cons ha (c := '"') (by decide) (u ++ rest)
    have hread : string? (u ++ rest) = _ := string?_eq_some_iff.2 ⟨u, h, rfl⟩
    simp [value?, hskip, hread]
  | @emptyArray b hb =>
    have hskip := skipSpace_append_cons ha (c := '[') (by decide) (b ++ ']' :: rest)
    have hclose := skipSpace_append_cons hb (c := ']') (by decide) rest
    simp [value?, hskip, hclose]
  | @array b items w hb h =>
    simp only [List.cons_append, List.length_cons, List.length_append] at hfuel
    have hskip := skipSpace_append_cons ha (c := '[') (by decide) (b ++ w ++ rest)
    have hread := hitems spaces_nil h hrest (by omega)
    obtain ⟨j, u, v, hj, rfl⟩ := h.head
    obtain ⟨c, u, rfl, hspace, hc⟩ := hj.head
    have hfirst := skipSpace_append_cons hb hspace (u ++ v ++ rest)
    simp only [List.append_assoc, List.cons_append, List.nil_append] at hskip hread hfirst ⊢
    simp [value?, hskip, hfirst, hread, hc]
  | @emptyObject b hb =>
    have hskip := skipSpace_append_cons ha (c := '{') (by decide) (b ++ '}' :: rest)
    have hclose := skipSpace_append_cons hb (c := '}') (by decide) rest
    simp [value?, hskip, hclose]
  | @object b members w hb h =>
    simp only [List.cons_append, List.length_cons, List.length_append] at hfuel
    have hskip := skipSpace_append_cons ha (c := '{') (by decide) (b ++ w ++ rest)
    have hread := hmembers spaces_nil h hrest (by omega)
    obtain ⟨m, u, v, ⟨hname, -, -, -⟩, rfl⟩ := h.head
    obtain ⟨q, rfl⟩ := hname.head
    have hfirst := skipSpace_append_cons hb (c := '"') (by decide)
    simp only [List.append_assoc, List.cons_append, List.nil_append] at hskip hread ⊢
    simp [value?, hskip, hfirst, hread]

/-- What is written is found, by readers with as much fuel as the text is long. -/
theorem readers_complete (fuel : Nat) : Complete fuel (value? fuel) Written ∧
    Complete fuel (items? fuel) (Listed ']' Written) ∧
      Complete fuel (members? fuel) (Listed '}' (Member Written)) := by
  induction fuel with
  | zero =>
    refine ⟨?_, ?_, ?_⟩ <;> intro a w x rest _ h _ hfuel
    · obtain ⟨c, u, rfl, -⟩ := h.head
      simp at hfuel
    · obtain ⟨j, u, v, hj, rfl⟩ := h.head
      obtain ⟨c, u, rfl, -⟩ := hj.head
      simp at hfuel
    · obtain ⟨m, u, v, ⟨hname, -, -, -⟩, rfl⟩ := h.head
      obtain ⟨q, rfl⟩ := hname.head
      simp at hfuel
  | succ fuel ih =>
    obtain ⟨hvalue, hitems, hmembers⟩ := ih
    exact ⟨complete_value? hitems hmembers, complete_items? hvalue hitems,
      complete_members? hvalue hmembers⟩

end Complete

/-- **Reading a document.** The reader accepts the texts that write a value between white space, and
finds this value. -/
theorem read?_eq_some_iff {text : List Char} {j : Json} :
    read? text = some j ↔ Document j text := by
  simp only [read?, Option.bind_eq_bind, Option.bind_eq_some_iff, Prod.exists, List.isEmpty_iff,
    Option.ite_none_right_eq_some, skipSpace_eq_nil_iff, Option.some.injEq]
  constructor
  · intro h
    obtain ⟨_, b, hread, hb, rfl⟩ := h
    obtain ⟨a, w, ha, hw, htext⟩ := (readers_sound _).1 hread
    exact ⟨a, w, b, htext, ha, hw, hb⟩
  · intro h
    obtain ⟨a, w, b, rfl, ha, hw, hb⟩ := h
    have hends : Ends b := by simpa using ends_nil.spaces_append hb
    have hlength : w.length ≤ 2 * (a ++ w ++ b).length + 2 := by
      simp only [List.length_append]
      omega
    exact ⟨j, b, (readers_complete _).1 ha hw hends hlength, hb, rfl⟩

end Descent.Json
