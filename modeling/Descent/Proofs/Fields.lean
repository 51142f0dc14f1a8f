import Descent.Proofs.Lossless
import Descent.Proofs.Munch
import Descent.Proofs.Pairs

/-!
# Fields and their delimiters

Fields in a row with a delimiter between any two are the text `d.intercalate fields`. A repetition
with a text as its delimiter takes this apart again: if its element reads each field where it
stands, it yields the values of all of them, also of empty ones, since a pair gets further by its
delimiter (`Parser.ReadsFields.parse_delimited`). The other way round, a repetition of elements that
yield what they have read has read its values with the delimiter between them
(`Parser.Spells.delimited_literal`).

Of one row of a table, where the fields are what stands between commas, this makes the repetition of
the pattern `[^,\n]*`.

Main statement: `Parser.delimited_undoes_join`.
-/

namespace Descent

/-! ## Fields in a row -/

/-- What stands behind a field: the delimiter and the later fields, or nothing behind the last. -/
def behind (d : String) : List String → List Char
  | [] => []
  | fields => d.toList ++ (d.intercalate fields).toList

theorem toList_intercalate_cons (d field : String) (fields : List String) :
    (d.intercalate (field :: fields)).toList = field.toList ++ behind d fields := by
  cases fields with
  | nil => rw [String.intercalate_singleton, behind, List.append_nil]
  | cons next fields =>
    rw [String.intercalate_cons_cons, String.toList_append, String.toList_append,
      List.append_assoc, behind]
    exact List.cons_ne_nil _ _

theorem behind_cons (d field : String) (fields : List String) :
    behind d (field :: fields) = d.toList ++ (field.toList ++ behind d fields) := by
  rw [← toList_intercalate_cons, behind]
  exact List.cons_ne_nil _ _

/-- The characters of a piece are those of the text, and none of them is the separator. -/
theorem mem_of_mem_splitOn {a c : Char} {text piece : List Char} (hpiece : piece ∈ text.splitOn a)
    (hc : c ∈ piece) : c ∈ text ∧ c ≠ a := by
  induction text generalizing piece with
  | nil =>
    rw [List.splitOn_nil, List.mem_singleton] at hpiece
    subst hpiece
    cases hc
  | cons x text ih =>
    have htail : ∀ w ∈ text.splitOn a, c ∈ w → c ∈ x :: text ∧ c ≠ a :=
      fun w hw hcw => (ih hw hcw).imp_left (List.mem_cons_of_mem x)
    rw [List.splitOn_cons_eq_if_modifyHead] at hpiece
    obtain ⟨head, pieces, hsplit⟩ := List.exists_cons_of_ne_nil (List.splitOn_ne_nil a text)
    rw [hsplit] at hpiece htail
    by_cases hx : x = a
    · rw [if_pos (beq_iff_eq.2 hx), List.mem_cons] at hpiece
      rcases hpiece with rfl | hpiece
      · cases hc
      · exact htail piece hpiece hc
    · -- The character goes in front of the first piece.
      rw [if_neg (mt beq_iff_eq.1 hx), List.modifyHead_cons, List.mem_cons] at hpiece
      rcases hpiece with rfl | hpiece
      · rcases List.mem_cons.1 hc with rfl | hc
        · exact ⟨List.mem_cons_self, hx⟩
        · exact htail head List.mem_cons_self hc
      · exact htail piece (List.mem_cons_of_mem _ hpiece) hc

namespace Pattern

open Unicode (CodeSet)

/-- All characters but commas and ends of lines. -/
def fieldSet : CodeSet := ((CodeSet.empty.union (.single 0x2C)).union (.single 0xA)).complement

theorem contains_fieldSet {c : Char} : fieldSet.contains c.toNat ↔ c ≠ ',' ∧ c ≠ '\n' := by
  have hcomma : (CodeSet.single 0x2C).contains c.toNat ↔ c = ',' :=
    CodeSet.contains_single.trans (@Char.toNat_inj c ',')
  have hline : (CodeSet.single 0xA).contains c.toNat ↔ c = '\n' :=
    CodeSet.contains_single.trans (@Char.toNat_inj c '\n')
  have hempty : CodeSet.empty.contains c.toNat = false := rfl
  simp only [fieldSet, CodeSet.contains_complement, CodeSet.contains_union, hempty, Bool.false_or,
    Bool.not_or, Bool.and_eq_true, Bool.not_eq_true', Bool.eq_false_iff, ne_eq, hcomma, hline]

theorem compile_field : compile "[^,\\n]*" {} = .ok (.ofExpr (.anyOf fieldSet)) := by
  decide +kernel

end Pattern

namespace Parser

variable {α : Type} {p : Parser α} {d : String} {fields : List (String × α)}
  {after front : List Char} {s t : State} {v : α}

/-! ## From fields to values -/

/-- Where a field stands after `s`, with the later fields and then `after` behind it, the parser
reads exactly this field and yields its value. -/
def ReadsFields (p : Parser α) (d : String) (fields : List (String × α)) (after : List Char)
    (s : State) : Prop :=
  ∀ field v later, (field, v) :: later <:+ fields → ∀ t, s.Precedes t →
    t.remaining = field.toList ++ (behind d (later.map Prod.fst) ++ after) →
      ∃ u, p t = .success v u ∧ t.Reads field.toList u

theorem ReadsFields.of_suffix (h : p.ReadsFields d fields after s) {later : List (String × α)}
    (hlater : later <:+ fields) (hst : s.Precedes t) : p.ReadsFields d later after t :=
  fun field v rest hrest u htu => h field v rest (hrest.trans hlater) u (hst.trans htu)

/-- The repetition takes one pair after another, and ends behind the last field. -/
theorem ReadsFields.pairs (hd : d.toList ≠ []) (hafter : ¬ d.toList <+: after) (hs : s.Fits)
    (htext : s.remaining = behind d (fields.map Prod.fst) ++ after)
    (h : p.ReadsFields d fields after s) :
    ∃ t, p.Pairs (some (literal d)) s (fields.map Prod.snd) t ∧
      p.PairsEnd (some (literal d)) t ∧ s.Reads (behind d (fields.map Prod.fst)) t := by
  induction fields generalizing s with
  | nil =>
    have hprefix : ¬ d.toList <+: s.remaining := by rwa [htext]
    obtain ⟨e, he⟩ := literal_of_not_prefix hprefix
    exact ⟨s, .nil s, .delimiter he, .refl s⟩
  | cons pair fields ih =>
    obtain ⟨field, v⟩ := pair
    rw [List.map_cons, behind_cons, List.append_assoc, List.append_assoc] at htext
    obtain ⟨t, hdelimiter, ht, hfits⟩ := hs.exists_reads htext
    obtain ⟨u, hp, hfield⟩ := h field v fields (List.suffix_refl _) t hdelimiter.precedes ht
    have hu : u.remaining = behind d (fields.map Prod.fst) ++ after :=
      List.append_cancel_left (hfield.1.symm.trans ht)
    have hsu := hdelimiter.precedes.trans hfield.precedes
    obtain ⟨w, hpairs, hend, hreads⟩ := ih (hs.of_precedes hsu) hu
      (h.of_suffix (List.suffix_cons _ _) hsu)
    have hpair : p.Pair (some (literal d)) s v u :=
      .delimited (literal_eq_success_iff.2 ⟨hdelimiter, rfl⟩) hp
    -- The field may be empty, but the delimiter is not.
    have hlt : s.consumed < u.consumed :=
      Nat.lt_of_lt_of_le (hdelimiter.consumed_lt hd) hfield.precedes.consumed_le
    refine ⟨w, .cons hpair hlt hpairs, hend, ?_⟩
    rw [List.map_cons, behind_cons]
    exact hdelimiter.trans (hfield.trans hreads)

theorem ReadsFields.delimited (hd : d.toList ≠ []) (hafter : ¬ d.toList <+: after)
    (hs : s.Fits) (hfields : fields ≠ [])
    (htext : s.remaining = (d.intercalate (fields.map Prod.fst)).toList ++ after)
    (h : p.ReadsFields d fields after s) (atLeastOne : Bool) :
    ∃ t, p.delimited atLeastOne (some (literal d)) s = .success (fields.map Prod.snd) t ∧
      s.Reads (d.intercalate (fields.map Prod.fst)).toList t := by
  obtain ⟨⟨field, v⟩, fields, rfl⟩ := List.exists_cons_of_ne_nil hfields
  rw [List.map_cons, toList_intercalate_cons, List.append_assoc] at htext
  obtain ⟨u, hp, hfield⟩ := h field v fields (List.suffix_refl _) s (.refl s) htext
  have hu : u.remaining = behind d (fields.map Prod.fst) ++ after :=
    List.append_cancel_left (hfield.1.symm.trans htext)
  obtain ⟨t, hpairs, hend, hreads⟩ := (h.of_suffix (List.suffix_cons _ _) hfield.precedes).pairs
    hd hafter (hs.of_precedes hfield.precedes) hu
  refine ⟨t, (delimited_eq_success_iff_pairs hp atLeastOne).2 ⟨_, rfl, hpairs, hend⟩, ?_⟩
  rw [List.map_cons, toList_intercalate_cons]
  exact hfield.trans hreads

/-- A run that reads the front of a text answers for the whole text. -/
theorem parse_of_reads (h : p (.start (front ++ after)) = .success v t)
    (hreads : (State.start (front ++ after)).Reads front t) :
    p.parse (front ++ after) =
      if after.isEmpty then .ok v else .error (.trailingInput (utf8Length front)) := by
  have hrest : t.remaining = after := (List.append_cancel_left hreads.1).symm
  have hconsumed : t.consumed = utf8Length front := hreads.2.trans (Nat.zero_add _)
  rw [parse, h]
  simp only [State.atEnd, hrest, hconsumed]

/-- **Fields are taken apart**, up to what stands behind the last one. -/
theorem ReadsFields.parse_delimited (hd : d.toList ≠ []) (hafter : ¬ d.toList <+: after)
    (hfields : fields ≠ []) {text : List Char}
    (htext : text = (d.intercalate (fields.map Prod.fst)).toList)
    (hfits : utf8Length (text ++ after) ≤ maxOffset)
    (h : p.ReadsFields d fields after (.start (text ++ after))) (atLeastOne : Bool) :
    (p.delimited atLeastOne (some (literal d))).parse (text ++ after) =
      if after.isEmpty then .ok (fields.map Prod.snd)
      else .error (.trailingInput (utf8Length text)) := by
  have hs := State.fits_start_iff.2 hfits
  subst htext
  obtain ⟨t, hrun, hreads⟩ := h.delimited hd hafter hs hfields rfl atLeastOne
  exact parse_of_reads hrun hreads

/-! ## From values to fields -/

theorem Pairs.reads_behind {p : Parser String} (hp : p.Spells String.toList) {values : List String}
    (h : p.Pairs (some (literal d)) s values t) : s.Reads (behind d values) t := by
  induction h with
  | nil s => exact .refl s
  | cons hpair _ _ ih =>
    cases hpair with
    | delimited hdelimiter helement =>
      rw [behind_cons]
      exact (literal_eq_success_iff.1 hdelimiter).1.trans ((hp helement).trans ih)

/-- **What a repetition has read is its values with the delimiter between them.** -/
theorem Spells.delimited_literal {p : Parser String} (hp : p.Spells String.toList) (d : String)
    (atLeastOne : Bool) :
    (p.delimited atLeastOne (some (literal d))).Spells fun values =>
      (d.intercalate values).toList := by
  intro s values t h
  rcases nil_or_pairs_of_delimited h with ⟨rfl, rfl⟩ | ⟨v, u, rest, hfirst, rfl, hpairs, -⟩
  · exact .refl t
  · show s.Reads (d.intercalate (v :: rest)).toList t
    rw [toList_intercalate_cons]
    exact (hp hfirst).trans (hpairs.reads_behind hp)

/-! ## A row of a table -/

theorem matching_anyOf {set : Unicode.CodeSet} {label : String} (hreads : s.Reads front t)
    (hlongest : Pattern.Longest set front t.remaining) :
    matching (.ofExpr (.anyOf set)) label s = .success (.ofList front) t := by
  rw [matching_eq_success_iff, String.toList_ofList, hreads.1, Pattern.matchEnd?_anyOf,
    Pattern.run_eq_of_longest hlongest]
  exact ⟨hreads, rfl⟩

/-- What stands between the commas of a line, each as a field and as its value. -/
def rowFields (line : List Char) : List (String × String) :=
  (line.splitOn ',').map fun piece => (.ofList piece, .ofList piece)

theorem rowFields_ne_nil (line : List Char) : rowFields line ≠ [] :=
  mt List.map_eq_nil_iff.1 (List.splitOn_ne_nil ',' line)

theorem intercalate_rowFields (line : List Char) :
    (",".intercalate ((rowFields line).map Prod.fst)).toList = line := by
  rw [String.toList_intercalate, rowFields, List.map_map, List.map_map]
  simp only [Function.comp_def, String.toList_ofList, List.map_id']
  exact List.intercalate_splitOn ','

/-- Up to the end of a line, the pattern reads what stands between two commas. -/
theorem readsFields_row {line : List Char} (hline : '\n' ∉ line) (hs : s.Fits)
    (hafter : ∀ c ∈ after.head?, c = '\n') (label : String) :
    (matching (.ofExpr (.anyOf Pattern.fieldSet)) label).ReadsFields "," (rowFields line) after
      s := by
  intro field v later hsuffix t hst ht
  obtain ⟨piece, hpiece, heq⟩ := List.mem_map.1 (hsuffix.subset List.mem_cons_self)
  cases heq
  obtain ⟨u, hreads, hu, -⟩ := (hs.of_precedes hst).exists_reads ht
  have hstop : ∀ c ∈ u.remaining.head?, c = ',' ∨ c = '\n' := by
    rw [hu]
    cases later with
    | nil => exact fun c hc => .inr (hafter c hc)
    | cons next later =>
      rw [List.map_cons, behind_cons]
      intro c hc
      cases hc
      exact .inl rfl
  rw [String.toList_ofList] at hreads
  refine ⟨u, matching_anyOf hreads ⟨fun c hc => ?_, fun c hc => ?_⟩, ?_⟩
  · have hmem := mem_of_mem_splitOn hpiece hc
    exact Pattern.contains_fieldSet.2 ⟨hmem.2, fun h => hline (h ▸ hmem.1)⟩
  · rw [Pattern.contains_fieldSet]
    exact fun h => (hstop c hc).elim h.1 h.2
  · rwa [String.toList_ofList]

/-- A row ends with its line, and has the text between its commas as its values. -/
theorem parse_row {line : List Char} (hline : '\n' ∉ line)
    (hfits : utf8Length (line ++ after) ≤ maxOffset) (hafter : ∀ c ∈ after.head?, c = '\n')
    (label : String) :
    ((matching (.ofExpr (.anyOf Pattern.fieldSet)) label).delimited true
        (some (literal ","))).parse (line ++ after) =
      if after.isEmpty then .ok ((line.splitOn ',').map .ofList)
      else .error (.trailingInput (utf8Length line)) := by
  have hvalues : (rowFields line).map Prod.snd = (line.splitOn ',').map String.ofList := by
    rw [rowFields, List.map_map]
    rfl
  have hcomma : ¬ ",".toList <+: after := by
    rintro ⟨rest, hrest⟩
    have hhead : ',' ∈ after.head? := by
      rw [← hrest]
      rfl
    exact absurd (hafter _ hhead) (by decide)
  have hread := readsFields_row hline (State.fits_start_iff.2 hfits) hafter label
  rw [← hvalues]
  exact hread.parse_delimited (by decide) hcomma (rowFields_ne_nil line)
    (intercalate_rowFields line).symm hfits true

/-! ## Repetitions with a text as their delimiter -/

theorem oneOrMore_text (p : Parser α) (d : String) :
    p.oneOrMore { text := some d } = p.delimited true (some (literal d)) :=
  delimited_value p true () (some (literal d))

theorem zeroOrMore_text (p : Parser α) (d : String) :
    p.zeroOrMore { text := some d } = p.delimited false (some (literal d)) :=
  delimited_value p false () (some (literal d))

/-- **Repetition undoes join, and join undoes repetition.** Let fields be joined by a delimiter that
is not empty, and let the element read each field where it stands. Then repeated once or more, or
any number of times, it yields the values of the fields for the whole text. If an element yields the
text that it has read, every success of a repetition has read its values joined by the delimiter,
also by an empty one. So a row of a table has as its values what stands between the commas of a text
without ends of lines, and otherwise it fails at the first end of a line, as input is left over. -/
theorem delimited_undoes_join :
    (∀ (α : Type) (p : Parser α) (d : String) (fields : List (String × α)), d ≠ "" → fields ≠ [] →
      let text := (d.intercalate (fields.map Prod.fst)).toList
      utf8Length text ≤ maxOffset → p.ReadsFields d fields [] (.start text) →
        (p.oneOrMore { text := some d }).parse text = .ok (fields.map Prod.snd) ∧
        (p.zeroOrMore { text := some d }).parse text = .ok (fields.map Prod.snd)) ∧
    (∀ (p : Parser String) (d : String), p.Spells String.toList → ∀ s values t,
      p.oneOrMore { text := some d } s = .success values t ∨
        p.zeroOrMore { text := some d } s = .success values t →
      s.Reads (d.intercalate values).toList t) ∧
    ∃ field, Pattern.compile "[^,\\n]*" {} = .ok field ∧
      let row := (matching field "[^,\\n]*").oneOrMore { text := some "," }
      ∀ text, utf8Length text ≤ maxOffset → row.parse text =
        if '\n' ∈ text then .error (.trailingInput (utf8Length (text.takeWhile (· != '\n'))))
        else .ok ((text.splitOn ',').map .ofList) := by
  refine ⟨?_, ?_, _, Pattern.compile_field, ?_⟩
  · intro α p d fields hd hfields text hfits h
    have hd' : d.toList ≠ [] := mt String.toList_eq_nil_iff.1 hd
    have hnil : ¬ d.toList <+: [] := mt List.prefix_nil.1 hd'
    rw [← List.append_nil text] at hfits h
    have hparse := h.parse_delimited hd' hnil hfields rfl hfits
    rw [List.append_nil] at hparse
    rw [oneOrMore_text, zeroOrMore_text]
    exact ⟨hparse true, hparse false⟩
  · intro p d hp s values t h
    rw [oneOrMore_text, zeroOrMore_text] at h
    rcases h with h | h
    · exact hp.delimited_literal d true h
    · exact hp.delimited_literal d false h
  · intro row text hfits
    have hrow : row = _ := oneOrMore_text _ ","
    rw [hrow]
    by_cases htext : '\n' ∈ text
    · obtain ⟨line, rest, rfl, hline⟩ := List.eq_append_cons_of_mem htext
      have htake : (line ++ '\n' :: rest).takeWhile (· != '\n') = line := by
        rw [List.takeWhile_append_of_pos fun c hc => ?_]
        · simp
        · simpa using fun h : c = '\n' => hline (h ▸ hc)
      rw [if_pos htext, htake]
      exact parse_row hline hfits (by simp) _
    · rw [← List.append_nil text] at hfits
      have hparse := parse_row htext hfits (by simp) "[^,\\n]*"
      rw [List.append_nil] at hparse
      rw [if_neg htext]
      exact hparse

/-- A field that is empty behind the last delimiter, a delimiter that is empty, and two rows of
which one ends too early. -/
theorem delimited_undoes_join_rows :
    let p := (literal "a").optional
    let u : State := ⟨['b'], 2, by decide⟩
    (p.oneOrMore { text := some ";" }).parse ['a', ';'] = .ok [some "a", none] ∧
    (p.zeroOrMore { text := some ";" }).parse ['a', ';'] = .ok [some "a", none] ∧
    (literal "a").oneOrMore { text := some "" } (.start ['a', 'a', 'b']) = .success ["a", "a"] u ∧
    (State.start ['a', 'a', 'b']).Reads ("".intercalate ["a", "a"]).toList u ∧
    ∃ field, Pattern.compile "[^,\\n]*" {} = .ok field ∧
      let row := (matching field "[^,\\n]*").oneOrMore { text := some "," }
      row.parse ['a', ',', ',', 'é'] = .ok ["a", "", "é"] ∧
      row.parse ['a', ',', '\n', 'b'] = .error (.trailingInput 2) := by
  intro p u
  obtain ⟨hjoin, hreads, field, hfield, hrow⟩ := delimited_undoes_join
  have hfields : p.ReadsFields ";" [("a", some "a"), ("", none)] [] (.start ['a', ';']) := by
    intro t v later hsuffix s hs hrest
    have htotal := hs.total
    rcases List.suffix_cons_iff.1 hsuffix with h | h
    · cases h
      obtain rfl : s = .start ['a', ';'] := by
        refine State.ext_iff'.2 ⟨hrest, ?_⟩
        rw [hrest] at htotal
        exact Nat.add_right_cancel htotal
      exact ⟨⟨[';'], 1, by decide⟩, rfl, rfl, rfl⟩
    · rcases List.suffix_cons_iff.1 h with h | h
      · cases h
        obtain rfl : s = ⟨[], 2, by decide⟩ := by
          refine State.ext_iff'.2 ⟨hrest, ?_⟩
          rw [hrest] at htotal
          exact htotal
        exact ⟨_, rfl, .refl _⟩
      · exact absurd (List.suffix_nil.1 h) (List.cons_ne_nil _ _)
  have hrun : (literal "a").oneOrMore { text := some "" } (.start ['a', 'a', 'b']) =
      .success ["a", "a"] u := by
    let t : State := ⟨['a', 'b'], 1, by decide⟩
    have hfirst : literal "a" (.start ['a', 'a', 'b']) = .success "a" t := rfl
    have hpair : (literal "a").Pair (some (literal "")) t "a" u := .delimited rfl rfl
    rw [oneOrMore_text, delimited_eq_success_iff_pairs hfirst]
    exact ⟨["a"], rfl, .cons hpair (by decide) (.nil u), .element rfl rfl⟩
  refine ⟨?_, ?_, hrun, hreads _ "" (spells_literal "a") _ _ _ (.inl hrun), field, hfield, ?_, ?_⟩
  · exact (hjoin _ p ";" _ (by decide) (by decide) (by decide) hfields).1
  · exact (hjoin _ p ";" _ (by decide) (by decide) (by decide) hfields).2
  · exact hrow _ (by decide)
  · exact hrow _ (by decide)

end Parser

end Descent
