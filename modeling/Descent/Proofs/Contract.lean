import Descent.Grammar.Basic

/-!
# The contract of a parser

A parser promises two things: when it succeeds, the new state is the old one moved past a prefix of
what was left (`Parser.Advances`), and when it fails, it hands back the state it was given
(`Parser.Restores`).

Primitives and combinators that promise to go back to their start do so themselves, so they restore
whatever their parts do; the statements here say so, one for each of them. `map` and `desc` hand
the state of a failure through.
-/

namespace Descent

/-! ## The order of states -/

/-- `t` comes after `s`: it is `s` moved past a prefix of its text. -/
def State.Precedes (s t : State) : Prop :=
  ∃ front, s.remaining = front ++ t.remaining ∧ t.consumed = s.consumed + utf8Length front

namespace State.Precedes

variable {s t u : State}

theorem refl (s : State) : s.Precedes s := ⟨[], rfl, rfl⟩

theorem trans (h : s.Precedes t) (h' : t.Precedes u) : s.Precedes u := by
  obtain ⟨a, ha, hs⟩ := h
  obtain ⟨b, hb, ht⟩ := h'
  refine ⟨a ++ b, by rw [ha, hb, List.append_assoc], ?_⟩
  rw [ht, hs, utf8Length_append]
  omega

theorem of_advance {n : Nat} {front : List Char} (h : s.advance n = .ok (front, t)) :
    s.Precedes t := by
  obtain ⟨hr, hn, hc⟩ := State.advance_eq_ok_iff.1 h
  exact ⟨front, hr, by rw [hc, hn]⟩

theorem suffix (h : s.Precedes t) : t.remaining <:+ s.remaining := by
  obtain ⟨front, hr, -⟩ := h
  exact ⟨front, hr.symm⟩

/-- The offset and the length of the rest have the same sum at both states. -/
theorem total (h : s.Precedes t) :
    t.consumed + utf8Length t.remaining = s.consumed + utf8Length s.remaining := by
  obtain ⟨front, hr, hc⟩ := h
  rw [hr, hc, utf8Length_append]
  omega

theorem consumed_le (h : s.Precedes t) : s.consumed ≤ t.consumed := by
  obtain ⟨front, -, hc⟩ := h
  omega

/-- A state that comes later at the same offset is the same. -/
theorem eq_of_consumed_eq (h : s.Precedes t) (heq : t.consumed = s.consumed) : t = s := by
  obtain ⟨front, hr, hc⟩ := h
  have hfront : front = [] := utf8Length_eq_zero.1 (by omega)
  rw [hfront, List.nil_append] at hr
  exact ext_iff'.2 ⟨hr.symm, heq⟩

end State.Precedes

/-! ## The text between two states -/

/-- Exactly `front` has been read from `s` to `t`. -/
def State.Reads (s : State) (front : List Char) (t : State) : Prop :=
  s.remaining = front ++ t.remaining ∧ t.consumed = s.consumed + utf8Length front

namespace State.Reads

variable {s t u : State} {a b front : List Char}

theorem refl (s : State) : s.Reads [] s := ⟨rfl, rfl⟩

theorem trans (h : s.Reads a t) (h' : t.Reads b u) : s.Reads (a ++ b) u := by
  refine ⟨by rw [h.1, h'.1, List.append_assoc], ?_⟩
  rw [h'.2, h.2, utf8Length_append]
  omega

theorem precedes (h : s.Reads front t) : s.Precedes t := ⟨front, h⟩

/-- There is a state between the two halves of a text. -/
theorem split (h : s.Reads (a ++ b) u) : ∃ t, s.Reads a t ∧ t.Reads b u := by
  have hle := u.consumed_le
  rw [h.2, utf8Length_append] at hle
  refine ⟨⟨b ++ u.remaining, s.consumed + utf8Length a, by omega⟩, ⟨?_, rfl⟩, rfl, ?_⟩
  · rw [h.1, List.append_assoc]
  · rw [h.2, utf8Length_append, Nat.add_assoc]

theorem eq_of_nil (h : s.Reads [] t) : t = s :=
  State.ext_iff'.2 ⟨h.1.symm, h.2⟩

/-- A state that has read something is further on. -/
theorem consumed_lt (h : s.Reads front t) (hfront : front ≠ []) : s.consumed < t.consumed := by
  have hlength : utf8Length front ≠ 0 := mt utf8Length_eq_zero.1 hfront
  rw [h.2]
  omega

end State.Reads

theorem State.advance_eq_ok_iff_reads {s t : State} {n : Nat} {front : List Char} :
    s.advance n = .ok (front, t) ↔ s.Reads front t ∧ utf8Length front = n := by
  rw [State.advance_eq_ok_iff, State.Reads]
  constructor
  · rintro ⟨htext, rfl, hc⟩
    exact ⟨⟨htext, hc⟩, rfl⟩
  · rintro ⟨⟨htext, hc⟩, rfl⟩
    exact ⟨htext, rfl, hc⟩

/-! ## Room for the text -/

/-- The counter has room for all the text that is left. -/
def State.Fits (s : State) : Prop := s.consumed + utf8Length s.remaining ≤ maxOffset

instance (s : State) : Decidable s.Fits := Nat.decLe _ _

theorem State.fits_start_iff {text : List Char} :
    (State.start text).Fits ↔ utf8Length text ≤ maxOffset := by
  rw [State.Fits, State.start, Nat.zero_add]

namespace State.Fits

variable {s t : State}

theorem of_precedes (hs : s.Fits) (h : s.Precedes t) : t.Fits := by
  have htotal := h.total
  rw [Fits] at hs ⊢
  omega

/-- With room for the text, a state moves past every prefix of it. -/
theorem exists_advance (hs : s.Fits) {front rest : List Char} (h : s.remaining = front ++ rest) :
    ∃ t, s.advance (utf8Length front) = .ok (front, t) ∧ t.remaining = rest := by
  have hroom : s.consumed + utf8Length front ≤ maxOffset := by
    rw [Fits, h, utf8Length_append] at hs
    omega
  exact ⟨⟨rest, s.consumed + utf8Length front, hroom⟩,
    State.advance_eq_ok_iff.2 ⟨h, rfl, rfl⟩, rfl⟩

/-- With room for the text, every prefix of it can be read. -/
theorem exists_reads (hs : s.Fits) {front rest : List Char} (h : s.remaining = front ++ rest) :
    ∃ t, s.Reads front t ∧ t.remaining = rest ∧ t.Fits := by
  obtain ⟨t, hadv, hrest⟩ := hs.exists_advance h
  have hreads := (State.advance_eq_ok_iff_reads.1 hadv).1
  exact ⟨t, hreads, hrest, hs.of_precedes hreads.precedes⟩

end State.Fits

/-! ## The contract of a step -/

/-- A success moves forward over text that was left. -/
def Parser.Advances {α : Type} (p : Parser α) : Prop :=
  ∀ ⦃s v t⦄, p s = .success v t → s.Precedes t

/-- A failure hands back the state that the parser was given. -/
def Parser.Restores {α : Type} (p : Parser α) : Prop :=
  ∀ ⦃s e t⦄, p s = .failure e t → t = s

/-! ## Steps written by hand -/

theorem Parser.advances_anyChar : anyChar.Advances := by
  intro s v t h
  rw [anyChar] at h
  split at h
  · cases h
  · next c _ _ =>
    cases hadv : s.advance c.utf8Size with
    | ok r =>
      rw [hadv] at h
      cases h
      exact .of_advance hadv
    | error reason =>
      rw [hadv] at h
      cases h

/-- `half` never succeeds. -/
theorem Parser.advances_half : half.Advances := by
  intro s v t h
  rw [half] at h
  split at h
  · cases h
  · split at h <;> cases h

/-! ## Parsers that restore -/

namespace Parser

variable {α β γ : Type}

theorem state_of_restart {r : Reply α} {s t : State} {e : Failure}
    (h : r.restart s = .failure e t) : t = s := by
  cases r with
  | failure _ _ =>
    cases h
    rfl
  | _ => cases h

theorem restores_succeed (v : α) : (succeed v).Restores := fun _ _ _ h => by cases h

theorem restores_fail (label : String) : (fail label : Parser α).Restores :=
  fun _ _ _ h => by cases h; rfl

theorem ofAdvance_ne_failure (m : Except Fault (List Char × State)) (e : Failure) (t : State) :
    Reply.ofAdvance m ≠ .failure e t := by
  cases m <;> nofun

theorem restores_literal (text : String) : (literal text).Restores := by
  intro s e t h
  rw [literal] at h
  split at h
  · exact (ofAdvance_ne_failure _ _ _ h).elim
  · exact restores_fail text h

theorem restores_eof : eof.Restores := by
  intro s e t h
  rw [eof] at h
  split at h
  · exact restores_succeed "" h
  · exact restores_fail _ h

theorem restores_matching (p : Pattern) (label : String) : (matching p label).Restores := by
  intro s e t h
  rw [matching] at h
  split at h
  · exact (ofAdvance_ne_failure _ _ _ h).elim
  · exact restores_fail label h

theorem restores_bind (p : Parser α) (next : α → Parser β) : (p.bind next).Restores :=
  fun _ _ _ h => state_of_restart h

theorem restores_product (p : Parser α) (q : Parser β) : (p.product q).Restores :=
  fun _ _ _ h => state_of_restart h

theorem restores_sequence (ps : List (Parser α)) : (sequence ps).Restores :=
  fun _ _ _ h => state_of_restart h

theorem restores_between (p : Parser α) (opening : Parser β) (closing : Parser γ) :
    (p.between opening closing).Restores := fun _ _ _ h => state_of_restart h

/-- `map` hands the state of a failure through. -/
theorem map_eq_failure {f : α → β} {p : Parser α} {s t : State} {e : Failure} :
    p.map f s = .failure e t ↔ p s = .failure e t := by
  rw [map]
  cases p s <;> simp [Reply.map]

/-- `desc` hands the state of a failure through. -/
theorem desc_eq_failure {label : String} {p : Parser α} {s t : State} {e : Failure} :
    p.desc label s = .failure e t ↔ ∃ cause, p s = .failure cause t ∧ e = cause.relabel label := by
  rw [desc]
  constructor
  · intro h
    cases hp : p s with
    | failure cause u =>
      rw [hp] at h
      cases h
      exact ⟨cause, rfl, rfl⟩
    | _ => simp [hp, Reply.mapFailure] at h
  · rintro ⟨cause, hp, rfl⟩
    rw [hp]
    rfl

theorem Restores.map {p : Parser α} (hp : p.Restores) (f : α → β) : (p.map f).Restores :=
  fun _ _ _ h => hp (map_eq_failure.1 h)

theorem state_of_firstOf {ps : List (Parser α)} {best : Option Failure} {s t : State}
    {e : Failure} (h : firstOf s ps best = .failure e t) : t = s := by
  induction ps generalizing best with
  | nil =>
    cases best with
    | none => exact restores_fail _ h
    | some _ =>
      cases h
      rfl
  | cons p ps ih =>
    rw [firstOf] at h
    split at h
    · exact ih h
    · next hp => exact (hp _ _ h).elim

theorem restores_alternatives (ps : List (Parser α)) : (alternatives ps).Restores :=
  fun _ _ _ h => state_of_firstOf h

theorem optional_ne_failure (p : Parser α) (s : State) (e : Failure) (t : State) :
    p.optional s ≠ .failure e t := by
  rw [optional]
  cases p s <;> nofun

theorem state_of_collect {p : Parser α} {least : Nat} {endless : Bool} {start s t : State}
    {rounds : Nat} {values : List α} {e : Failure}
    (h : p.collect least endless start rounds values s = .failure e t) : t = start := by
  induction rounds generalizing values s with
  | zero =>
    rw [collect] at h
    split at h
    · cases h
      rfl
    · cases h
  | succ rounds ih =>
    rw [collect] at h
    cases hp : p s with
    | success v s' =>
      simp only [hp] at h
      split at h
      · cases h
      · exact ih h
    | failure _ _ =>
      simp only [hp] at h
      split at h
      · cases h
        rfl
      · cases h
    | fault _ => simp [hp] at h
    | unfinished => simp [hp] at h

theorem restores_times (p : Parser α) (least most : Nat) : (p.times least most).Restores :=
  fun _ _ _ h => state_of_collect h

theorem advancing_ne_failure (p : Parser α) (values : List α) (s : State) (e : Failure)
    (t : State) : p.advancing values s ≠ .failure e t := by
  fun_induction Parser.advancing p values s with
  | case1 _ _ _ _ _ _ ih => exact ih
  | _ => nofun

theorem restores_delimited (p : Parser α) (atLeastOne : Bool) (d : Option (Parser β)) :
    (p.delimited atLeastOne d).Restores := by
  intro s e t h
  rw [delimited] at h
  cases hp : p s with
  | success v s' =>
    simp only [hp] at h
    exact (advancing_ne_failure _ _ _ _ _ h).elim
  | failure _ _ =>
    simp only [hp] at h
    split at h
    · cases h
      rfl
    · cases h
  | fault _ => simp [hp] at h
  | unfinished => simp [hp] at h

end Parser

theorem Lexeme.parser_restores (l : Lexeme) : l.parser.Restores := by
  cases l with
  | whitespace => exact (Parser.restores_matching _ _).map _
  | digits => exact (Parser.restores_matching _ _).map _
  | word => exact (Parser.restores_matching _ _).map _
  | integer => exact (Parser.restores_bind _ _).map _
  | decimal => exact (Parser.restores_bind _ _).map _

end Descent
