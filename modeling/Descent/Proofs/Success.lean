import Descent.Proofs.Contract

/-!
# What a success is made of

A combinator succeeds only because parts of it did, one where the one before it ended. The
statements here read this off, one for each combinator; for the loops they name the first round.
-/

namespace Descent

variable {α β γ : Type}

namespace Reply

theorem map_eq_success {r : Reply α} {f : α → β} {w : β} {t : State} :
    r.map f = .success w t ↔ ∃ v, r = .success v t ∧ f v = w := by
  constructor
  · intro h
    cases r with
    | success v s =>
      cases h
      exact ⟨v, rfl, rfl⟩
    | _ => cases h
  · rintro ⟨v, rfl, rfl⟩
    rfl

theorem bind_eq_success {r : Reply α} {next : α → State → Reply β} {w : β} {u : State} :
    r.bind next = .success w u ↔ ∃ v t, r = .success v t ∧ next v t = .success w u := by
  constructor
  · intro h
    cases r with
    | success v t => exact ⟨v, t, rfl, h⟩
    | _ => cases h
  · rintro ⟨v, t, rfl, h⟩
    exact h

theorem restart_eq_success {r : Reply α} {s t : State} {v : α} :
    r.restart s = .success v t ↔ r = .success v t := by
  cases r <;> simp [restart]

theorem mapFailure_eq_success {r : Reply α} {f : Failure → Failure} {t : State} {v : α} :
    r.mapFailure f = .success v t ↔ r = .success v t := by
  cases r <;> simp [mapFailure]

theorem ofAdvance_eq_success {m : Except Fault (List Char × State)} {v : String} {t : State} :
    ofAdvance m = .success v t ↔ ∃ front, m = .ok (front, t) ∧ .ofList front = v := by
  constructor
  · intro h
    cases m with
    | ok r =>
      cases h
      exact ⟨r.1, rfl, rfl⟩
    | error _ => cases h
  · rintro ⟨front, rfl, rfl⟩
    rfl

end Reply

namespace Parser

variable {p : Parser α} {s t u : State}

/-- The parser answers at `s`: it succeeds or fails there. -/
def Answers (p : Parser α) (s : State) : Prop :=
  (∃ v t, p s = .success v t) ∨ ∃ e t, p s = .failure e t

/-! ## Primitives -/

theorem literal_eq_success_iff {text v : String} :
    literal text s = .success v t ↔ s.Reads text.toList t ∧ v = text := by
  rw [literal]
  constructor
  · intro h
    split at h
    · next hpre =>
      obtain ⟨rest, hrest⟩ := List.isPrefixOf_iff_prefix.1 hpre
      obtain ⟨front, hadv, rfl⟩ := Reply.ofAdvance_eq_success.1 h
      obtain ⟨hreads, hlength⟩ := State.advance_eq_ok_iff_reads.1 hadv
      -- Both `front` and the text split off at the same offset.
      have hfront := cut?_eq_some_iff.2 ⟨hreads.1, hlength⟩
      rw [cut?_eq_some_iff.2 ⟨hrest.symm, rfl⟩] at hfront
      cases hfront
      exact ⟨hreads, String.ofList_toList⟩
    · cases h
  · rintro ⟨hreads, rfl⟩
    have hpre : v.toList.isPrefixOf s.remaining = true :=
      List.isPrefixOf_iff_prefix.2 ⟨t.remaining, hreads.1.symm⟩
    rw [if_pos hpre, State.advance_eq_ok_iff_reads.2 ⟨hreads, rfl⟩, Reply.ofAdvance,
      String.ofList_toList]

theorem matching_eq_success_iff {e : Pattern} {label v : String} :
    matching e label s = .success v t ↔ s.Reads v.toList t ∧
      e.matchEnd? s.remaining = some (utf8Length v.toList) := by
  rw [matching]
  constructor
  · intro h
    split at h
    · next n hn =>
      obtain ⟨front, hadv, rfl⟩ := Reply.ofAdvance_eq_success.1 h
      obtain ⟨hreads, rfl⟩ := State.advance_eq_ok_iff_reads.1 hadv
      rw [String.toList_ofList]
      exact ⟨hreads, hn⟩
    · cases h
  · rintro ⟨hreads, hmatch⟩
    rw [hmatch]
    simp only [State.advance_eq_ok_iff_reads.2 ⟨hreads, rfl⟩, Reply.ofAdvance, String.ofList_toList]

theorem advances_literal (text : String) : (literal text).Advances :=
  fun _ _ _ h => (literal_eq_success_iff.1 h).1.precedes

theorem literal_eq_success {text v : String} (h : literal text s = .success v t) :
    s.remaining = text.toList ++ t.remaining := (literal_eq_success_iff.1 h).1.1

theorem matching_eq_success {e : Pattern} {label v : String}
    (h : matching e label s = .success v t) :
    ∃ front, s.remaining = front ++ t.remaining ∧
      e.matchEnd? s.remaining = some (utf8Length front) := by
  obtain ⟨hreads, hend⟩ := matching_eq_success_iff.1 h
  exact ⟨v.toList, hreads.1, hend⟩

/-! ## Combinators -/

theorem map_eq_success {f : α → β} {w : β} :
    p.map f s = .success w t ↔ ∃ v, p s = .success v t ∧ f v = w := Reply.map_eq_success

theorem desc_eq_success {label : String} {v : α} :
    p.desc label s = .success v t ↔ p s = .success v t := Reply.mapFailure_eq_success

theorem bind_eq_success {next : α → Parser β} {w : β} :
    p.bind next s = .success w u ↔ ∃ v t, p s = .success v t ∧ next v t = .success w u :=
  Reply.restart_eq_success.trans Reply.bind_eq_success

/-- A text is converted where it is matched, and what is read from it is the value. -/
theorem converted_eq_success {p : Parser String} {read : List Char → Option α} {label : String}
    {v : α} : converted .none p read label s = .success v t ↔
      ∃ text, p s = .success text t ∧ read text.toList = some v := by
  rw [converted, bind_eq_success]
  refine exists_congr fun text => ?_
  constructor
  · rintro ⟨u, hp, hread⟩
    cases hv : read text.toList <;> rw [hv] at hread <;> cases hread
    exact ⟨hp, rfl⟩
  · rintro ⟨hp, hv⟩
    exact ⟨t, hp, by rw [hv]; rfl⟩

theorem product_eq_success {q : Parser β} {w : α × β} :
    p.product q s = .success w u ↔
      ∃ t, p s = .success w.1 t ∧ q t = .success w.2 u := by
  rw [product]
  rw [Reply.restart_eq_success, Reply.bind_eq_success]
  constructor
  · rintro ⟨v, t, hp, h⟩
    obtain ⟨v', hq, rfl⟩ := Reply.map_eq_success.1 h
    exact ⟨t, hp, hq⟩
  · rintro ⟨t, hp, hq⟩
    exact ⟨w.1, t, hp, Reply.map_eq_success.2 ⟨w.2, hq, rfl⟩⟩

theorem chain_cons_eq_success {ps : List (Parser α)} {vs : List α} :
    chain (p :: ps) s = .success vs u ↔
      ∃ v t ws, p s = .success v t ∧ chain ps t = .success ws u ∧ v :: ws = vs := by
  rw [chain, Reply.bind_eq_success]
  constructor
  · rintro ⟨v, t, hp, h⟩
    obtain ⟨ws, hps, rfl⟩ := Reply.map_eq_success.1 h
    exact ⟨v, t, ws, hp, hps, rfl⟩
  · rintro ⟨v, t, ws, hp, hps, rfl⟩
    exact ⟨v, t, hp, Reply.map_eq_success.2 ⟨ws, hps, rfl⟩⟩

theorem sequence_eq_success {ps : List (Parser α)} {vs : List α} :
    sequence ps s = .success vs t ↔ chain ps s = .success vs t := Reply.restart_eq_success

theorem between_eq_success {opening : Parser β} {closing : Parser γ} {v : α} :
    p.between opening closing s = .success v u ↔ ∃ a b t t', opening s = .success a t ∧
      p t = .success v t' ∧ closing t' = .success b u := by
  rw [between]
  rw [Reply.restart_eq_success, Reply.bind_eq_success]
  constructor
  · rintro ⟨a, t, ho, h⟩
    obtain ⟨v, t', hp, h⟩ := Reply.bind_eq_success.1 h
    obtain ⟨b, hc, rfl⟩ := Reply.map_eq_success.1 h
    exact ⟨a, b, t, t', ho, hp, hc⟩
  · rintro ⟨a, b, t, t', ho, hp, hc⟩
    exact ⟨a, t, ho, Reply.bind_eq_success.2 ⟨v, t', hp, Reply.map_eq_success.2 ⟨b, hc, rfl⟩⟩⟩

theorem firstOf_eq_success {ps : List (Parser α)} {best : Option Failure} {v : α}
    (h : firstOf s ps best = .success v t) : ∃ p ∈ ps, p s = .success v t := by
  induction ps generalizing best with
  | nil => cases best <;> cases h
  | cons p ps ih =>
    rw [firstOf] at h
    split at h
    · obtain ⟨q, hq, hs⟩ := ih h
      exact ⟨q, List.mem_cons_of_mem _ hq, hs⟩
    · exact ⟨p, List.mem_cons_self, h⟩

theorem alternatives_eq_success {ps : List (Parser α)} {v : α}
    (h : alternatives ps s = .success v t) : ∃ p ∈ ps, p s = .success v t := firstOf_eq_success h

/-- A counted repetition needs no first round only if its least number is zero. -/
theorem times_eq_success {least most : Nat} {vs : List α}
    (h : p.times least most s = .success vs u) (hleast : least ≠ 0) :
    ∃ v t rounds, p s = .success v t ∧
      p.collect least (most == maxOffset) s rounds [v] t = .success vs u := by
  have hlt : ([] : List α).length < least := by simpa using Nat.pos_of_ne_zero hleast
  rw [times] at h
  cases most with
  | zero =>
    rw [collect] at h
    rw [if_pos hlt] at h
    cases h
  | succ rounds =>
    rw [collect] at h
    cases hp : p s with
    | success v t =>
      simp only [hp, Nat.not_le.2 hlt, decide_false, Bool.and_false, Bool.false_eq_true,
        if_false] at h
      exact ⟨v, t, rounds, rfl, h⟩
    | failure _ _ =>
      simp only [hp, if_pos hlt] at h
      cases h
    | fault _ => simp [hp] at h
    | unfinished => simp [hp] at h

/-- A delimited repetition needs no first element only if it may be empty. -/
theorem delimited_eq_success {d : Option (Parser β)} {vs : List α}
    (h : p.delimited true d s = .success vs u) :
    ∃ v t, p s = .success v t ∧ (p.round d).advancing [v] t = .success vs u := by
  rw [delimited] at h
  cases hp : p s with
  | success v t =>
    rw [hp] at h
    exact ⟨v, t, rfl, h⟩
  | _ => simp [hp] at h

end Parser

end Descent
