import Descent.Proofs.Finish
import Descent.Proofs.Forward
import Descent.Proofs.Pairs
import Descent.Proofs.Replies

/-!
# Two loops

A counted repetition without an upper bound and a delimited one stop for different reasons. The
first compares offsets for equality, once no value is missing; its rounds are counted as well. The
second asks each round to get further. For a parser that advances this is the same, and the rounds
are enough for a text that is shorter than their number, since each reads something
(`Parser.collect_eq_advancing`).

What is left of the difference is the first element: a delimited repetition keeps it even if it
reads nothing.

Main statement: `Parser.repetitions_agree`.
-/

namespace Descent.Parser

variable {α β : Type} {p q : Parser α} {d : Parser β} {s t start : State} {v : α}
  {values : List α} {least rounds : Nat}

/-! ## Rounds that get further -/

/-- The values that are there already only stand in front. -/
theorem advancing_append (ws values : List α) (s : State) :
    p.advancing (ws ++ values) s = (p.advancing ws s).map (values.reverse ++ ·) := by
  fun_induction Parser.advancing p ws s with
  | case1 ws s v t hs hlt ih =>
    rw [Parser.advancing, hs]
    simp only [if_pos hlt]
    exact ih
  | case2 ws s v t hs hle =>
    rw [Parser.advancing, hs]
    simp [if_neg hle, Reply.map]
  | case3 ws s e t hs =>
    rw [Parser.advancing, hs]
    simp [Reply.map]
  | case4 ws s r hs =>
    rw [Parser.advancing, hs]
    rfl
  | case5 ws s hs =>
    rw [Parser.advancing, hs]
    rfl

theorem advancing_singleton (v : α) (s : State) :
    p.advancing [v] s = (p.advancing [] s).map (v :: ·) := advancing_append [] [v] s

/-- The state that comes with a failure does not matter to the loop. -/
theorem advancing_restart (hpq : ∀ s, q s = (p s).restart s) (values : List α) (s : State) :
    q.advancing values s = p.advancing values s := by
  fun_induction Parser.advancing p values s with
  | case1 values s v t hs hlt ih =>
    rw [Parser.advancing, hpq, hs]
    simp only [Reply.restart, if_pos hlt]
    exact ih
  | case2 values s v t hs hle =>
    rw [Parser.advancing, hpq, hs]
    simp only [Reply.restart, if_neg hle]
  | case3 values s e t hs =>
    rw [Parser.advancing, hpq, hs]
    rfl
  | case4 values s r hs =>
    rw [Parser.advancing, hpq, hs]
    rfl
  | case5 values s hs =>
    rw [Parser.advancing, hpq, hs]
    rfl

theorem andThen_eq_round (d : Parser β) (p : Parser α) (s : State) :
    d.andThen p s = (p.round (some d) s).restart s := by
  rw [andThen, map_product]
  simp only [Reply.map_id]
  rfl

theorem Advances.andThen (hd : d.Advances) (hp : p.Advances) : (d.andThen p).Advances := by
  intro s v t h
  obtain ⟨u, w, hdelimiter, helement⟩ := andThen_eq_success_iff.1 h
  exact (hd hdelimiter).trans (hp helement)

/-- A first element that gets further is a round like any other. -/
theorem delimited_eq_advancing (hfirst : ∀ v t, p s = .success v t → s.consumed < t.consumed) :
    p.delimited false (none : Option (Parser β)) s = p.advancing [] s := by
  rw [delimited, advancing]
  cases hs : p s with
  | success v t =>
    simp only [if_pos (hfirst v t hs)]
    rfl
  | _ => rfl

/-! ## Rounds that are counted -/

/-- **Counted rounds are rounds that get further**, if none of the values is missing and there are
more rounds than bytes. -/
theorem collect_eq_advancing (hp : p.Advances) (hleast : least ≤ values.length)
    (hroom : utf8Length s.remaining < rounds) :
    p.collect least true start rounds values s = p.advancing values s := by
  induction rounds generalizing values s with
  | zero => exact absurd hroom (Nat.not_lt_zero _)
  | succ rounds ih =>
    rw [collect, advancing]
    cases hs : p s with
    | success v t =>
      have htotal := (hp hs).total
      have hle := (hp hs).consumed_le
      by_cases hlt : s.consumed < t.consumed
      · have hne : ¬ t.consumed = s.consumed := by omega
        simp only [beq_eq_false_iff_ne.2 hne, Bool.true_and, Bool.false_and, Bool.false_eq_true,
          if_false, if_pos hlt]
        exact ih (Nat.le_succ_of_le hleast) (by omega)
      · have heq : t.consumed = s.consumed := by omega
        simp only [heq, hleast, beq_self_eq_true, decide_true, Bool.and_true, if_true,
          Nat.lt_irrefl, if_false]
    | failure e t => simp only [if_neg (Nat.not_lt.2 hleast)]
    | _ => rfl

/-- **An endless repetition makes the rounds that get further.** -/
theorem times_zero_eq_advancing (hp : p.Advances) (hroom : utf8Length s.remaining < maxOffset) :
    p.times 0 maxOffset s = p.advancing [] s := by
  have hrounds : 0 + utf8Length s.remaining < utf8Length s.remaining + 1 := by omega
  rw [times_eq_collect hp hrounds hroom]
  exact collect_eq_advancing hp (Nat.le_refl _) (Nat.lt_succ_self _)

/-! ## Repetitions -/

/-- With a first element, the others are those of an endless repetition. If the first one reads
nothing, the next one does not either, and both loops end. -/
theorem delimited_eq_times_one (hp : p.Advances) (hroom : utf8Length s.remaining < maxOffset) :
    p.delimited true (none : Option (Parser β)) s = p.times 1 maxOffset s := by
  show _ = p.collect 1 true s (maxOffset - 2 + 1 + 1) [] s
  rw [delimited, collect]
  cases hs : p s with
  | success v t =>
    -- The first match may read nothing: a value is missing until it is there.
    have hfirst :
        ¬ (true && t.consumed == s.consumed && decide (1 ≤ ([] : List α).length)) = true := by
      simp
    show p.advancing [v] t = if _ then _ else p.collect 1 true s (maxOffset - 2 + 1) [v] t
    rw [if_neg hfirst]
    by_cases hsame : t.consumed = s.consumed
    · obtain rfl := (hp hs).eq_of_consumed_eq hsame
      rw [advancing, collect, hs]
      simp
    · have htotal := (hp hs).total
      have hle := (hp hs).consumed_le
      exact (collect_eq_advancing hp (Nat.le_refl 1) (by omega)).symm
  | _ => rfl

/-- Behind a first element, the rounds are an endless repetition of a delimiter and an element. -/
theorem delimited_eq_product (hp : p.Advances) (hd : d.Advances)
    (hroom : utf8Length s.remaining < maxOffset) :
    p.delimited true (some d) s =
      ((p.product ((d.andThen p).times 0 maxOffset)).map fun v => v.1 :: v.2).asQuantity s := by
  rw [delimited, asQuantity, map_product]
  cases hs : p s with
  | success v t =>
    have htotal := (hp hs).total
    have hle := (hp hs).consumed_le
    have hrounds : (d.andThen p).times 0 maxOffset t = (p.round (some d)).advancing [] t := by
      rw [times_zero_eq_advancing (hd.andThen hp) (by omega)]
      exact advancing_restart (andThen_eq_round d p) [] t
    simp only [Reply.bind, hrounds, advancing_singleton]
    exact (Reply.mapFailure_restart_of_ne_failure
      (Reply.map_ne_failure (advancing_ne_failure _ _ _) _) s _).symm
  | _ => rfl

/-- To repeat any number of times is to repeat once or more, or else to read nothing. -/
theorem delimited_false_eq_alternatives (p : Parser α) (d : Option (Parser β)) :
    p.delimited false d = alternatives [p.delimited true d, succeed []] := by
  funext s
  rw [alternatives_succeed, delimited, delimited]
  cases hs : p s with
  | success v t => exact (Reply.otherwise_of_ne_failure (advancing_ne_failure _ _ _) [] s).symm
  | _ => rfl

/-- **The two loops agree.** Let the element advance and the text be shorter than the greatest
offset. Once or more without a delimiter is at least once without an upper bound. Any number of
times without a delimiter is at least zero times without an upper bound, unless the first element
reads nothing: then one has its value and the other has no values, at the same state. With a
delimiter that advances, once or more is an element and then an endless repetition of the delimiter
and an element, with failures of quantity. Whatever the element and the delimiter do, any number of
times is once or more, or else nothing. -/
theorem repetitions_agree (hp : p.Advances) (hd : d.Advances)
    (hroom : utf8Length s.remaining < maxOffset) :
    p.oneOrMore {} s = p.times 1 maxOffset s ∧
    (p.zeroOrMore {} s = p.times 0 maxOffset s ↔
      ∀ v t, p s = .success v t → t.consumed ≠ s.consumed) ∧
    (∀ v t, p s = .success v t → t.consumed = s.consumed →
      p.zeroOrMore {} s = .success [v] s ∧ p.times 0 maxOffset s = .success [] s) ∧
    (∀ delimiter : Delimiter (Parser Unit),
      delimiter.resolve (fun text => (literal text).value ()) = some (d.value ()) →
      p.oneOrMore delimiter s =
        ((p.product ((d.andThen p).times 0 maxOffset)).map fun v => v.1 :: v.2).asQuantity s) ∧
    ∀ (p : Parser α) (delimiter : Delimiter (Parser Unit)),
      p.zeroOrMore delimiter = alternatives [p.oneOrMore delimiter, succeed []] := by
  have hidle : ∀ v t, p s = .success v t → t.consumed = s.consumed →
      p.zeroOrMore {} s = .success [v] s ∧ p.times 0 maxOffset s = .success [] s := by
    intro v t hs hsame
    obtain rfl := (hp hs).eq_of_consumed_eq hsame
    have hloop : ∀ values, p.advancing values t = .success values.reverse t := by
      intro values
      rw [advancing, hs]
      simp only [Nat.lt_irrefl, if_false]
    rw [times_zero_eq_advancing hp hroom, hloop]
    exact ⟨(delimited_of_success hs false).trans (hloop [v]), rfl⟩
  refine ⟨delimited_eq_times_one hp hroom, ⟨fun h v t hs hsame => ?_, fun hfirst => ?_⟩, hidle,
    fun delimiter hdelimiter => ?_, fun p delimiter => delimited_false_eq_alternatives p _⟩
  · obtain ⟨hzero, htimes⟩ := hidle v t hs hsame
    rw [hzero, htimes] at h
    cases h
  · rw [times_zero_eq_advancing hp hroom]
    refine delimited_eq_advancing fun v t hs => ?_
    exact Nat.lt_of_le_of_ne (hp hs).consumed_le (hfirst v t hs).symm
  · rw [oneOrMore, hdelimiter, ← delimited_eq_product hp hd hroom]
    exact congrFun (delimited_value p true () (some d)) s

/-- Elements with commas, of which the last one is missing; no element at all; and elements that may
be empty. -/
theorem repetitions_agree_commas :
    let s := State.start ['a', ',', 'a', ',', 'b']
    let t : State := ⟨[',', 'b'], 3, by decide⟩
    let p := literal "a"
    p.oneOrMore { text := some "," } s = .success ["a", "a"] t ∧
    p.oneOrMore {} t = .failure ⟨"a", 3, .quantity⟩ t ∧
    p.optional.zeroOrMore {} t = .success [none] t ∧
    p.optional.times 0 maxOffset t = .success [] t := by
  intro s t p
  have hp : p.Advances := advances_literal "a"
  have hd := advances_literal ","
  obtain ⟨-, -, -, hproduct, -⟩ := repetitions_agree (s := s) hp hd (by decide)
  obtain ⟨hendless, -⟩ := repetitions_agree (s := t) hp hd (by decide)
  obtain ⟨-, -, hidle, -⟩ := repetitions_agree (s := t) hp.optional hd (by decide)
  exact ⟨(hproduct _ rfl).trans rfl, hendless.trans rfl, hidle none t rfl rfl⟩

end Descent.Parser
