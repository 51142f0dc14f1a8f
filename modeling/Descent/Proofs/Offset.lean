import Descent.Proofs.Contract
import Descent.Proofs.Similar

/-!
# Offsets are relative

A run depends on the text that is left and on nothing before it. Two runs of one grammar, from
states with the same text left but at different offsets, answer alike: with the same value and the
same text left after it, or with the same label and kind, and every offset that they report is at
the same distance from the start of either run.

Offsets are compared in three places: the furthest of several failures, a match of the empty text
in a counted loop, a round of a delimited one that gets nowhere. Each compares two offsets of one
run, and distances order them as the offsets themselves do. Only the bound of the counter does not
move along. So the text has to fit behind both starts, and every state of the two runs then leaves
room for what it still has to read (`State.Fits`).

Main statement: `Grammar.depends_on_remaining`.
-/

namespace Descent

/-! ## The same distance from two starts -/

/-- The same text is left at `s` and at `t`, and `s` is as far from `a` as `t` is from `b`. -/
structure State.Aligned (a b s t : State) : Prop where
  remaining : s.remaining = t.remaining
  distance : (s.consumed : Int) - a.consumed = t.consumed - b.consumed

theorem State.Aligned.of_remaining {s t : State} (h : s.remaining = t.remaining) :
    Aligned s t s t := ⟨h, by omega⟩

/-- The failures expect the same, and `e` is as far from `a` as `f` is from `b`. -/
structure Failure.Aligned (a b : State) (e f : Failure) : Prop where
  expected : e.expected = f.expected
  kind : e.kind = f.kind
  distance : (e.position : Int) - a.consumed = f.position - b.consumed

/-- The replies of runs from `a` and from `b` are the same up to the distance of the starts. -/
def Reply.Aligned {α : Type} (a b : State) : Reply α → Reply α → Prop
  | .success v s, .success w t => v = w ∧ State.Aligned a b s t
  | .failure e s, .failure f t => Failure.Aligned a b e f ∧ State.Aligned a b s t
  | .fault r, .fault r' => r = r'
  | .unfinished, .unfinished => True
  | _, _ => False

theorem Reply.Aligned.unfinished_iff {α : Type} {a b : State} {r r' : Reply α}
    (h : Reply.Aligned a b r r') : r = .unfinished ↔ r' = .unfinished := by
  cases r <;> cases r' <;> simp_all [Reply.Aligned]

/-- The runs start at `a` and at `b`, and their states leave room for the text. -/
def Coupling.aligned (a b : State) : Coupling where
  state s t := State.Aligned a b s t ∧ s.Fits ∧ t.Fits
  failure := Failure.Aligned a b
  back := State.Aligned a b

namespace Coupling

variable {a b s t : State}

theorem aligned_of_replies {α : Type} {r r' : Reply α} (h : (aligned a b).Replies r r') :
    Reply.Aligned a b r r' := by
  cases h with
  | success v hs => exact ⟨rfl, hs.1⟩
  | failure he hs => exact ⟨he, hs⟩
  | fault _ => rfl
  | unfinished _ => trivial
  | cut _ hc => exact hc.elim

/-- Where the text fits on both sides, both states move past the same prefix of it. -/
theorem exists_advance_aligned (h : (aligned a b).state s t) {n : Nat}
    (hn : (cut? n s.remaining).isSome) :
    ∃ front s' t', s.advance n = .ok (front, s') ∧ t.advance n = .ok (front, t') ∧
      (aligned a b).state s' t' := by
  obtain ⟨hst, hs, ht⟩ := h
  obtain ⟨⟨front, rest⟩, hcut⟩ := Option.isSome_iff_exists.1 hn
  obtain ⟨htext, rfl⟩ := cut?_eq_some_iff.1 hcut
  obtain ⟨s', hadv, hrest⟩ := hs.exists_advance htext
  obtain ⟨t', hadv', hrest'⟩ := ht.exists_advance (hst.remaining ▸ htext)
  have hdistance := hst.distance
  have hc := (State.advance_eq_ok_iff.1 hadv).2.2
  have hc' := (State.advance_eq_ok_iff.1 hadv').2.2
  have hst' : State.Aligned a b s' t' := ⟨by rw [hrest, hrest'], by omega⟩
  exact ⟨front, s', t', hadv, hadv', hst', hs.of_precedes (.of_advance hadv),
    ht.of_precedes (.of_advance hadv')⟩

theorem lawful_aligned (a b : State) : (aligned a b).Lawful where
  remaining h := h.1.remaining
  consumed_lt := by
    intro s t s' t' h h'
    have hdistance := h.1.distance
    have hdistance' := h'.1.distance
    omega
  back h := h.1
  advance := by
    intro s t n h hn
    obtain ⟨front, s', t', hadv, hadv', hst'⟩ := exists_advance_aligned h hn
    rw [hadv, hadv']
    exact .success _ hst'
  here _ _ h _ := ⟨rfl, rfl, h.1.distance⟩
  relabel _ h := ⟨rfl, h.kind, h.distance⟩
  withKind h := ⟨h.expected, rfl, h.distance⟩
  furthest := by
    intro e f e' f' h h'
    have hdistance := h.distance
    have hdistance' := h'.distance
    rw [Failure.furthest, Failure.furthest]
    by_cases hlt : e.position < e'.position
    · rw [if_pos hlt, if_pos (by omega)]
      exact h'
    · rw [if_neg hlt, if_neg (by omega)]
      exact h

end Coupling

/-! ## Steps without offsets of their own -/

/-- The parser neither reads offsets nor makes them up: from two states with the same text left, it
answers alike, at the same distance from either. Both states have room for their text, and where the
parser succeeds, so have the new ones. -/
def Parser.Relative (p : Parser Value) : Prop :=
  ∀ ⦃s t : State⦄, s.Fits → t.Fits → s.remaining = t.remaining →
    (Coupling.aligned s t).Replies (p s) (p t)

namespace Parser

/-- The state that `half` fails with is as far ahead on both sides. -/
theorem relative_half : half.Relative := by
  intro s t hs ht h
  have hst : (Coupling.aligned s t).state s t := ⟨.of_remaining h, hs, ht⟩
  have hcause : Failure.Aligned s t (.structural "half" s.consumed)
      (.structural "half" t.consumed) := ⟨rfl, rfl, hst.1.distance⟩
  unfold half
  rw [← h]
  cases hrem : s.remaining with
  | nil => exact .failure hcause hst.1
  | cons c rest =>
    have hcut : cut? c.utf8Size s.remaining = some ([c], rest) :=
      cut?_eq_some_iff.2 ⟨hrem, by simp⟩
    obtain ⟨front, s', t', hadv, hadv', hst'⟩ :=
      Coupling.exists_advance_aligned hst (by rw [hcut]; rfl)
    simp only [hadv, hadv']
    exact .failure hcause hst'.1

theorem relative_lookRest : lookRest.Relative := by
  intro s t hs ht h
  unfold lookRest
  rw [← h]
  exact .success _ ⟨.of_remaining h, hs, ht⟩

end Parser

/-! ## Runs -/

namespace Grammar

variable {rules : Rules} {g : Grammar} {s t : State}

/-- A step that answers alike at the same distance does so inside runs that have come further. -/
theorem fits_aligned (a b : State) :
    Fits (.aligned a b) .none (fun p q => p = q ∧ p.Relative) fun _ => True where
  lawful := Coupling.lawful_aligned a b
  tolerates := Coupling.tolerates_none _
  steps := by
    rintro p _ ⟨rfl, hp⟩ s t ⟨hst, hs, ht⟩
    have hreplies := hp hs ht hst.remaining
    have hdistance := hst.distance
    generalize p s = r at hreplies ⊢
    generalize p t = r' at hreplies ⊢
    cases hreplies with
    | success v h =>
      have hfurther := h.1.distance
      exact .success v ⟨⟨h.1.remaining, by omega⟩, h.2⟩
    | failure he h =>
      have hcause := he.distance
      have hfurther := h.distance
      exact .failure ⟨he.expected, he.kind, by omega⟩ ⟨h.remaining, by omega⟩
    | fault hr => exact .fault hr
    | unfinished hu => exact .unfinished hu
    | cut _ hc => exact hc.elim
  patterns _ _ := trivial

theorem parser_aligned (hrules : rules.Steps Parser.Relative) (hg : g.Steps Parser.Relative)
    (hs : s.Fits) (ht : t.Fits) (h : s.remaining = t.remaining) (depth : Nat) :
    Reply.Aligned s t (g.parser (rules.unfold depth) s) (g.parser (rules.unfold depth) t) := by
  have hself : ∀ k : Grammar, k.Steps Parser.Relative →
      k.Similar (fun p q => p = q ∧ p.Relative) (fun _ => True) k :=
    fun k hk => similar_self (fun p hp => ⟨rfl, hk p hp⟩) fun _ _ _ => trivial
  have hparsers := Similar.runs (fits_aligned s t) trivial (fun name => hself _ (hrules name))
    (hself g hg) (.inl (rfl : depth = depth))
  exact Coupling.aligned_of_replies (hparsers ⟨.of_remaining h, hs, ht⟩)

/-- **A run depends on what is left.** Let the steps written by hand have no offsets of their own.
From two states with the same text left, both of which leave room for it, a grammar runs alike:
both runs end or neither does; and their replies are the same, up to offsets, which are at the same
distance from either start. -/
theorem depends_on_remaining (hrules : rules.Steps Parser.Relative)
    (hg : g.Steps Parser.Relative) (hs : s.Fits) (ht : t.Fits)
    (h : s.remaining = t.remaining) :
    Reply.Aligned s t (g.run rules s) (g.run rules t) ∧
    ((∃ r, g.Ends rules s r) ↔ ∃ r, g.Ends rules t r) ∧
    ∀ r r', g.Ends rules s r → g.Ends rules t r' → Reply.Aligned s t r r' := by
  have haligned := parser_aligned hrules hg hs ht h
  have hdepth : rules.depth s = rules.depth t := by simp only [Rules.depth, h]
  have hrun : Reply.Aligned s t (g.run rules s) (g.run rules t) := by
    rw [run, run, ← hdepth]
    exact haligned _
  exact ⟨hrun, ends_related Reply.Aligned.unfinished_iff haligned⟩

/-- Two letters are read before both alternatives fail; seven bytes further on they fail seven bytes
further on. -/
theorem depends_on_remaining_sevenBytes :
    let rules : Rules := ⟨[("half", .custom .half)]⟩
    let g : Grammar := .product (.times (.literal "a") 1 5)
      (.alternatives [.rule "half", .product (.custom .lookRest) (.literal "c")])
    let s := State.start ['a', 'a', 'b']
    let t : State := ⟨['a', 'a', 'b'], 7, by decide⟩
    g.Ends rules s (.failure ⟨"half", 2, .structural⟩ s) ∧
    ∃ u, g.Ends rules t (.failure ⟨"half", 9, .structural⟩ u) ∧ u.remaining = t.remaining := by
  intro rules g s t
  have hrules : rules.Steps Parser.Relative := by
    refine Rules.body_induction (fun _ => .of_parts nofun nofun) fun e he => ?_
    obtain rfl := List.mem_singleton.1 he
    exact .of_parts (fun p hp => by cases hp; exact Parser.relative_half) nofun
  have hg : g.Steps Parser.Relative := by
    refine .of_parts nofun fun h hh => ?_
    simp only [g] at hh
    cases hh with
    | productFirst =>
      refine .of_parts nofun fun h hh => ?_
      cases hh
      exact .of_parts nofun nofun
    | productSecond =>
      refine .of_parts nofun fun h hh => ?_
      have hcases : h = .rule "half" ∨ h = .product (.custom .lookRest) (.literal "c") := by
        cases hh with
        | alternatives hmem => simpa using hmem
      rcases hcases with rfl | rfl
      · exact .of_parts nofun nofun
      · refine .of_parts nofun fun h hh => ?_
        cases hh with
        | productFirst =>
          exact .of_parts (fun p hp => by cases hp; exact Parser.relative_lookRest) nofun
        | productSecond => exact .of_parts nofun nofun
  have hs : g.Ends rules s (.failure ⟨"half", 2, .structural⟩ s) := ⟨nofun, 1, rfl⟩
  have hfits : s.Fits ∧ t.Fits := ⟨by decide, by decide⟩
  obtain ⟨-, hends, haligned⟩ := depends_on_remaining hrules hg hfits.1 hfits.2 rfl
  obtain ⟨r, hr⟩ := hends.1 ⟨_, hs⟩
  have hreply := haligned _ _ hs hr
  refine ⟨hs, ?_⟩
  cases r with
  | failure f u =>
    obtain ⟨⟨hexpected, hkind, hdistance⟩, hu⟩ := hreply
    have hposition : f.position = 9 := by
      simp only [s, t, State.start] at hdistance
      omega
    obtain rfl : f = ⟨"half", 9, .structural⟩ := by
      cases f
      simp_all
    exact ⟨u, hr, hu.remaining.symm⟩
  | _ => exact hreply.elim

end Grammar

end Descent
