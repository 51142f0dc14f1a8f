import Descent.Proofs.Contract
import Descent.Proofs.Success

/-!
# Finished runs

A run is finished if it has an answer of any kind. The statements here say what a combinator asks
of its parts to be finished; the later ones are asked only where the ones before them may end.

Loops take care of themselves: as long as their rounds are finished, so are they. A counted loop
without an upper bound stops by itself, long before its rounds run out (`Parser.collect_stable`).
-/

namespace Descent

variable {α β γ : Type}

/-! ## Finished parsers -/

namespace Reply

theorem ofAdvance_ne_unfinished (m : Except Fault (List Char × State)) :
    ofAdvance m ≠ .unfinished := by
  cases m <;> nofun

theorem map_ne_unfinished {r : Reply α} (h : r ≠ .unfinished) (f : α → β) :
    r.map f ≠ .unfinished := by
  cases r with
  | unfinished => exact (h rfl).elim
  | _ => nofun

theorem bind_ne_unfinished {r : Reply α} {next : α → State → Reply β} (h : r ≠ .unfinished)
    (hnext : ∀ v t, r = .success v t → next v t ≠ .unfinished) : r.bind next ≠ .unfinished := by
  cases r with
  | success v t => exact hnext v t rfl
  | unfinished => exact (h rfl).elim
  | _ => nofun

theorem restart_ne_unfinished {r : Reply α} (h : r ≠ .unfinished) (s : State) :
    r.restart s ≠ .unfinished := by
  cases r with
  | unfinished => exact (h rfl).elim
  | _ => nofun

end Reply

namespace Parser

variable {p : Parser α} {s : State}

/-- The parser gives an answer at `s`. -/
def Finishes (p : Parser α) (s : State) : Prop := p s ≠ .unfinished

theorem finishes_literal (text : String) (s : State) : (literal text).Finishes s := by
  rw [Finishes, literal]
  split
  · exact Reply.ofAdvance_ne_unfinished _
  · simp [fail]

theorem finishes_eof (s : State) : eof.Finishes s := by
  rw [Finishes, eof]
  split <;> simp [succeed, fail]

theorem finishes_matching (e : Pattern) (label : String) (s : State) :
    (matching e label).Finishes s := by
  rw [Finishes, matching]
  split
  · exact Reply.ofAdvance_ne_unfinished _
  · simp [fail]

theorem Finishes.map (hp : p.Finishes s) (f : α → β) : (p.map f).Finishes s :=
  Reply.map_ne_unfinished hp f

theorem Finishes.desc (hp : p.Finishes s) (label : String) : (p.desc label).Finishes s := by
  rw [Finishes, Parser.desc]
  cases h : p s with
  | unfinished => exact (hp h).elim
  | _ => simp [Reply.mapFailure]

theorem Finishes.bind {next : α → Parser β} (hp : p.Finishes s)
    (hnext : ∀ v t, p s = .success v t → (next v).Finishes t) : (p.bind next).Finishes s :=
  Reply.restart_ne_unfinished (Reply.bind_ne_unfinished hp hnext) s

theorem Finishes.converted {p : Parser String} (hp : p.Finishes s)
    (read : List Char → Option α) (label : String) :
    (converted .none p read label).Finishes s := by
  refine hp.bind fun text t _ => ?_
  cases read text.toList <;> nofun

theorem Finishes.product {q : Parser β} (hp : p.Finishes s)
    (hq : ∀ v t, p s = .success v t → q.Finishes t) : (p.product q).Finishes s :=
  Reply.restart_ne_unfinished
    (Reply.bind_ne_unfinished hp fun v t h => Reply.map_ne_unfinished (hq v t h) _) s

theorem Finishes.between {opening : Parser β} {closing : Parser γ} (ho : opening.Finishes s)
    (hp : ∀ v t, opening s = .success v t → p.Finishes t) (hc : ∀ t, closing.Finishes t) :
    (p.between opening closing).Finishes s :=
  Reply.restart_ne_unfinished (Reply.bind_ne_unfinished ho fun v t h =>
    Reply.bind_ne_unfinished (hp v t h) fun _ t _ => Reply.map_ne_unfinished (hc t) _) s

theorem Finishes.optional (hp : p.Finishes s) : p.optional.Finishes s := by
  rw [Finishes, Parser.optional]
  cases h : p s with
  | unfinished => exact (hp h).elim
  | _ => simp

/-- Each of the parsers finishes where those before it may end. -/
theorem finishes_chain {ps : List (Parser α)}
    (h : ∀ front p rest, ps = front ++ p :: rest →
      ∀ vs t, chain front s = .success vs t → p.Finishes t) : (chain ps).Finishes s := by
  induction ps generalizing s with
  | nil => nofun
  | cons p ps ih =>
    refine Reply.bind_ne_unfinished (h [] p ps rfl [] s rfl) fun v t hp => ?_
    refine Reply.map_ne_unfinished (ih fun front q rest hps vs u hfront => ?_) _
    exact h (p :: front) q rest (by rw [hps, List.cons_append]) (v :: vs) u
      (chain_cons_eq_success.2 ⟨v, t, vs, hp, hfront, rfl⟩)

theorem finishes_sequence {ps : List (Parser α)}
    (h : ∀ front p rest, ps = front ++ p :: rest →
      ∀ vs t, chain front s = .success vs t → p.Finishes t) : (sequence ps).Finishes s :=
  Reply.restart_ne_unfinished (finishes_chain h) s

theorem finishes_alternatives {ps : List (Parser α)} (h : ∀ p ∈ ps, p.Finishes s) :
    (alternatives ps).Finishes s := by
  suffices hbest : ∀ best, firstOf s ps best ≠ .unfinished from hbest none
  induction ps with
  | nil => intro best; cases best <;> nofun
  | cons p ps ih =>
    intro best
    rw [firstOf]
    split
    · exact ih (fun q hq => h q (List.mem_cons_of_mem _ hq)) _
    · exact h p List.mem_cons_self

/-! ## Finished loops -/

theorem collect_ne_unfinished (hp : p.Advances) (hfin : ∀ t, s.Precedes t → p.Finishes t)
    (least : Nat) (endless : Bool) (start : State) (rounds : Nat) (values : List α) :
    p.collect least endless start rounds values s ≠ .unfinished := by
  induction rounds generalizing values s with
  | zero =>
    rw [collect]
    split <;> simp
  | succ rounds ih =>
    rw [collect]
    cases hr : p s with
    | success v t =>
      simp only
      split
      · simp
      · exact ih (fun u hu => hfin u ((hp hr).trans hu)) _
    | failure _ _ =>
      simp only
      split <;> simp
    | fault _ => simp
    | unfinished => exact (hfin s (.refl s) hr).elim

theorem finishes_times (hp : p.Advances) (least most : Nat)
    (hfin : most ≠ 0 → ∀ t, s.Precedes t → p.Finishes t) : (p.times least most).Finishes s := by
  by_cases hmost : most = 0
  · subst hmost
    rw [Finishes, times, collect]
    split <;> simp
  · exact collect_ne_unfinished hp (hfin hmost) least _ s most []

theorem advancing_ne_unfinished (hp : p.Advances) (hfin : ∀ t, s.Precedes t → p.Finishes t)
    (values : List α) : p.advancing values s ≠ .unfinished := by
  fun_induction Parser.advancing p values s with
  | case1 _ s _ t hr _ ih => exact ih fun u hu => hfin u ((hp hr).trans hu)
  | case2 => simp
  | case3 => simp
  | case4 => simp
  | case5 _ s hr => exact (hfin s (.refl s) hr).elim

theorem finishes_delimited {d : Option (Parser β)} (hp : p.Finishes s)
    (hround : (p.round d).Advances)
    (hfin : ∀ v t, p s = .success v t → ∀ u, t.Precedes u → (p.round d).Finishes u)
    (atLeastOne : Bool) : (p.delimited atLeastOne d).Finishes s := by
  rw [Finishes, delimited]
  cases hr : p s with
  | success v t => exact advancing_ne_unfinished hround (hfin v t hr) [v]
  | failure _ _ =>
    simp only
    split <;> simp
  | fault _ => simp
  | unfinished => exact (hp hr).elim

/-- **A loop without an upper bound stops by itself.** Its rounds are either needed for the least
number of values, or they read something, so it takes no more rounds than there are of these. -/
theorem collect_stable (hp : p.Advances) {least : Nat} {start : State} {rounds : Nat}
    {values : List α} (h : least - values.length + utf8Length s.remaining < rounds) :
    p.collect least true start (rounds + 1) values s =
      p.collect least true start rounds values s := by
  induction rounds generalizing values s with
  | zero => omega
  | succ rounds ih =>
    rw [collect, collect]
    cases hr : p s with
    | success v t =>
      simp only
      split
      · rfl
      · next hgo =>
        refine ih ?_
        have htotal := (hp hr).total
        have hle := (hp hr).consumed_le
        simp only [Bool.true_and, Bool.and_eq_true, beq_iff_eq, decide_eq_true_eq, not_and] at hgo
        simp only [List.length_cons]
        omega
    | _ => rfl

theorem times_eq_collect (hp : p.Advances) {least rounds : Nat}
    (h : least + utf8Length s.remaining < rounds) (hrounds : rounds ≤ maxOffset) :
    p.times least maxOffset s = p.collect least true s rounds [] s := by
  suffices hmost : ∀ most, rounds ≤ most →
      p.collect least true s most [] s = p.collect least true s rounds [] s by
    rw [times]
    rw [beq_self_eq_true, hmost maxOffset hrounds]
  intro most hle
  induction hle with
  | refl => rfl
  | @step most hle ih => exact (collect_stable hp (Nat.lt_of_lt_of_le h hle)).trans ih

end Parser

theorem Lexeme.parser_finishes (l : Lexeme) (s : State) : l.parser.Finishes s := by
  cases l with
  | whitespace => exact (Parser.finishes_matching _ _ s).map _
  | digits => exact (Parser.finishes_matching _ _ s).map _
  | word => exact (Parser.finishes_matching _ _ s).map _
  | integer => exact ((Parser.finishes_matching _ _ s).converted _ _).map _
  | decimal => exact ((Parser.finishes_matching _ _ s).converted _ _).map _

end Descent
