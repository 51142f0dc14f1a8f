import Descent.Parser.Tuple
import Descent.Proofs.Nesting
import Descent.Proofs.Replies
import Descent.Proofs.Rounds

/-!
# The forms of a sequence

Parsers in order can be given as a list, an array or a tuple, as products of two in any brackets,
or as binds that hand every value on. All of these run the same steps and keep the same values. They
differ in the states that they go back to on the way: a product inside another one goes back to a
start in the middle. Only the outermost start is seen in the end (`Reply.bind_restart`,
`Reply.restart_bind`), and this is why the forms agree.

What they all do is said by two relations. The steps of a list succeed one after another
(`Parser.Runs`), or the run comes to a step (`Parser.ComesTo`) that does not succeed.

Main statement: `Parser.sequencing_agrees`.
-/

namespace Descent

variable {α β γ : Type}

/-- Where there is no value, it does not matter what would become of it. -/
theorem Reply.map_of_ne_success {r : Reply α} (hr : ∀ v t, r ≠ .success v t) (f g : α → β) :
    r.map f = r.map g := by
  cases r with
  | success v t => exact absurd rfl (hr v t)
  | _ => rfl

/-- Products of two parsers along a nesting. -/
def Nesting.products : (n : Nesting (Parser α)) → Parser (n.Values α)
  | single p => p
  | pair left right => left.products.product right.products

namespace Parser

variable {p q : Parser α} {ps : List (Parser α)} {s t u : State} {vs : List α} {e : Failure}

/-! ## Steps one after another -/

/-- The parsers succeed with these values from `s` to `t`, each from the state that the one before
it returned. -/
inductive Runs : State → List (Parser α) → List α → State → Prop
  | nil (s : State) : Runs s [] [] s
  | cons {p : Parser α} {ps : List (Parser α)} {s t u : State} {v : α} {vs : List α} :
      p s = .success v t → Runs t ps vs u → Runs s (p :: ps) (v :: vs) u

/-- One of the parsers from `s` on is run at `u`, because those in front of it succeed. -/
inductive ComesTo : State → List (Parser α) → Parser α → State → Prop
  | here (p : Parser α) (ps : List (Parser α)) (s : State) : ComesTo s (p :: ps) p s
  | there {p q : Parser α} {ps : List (Parser α)} {s t u : State} {v : α} :
      p s = .success v t → ComesTo t ps q u → ComesTo s (p :: ps) q u

theorem chain_eq_success_iff : chain ps s = .success vs t ↔ Runs s ps vs t := by
  constructor
  · intro h
    induction ps generalizing s vs with
    | nil =>
      cases h
      exact .nil _
    | cons p ps ih =>
      obtain ⟨v, u, ws, hp, hps, rfl⟩ := chain_cons_eq_success.1 h
      exact .cons hp (ih hps)
  · intro h
    induction h with
    | nil => rfl
    | cons hp _ ih => exact chain_cons_eq_success.2 ⟨_, _, _, hp, ih, rfl⟩

/-- The reply of a step that does not succeed is the reply of the whole. -/
theorem chain_of_comesTo (h : ComesTo s ps p u) (hp : ∀ v t, p u ≠ .success v t) :
    chain ps s = (p u).map fun v => [v] := by
  induction h with
  | here p ps s =>
    rw [chain]
    cases hps : p s with
    | success v t => exact (hp v t hps).elim
    | _ => rfl
  | there hq _ ih =>
    rw [chain, hq, Reply.bind, ih hp, Reply.map_map]
    exact Reply.map_of_ne_success hp _ _

/-- All of the steps succeed, or the run comes to one that does not. -/
theorem runs_or_comesTo (ps : List (Parser α)) (s : State) :
    (∃ vs t, Runs s ps vs t) ∨ ∃ p u, ComesTo s ps p u ∧ ∀ v t, p u ≠ .success v t := by
  induction ps generalizing s with
  | nil => exact .inl ⟨[], s, .nil s⟩
  | cons p ps ih =>
    by_cases hp : ∃ v t, p s = .success v t
    · obtain ⟨v, t, hp⟩ := hp
      rcases ih t with ⟨vs, u, hps⟩ | ⟨q, u, hq, hu⟩
      · exact .inl ⟨v :: vs, u, .cons hp hps⟩
      · exact .inr ⟨q, u, .there hp hq, hu⟩
    · exact .inr ⟨p, s, .here p ps s, fun v t hv => hp ⟨v, t, hv⟩⟩

theorem sequence_eq_failure_iff :
    sequence ps s = .failure e t ↔ t = s ∧ ∃ p u t', ComesTo s ps p u ∧ p u = .failure e t' := by
  constructor
  · intro h
    refine ⟨restores_sequence ps h, ?_⟩
    rcases runs_or_comesTo ps s with ⟨vs, u, hps⟩ | ⟨p, u, hp, hu⟩
    · rw [sequence_eq_success.2 (chain_eq_success_iff.2 hps)] at h
      cases h
    · rw [sequence, chain_of_comesTo hp hu] at h
      cases hpu : p u with
      | failure f t' =>
        rw [hpu] at h
        cases h
        exact ⟨p, u, t', hp, hpu⟩
      | success v t' => exact (hu v t' hpu).elim
      | _ => simp [hpu, Reply.map, Reply.restart] at h
  · rintro ⟨rfl, p, u, t', hp, hpu⟩
    rw [sequence, chain_of_comesTo hp (by simp [hpu]), hpu]
    rfl

/-- If every step that is run answers, so does the sequence. -/
theorem sequence_answers (h : ∀ p u, ComesTo s ps p u → p.Answers u) : (sequence ps).Answers s := by
  rcases runs_or_comesTo ps s with ⟨vs, t, hps⟩ | ⟨p, u, hp, hu⟩
  · exact .inl ⟨vs, t, sequence_eq_success.2 (chain_eq_success_iff.2 hps)⟩
  · rcases h p u hp with ⟨v, t, hv⟩ | ⟨e, t, he⟩
    · exact (hu v t hv).elim
    · exact .inr ⟨e, s, sequence_eq_failure_iff.2 ⟨rfl, p, u, t, hp, he⟩⟩

theorem product_eq_failure_iff {q : Parser β} :
    p.product q s = .failure e u ↔ u = s ∧ ((∃ t, p s = .failure e t) ∨
      ∃ v t t', p s = .success v t ∧ q t = .failure e t') := by
  constructor
  · intro h
    refine ⟨restores_product p q h, ?_⟩
    rw [product] at h
    cases hp : p s with
    | success v t =>
      cases hq : q t with
      | failure f t' =>
        simp only [hp, hq, Reply.bind, Reply.map, Reply.restart] at h
        cases h
        exact .inr ⟨v, t, t', rfl, hq⟩
      | _ => simp [hp, hq, Reply.bind, Reply.map, Reply.restart] at h
    | failure f t =>
      rw [hp] at h
      cases h
      exact .inl ⟨t, rfl⟩
    | _ => simp [hp, Reply.bind, Reply.restart] at h
  · rintro ⟨rfl, ⟨t, hp⟩ | ⟨v, t, t', hp, hq⟩⟩
    · exact product_of_failure hp
    · rw [product, hp, Reply.bind, hq]
      rfl

/-! ## Tuples -/

/-- Tuples of `n + 2` values of one type. -/
def Power (α : Type) : Nat → Type
  | 0 => α × α
  | n + 1 => α × Power α n

/-- The values of a tuple in order. -/
def Power.toList : (n : Nat) → Power α n → List α
  | 0, (v, w) => [v, w]
  | n + 1, (v, vs) => v :: toList n vs

namespace Tuple

/-- The tuple of two or more parsers for values of one type. -/
def ofList (p q : Parser α) : (ps : List (Parser α)) → Tuple (Power α ps.length)
  | [] => .pair p q
  | r :: ps => .cons p (ofList q r ps)

/-- Products of two parsers, each inside the one before it. -/
def products {α : Type} : Tuple α → Parser α
  | pair p q => p.product q
  | cons p ps => p.product ps.products

/-- Binds inside each other, the innermost of which goes on with the tuple of all the values. -/
def binds {α β : Type} : Tuple α → (α → Parser β) → Parser β
  | pair p q, last => p.bind fun v => q.bind fun w => last (v, w)
  | cons p ps, last => p.bind fun v => ps.binds fun vs => last (v, vs)

/-- The parsers succeed with the values of the tuple, each from the state that the one before it
returned. -/
def Succeeds {α : Type} : Tuple α → State → α → State → Prop
  | pair p q, s, v, u => ∃ t, p s = .success v.1 t ∧ q t = .success v.2 u
  | cons p ps, s, v, u => ∃ t, p s = .success v.1 t ∧ ps.Succeeds t v.2 u

/-- One of the parsers fails, and those in front of it succeed. -/
def Fails (e : Failure) {α : Type} : Tuple α → State → Prop
  | pair p q, s => (∃ t, p s = .failure e t) ∨ ∃ v t t', p s = .success v t ∧ q t = .failure e t'
  | cons p ps, s => (∃ t, p s = .failure e t) ∨ ∃ v t, p s = .success v t ∧ ps.Fails e t

theorem run_pair_map (p : Parser α) (q : Parser β) (f : α × β → γ) (s : State) :
    ((pair p q).run s).map f = (p s).bind fun v t => (q t).map fun w => f (v, w) := by
  rw [run, Reply.map_bind]
  simp only [Reply.map_map]

theorem run_cons_map (p : Parser α) (ps : Tuple β) (f : α × β → γ) (s : State) :
    ((cons p ps).run s).map f = (p s).bind fun v t => (ps.run t).map fun vs => f (v, vs) := by
  rw [run, Reply.map_bind]
  simp only [Reply.map_map]

theorem run_ofList (p q : Parser α) (ps : List (Parser α)) (s : State) :
    ((ofList p q ps).run s).map (Power.toList ps.length) = chain (p :: q :: ps) s := by
  induction ps generalizing p q s with
  | nil =>
    have hchain : chain [p, q] s = (p s).bind fun v t => (q t).map fun w => [v, w] := by
      simp only [chain, Reply.map_bind]
      rfl
    rw [hchain]
    exact run_pair_map p q _ s
  | cons r ps ih =>
    have htail : ∀ v t, ((ofList q r ps).run t).map (fun vs => v :: Power.toList ps.length vs) =
        (chain (q :: r :: ps) t).map (v :: ·) := by
      intro v t
      rw [← ih, Reply.map_map]
    rw [chain]
    simp only [← htail]
    exact run_cons_map p (ofList q r ps) _ s

theorem tuple_eq_products (ps : Tuple α) : tuple ps = ps.products := by
  induction ps with
  | pair p q => rfl
  | cons p ps ih =>
    funext s
    rw [products, ← ih, product]
    simp only [tuple, Reply.map_restart, Reply.bind_restart]
    rfl

theorem tuple_eq_success_iff {ps : Tuple α} {v : α} :
    tuple ps s = .success v t ↔ ps.Succeeds s v t := by
  rw [tuple_eq_products]
  induction ps generalizing s with
  | pair p q => exact product_eq_success
  | cons p ps ih =>
    rw [products, product_eq_success]
    exact exists_congr fun u => and_congr_right fun _ => ih

theorem tuple_eq_failure_iff {ps : Tuple α} :
    tuple ps s = .failure e t ↔ t = s ∧ ps.Fails e s := by
  induction ps generalizing s t with
  | pair p q => exact product_eq_failure_iff
  | cons p ps ih =>
    rw [tuple_eq_products, products, ← tuple_eq_products, product_eq_failure_iff]
    simp only [ih, Fails, exists_and_left, exists_eq_left]

theorem binds_map (ps : Tuple α) (f : α → β) :
    (ps.binds fun v => succeed (f v)) = (tuple ps).map f := by
  induction ps with
  | pair p q =>
    funext s
    rw [binds, bind, map, tuple, Reply.map_restart, run_pair_map]
    simp only [bind_succeed, map, Reply.bind_restart]
  | cons p ps ih =>
    funext s
    rw [binds, bind, map, tuple, Reply.map_restart, run_cons_map]
    simp only [ih, map, tuple, Reply.map_restart, Reply.bind_restart]

theorem tuple_eq_binds (ps : Tuple α) : tuple ps = ps.binds succeed :=
  ((ps.binds_map fun v => v).trans (map_id _)).symm

end Tuple

theorem tuple_ofList (p q : Parser α) (ps : List (Parser α)) :
    (tuple (.ofList p q ps)).map (Power.toList ps.length) = sequence (p :: q :: ps) := by
  funext s
  rw [map, tuple, Reply.map_restart, Tuple.run_ofList, sequence]

/-! ## Lists, and products in brackets -/

/-- Binds inside each other, the innermost of which goes on with all the values. -/
def binds : List (Parser α) → (List α → Parser β) → Parser β
  | [], last => last []
  | p :: ps, last => p.bind fun v => binds ps fun vs => last (v :: vs)

theorem binds_map (ps : List (Parser α)) (f : List α → β) :
    (binds ps fun vs => succeed (f vs)) = (sequence ps).map f := by
  induction ps generalizing f with
  | nil => rfl
  | cons p ps ih =>
    funext s
    rw [binds, bind, map, sequence, Reply.map_restart, chain, Reply.map_bind]
    simp only [ih, map, sequence, Reply.map_restart, Reply.bind_restart, Reply.map_map]

theorem binds_succeed (ps : List (Parser α)) : binds ps succeed = sequence ps :=
  (binds_map ps fun vs => vs).trans (map_id _)

/-- Inside a larger product, the parts of a nesting need not go back to their own starts. -/
theorem product_of_nestings {left right : Nesting (Parser α)}
    (hleft : ∀ s, (left.products.map (Nesting.Values.toList left) s).restart s =
      sequence left.leaves s)
    (hright : ∀ s, (right.products.map (Nesting.Values.toList right) s).restart s =
      sequence right.leaves s) :
    (left.products.product right.products).map (fun v =>
        Nesting.Values.toList left v.1 ++ Nesting.Values.toList right v.2) =
      sequence (left.leaves ++ right.leaves) := by
  funext s
  rw [sequence_append, map_product, map_product]
  simp only [← hleft, ← hright, map, Reply.map_restart, Reply.restart_bind, Reply.bind_map,
    Reply.map_map, Reply.bind_restart]

/-- **Products in any brackets are a sequence.** A nesting of a single parser is no product, and
does not go back by itself. -/
theorem restart_products (n : Nesting (Parser α)) (s : State) :
    (n.products.map (Nesting.Values.toList n) s).restart s = sequence n.leaves s := by
  induction n generalizing s with
  | single p =>
    show ((p s).map fun v => [v]).restart s = (chain [p] s).restart s
    rw [chain]
    cases p s <;> rfl
  | pair left right ihl ihr =>
    rw [Nesting.leaves, ← product_of_nestings ihl ihr]
    exact ((restores_product _ _).map _).restart_eq s

theorem products_pair (left right : Nesting (Parser α)) :
    (Nesting.pair left right).products.map (Nesting.Values.toList (.pair left right)) =
      sequence (Nesting.pair left right).leaves :=
  product_of_nestings (restart_products left) (restart_products right)

theorem product_assoc (p : Parser α) (q : Parser β) (r : Parser γ) :
    ((p.product q).product r).map (fun v => (v.1.1, v.1.2, v.2)) = p.product (q.product r) := by
  funext s
  rw [map_product, product]
  simp only [product, Reply.restart_bind, Reply.bind_restart, Reply.map_restart, Reply.bind_assoc,
    Reply.map_bind, Reply.bind_map, Reply.map_map]

/-! ## Projections -/

theorem andThen_eq_bind (p : Parser α) (q : Parser β) : p.andThen q = p.bind fun _ => q := by
  funext s
  rw [andThen, map_product, bind]
  simp only [Reply.map_id]

theorem between_eq_tuple (p : Parser α) (o : Parser β) (c : Parser γ) :
    p.between o c = (tuple (.cons o (.pair p c))).map fun v => v.2.1 := by
  funext s
  rw [map, tuple, Reply.map_restart, Tuple.run_cons_map]
  simp only [Tuple.run_pair_map]
  rfl

theorem between_eq_skip (p : Parser α) (o : Parser β) (c : Parser γ) :
    p.between o c = (o.andThen p).skip c := by
  funext s
  rw [skip, map_product, andThen_eq_bind, bind, between]
  simp only [Reply.restart_bind, Reply.bind_assoc]

/-- **The forms of a sequence agree.** A list, an array and a tuple of the same parsers, products of
them in any brackets, and binds inside each other have the same values in order, the same failure
and the same state; a tuple whose parts have different types agrees with its products and binds.
They succeed exactly if the steps do, one after another, and with the state of the last one. They
fail exactly if a step fails behind steps that succeed, with its failure and at their own start; and
one of the two is the case if the steps that are run answer. To run two parsers and keep one value,
or to match a parser between two texts, are projections of these forms. -/
theorem sequencing_agrees {α β γ : Type} :
    (∀ n (ps : Vector (Parser α) n), array ps = sequence ps.toList) ∧
    (∀ p q (ps : List (Parser α)),
      (tuple (.ofList p q ps)).map (Power.toList ps.length) = sequence (p :: q :: ps)) ∧
    (∀ left right : Nesting (Parser α),
      (Nesting.pair left right).products.map (Nesting.Values.toList (.pair left right)) =
        sequence (Nesting.pair left right).leaves) ∧
    (∀ (n : Nesting (Parser α)) s,
      (n.products.map (Nesting.Values.toList n) s).restart s = sequence n.leaves s) ∧
    (∀ ps : List (Parser α), binds ps succeed = sequence ps) ∧
    (∀ τ (ps : Tuple τ), tuple ps = ps.products ∧ tuple ps = ps.binds succeed) ∧
    (∀ (p : Parser α) (q : Parser β) (r : Parser γ),
      ((p.product q).product r).map (fun v => (v.1.1, v.1.2, v.2)) = p.product (q.product r)) ∧
    (∀ (ps : List (Parser α)) s, (∀ vs t, sequence ps s = .success vs t ↔ Runs s ps vs t) ∧
      (∀ e t, sequence ps s = .failure e t ↔
        t = s ∧ ∃ p u t', ComesTo s ps p u ∧ p u = .failure e t') ∧
      ((∀ p u, ComesTo s ps p u → p.Answers u) → (sequence ps).Answers s)) ∧
    (∀ τ (ps : Tuple τ) s, (∀ v t, tuple ps s = .success v t ↔ ps.Succeeds s v t) ∧
      ∀ e t, tuple ps s = .failure e t ↔ t = s ∧ ps.Fails e s) ∧
    (∀ (p : Parser α) (q : Parser β),
      (p.skip q = (p.product q).map Prod.fst ∧ p.skip q = (tuple (.pair p q)).map Prod.fst ∧
        p.skip q = p.bind fun v => q.bind fun _ => succeed v) ∧
      p.andThen q = (p.product q).map Prod.snd ∧ p.andThen q = (tuple (.pair p q)).map Prod.snd ∧
        p.andThen q = p.bind fun _ => q.bind fun w => succeed w) ∧
    ∀ (p : Parser α) before after, p.surroundedBy before after =
        (tuple (.cons (literal before) (.pair p (literal after)))).map (fun v => v.2.1) ∧
      p.surroundedBy before after = ((literal before).andThen p).skip (literal after) ∧
      p.surroundedBy before after = (literal before).bind fun _ => p.bind fun v =>
        (literal after).bind fun _ => succeed v := by
  refine ⟨fun n ps => rfl, tuple_ofList, products_pair, restart_products, binds_succeed,
    fun τ ps => ⟨ps.tuple_eq_products, ps.tuple_eq_binds⟩, product_assoc, ?_, ?_, ?_, ?_⟩
  · exact fun ps s => ⟨fun vs t => sequence_eq_success.trans chain_eq_success_iff,
      fun e t => sequence_eq_failure_iff, sequence_answers⟩
  · exact fun τ ps s => ⟨fun v t => Tuple.tuple_eq_success_iff,
      fun e t => Tuple.tuple_eq_failure_iff⟩
  · exact fun p q => ⟨⟨rfl, rfl, (Tuple.binds_map (.pair p q) Prod.fst).symm⟩,
      rfl, rfl, (Tuple.binds_map (.pair p q) Prod.snd).symm⟩
  · intro p before after
    have htuple := between_eq_tuple p (literal before) (literal after)
    refine ⟨htuple, between_eq_skip p _ _, htuple.trans ?_⟩
    exact (Tuple.binds_map (.cons _ (.pair p _)) fun v => v.2.1).symm

/-- The second of three steps fails, and not at its start. All forms go back to theirs. -/
theorem sequencing_agrees_half :
    let s := State.start ['a', 'b', 'c']
    let e : Failure := ⟨"half", 1, .structural⟩
    let first : Nesting (Parser Value) := .pair (.single anyChar) (.single half)
    (sequence [anyChar, half, anyChar]).Answers s ∧
      sequence [anyChar, half, anyChar] s = .failure e s ∧
      tuple (.cons anyChar (.pair half anyChar)) s = .failure e s ∧
      (Nesting.pair first (.single anyChar)).products.map
        (Nesting.Values.toList (.pair first (.single anyChar))) s = .failure e s := by
  intro s e first
  let t : State := ⟨['b', 'c'], 1, by decide⟩
  have hchar : anyChar s = .success (.text "a") t := rfl
  have hhalf : half t = .failure e ⟨['c'], 2, by decide⟩ := rfl
  obtain ⟨-, -, hnested, -, -, -, -, hlist, htuple, -⟩ := @sequencing_agrees Value Value Value
  obtain ⟨-, hfailure, hanswers⟩ := hlist [anyChar, half, anyChar] s
  have hcomes : ComesTo s [anyChar, half, anyChar] half t := .there hchar (.here _ _ _)
  have hfails := (hfailure e s).2 ⟨rfl, half, t, _, hcomes, hhalf⟩
  refine ⟨hanswers fun p u hp => ?_, hfails, ?_, ?_⟩
  · cases hp with
    | here => exact .inl ⟨_, _, hchar⟩
    | there hv hp =>
      cases hchar.symm.trans hv
      cases hp with
      | here => exact .inr ⟨_, _, hhalf⟩
      | there hv _ => cases hhalf.symm.trans hv
  · exact ((htuple _ _ s).2 e s).2 ⟨rfl, .inr ⟨_, _, hchar, .inl ⟨_, hhalf⟩⟩⟩
  · rw [hnested]
    exact hfails

end Parser

end Descent
