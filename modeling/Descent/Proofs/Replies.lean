import Descent.Proofs.Success

/-!
# Laws of replies

Combinators are put together from four operations on replies: one changes the value, one goes on
after a success, one goes back to a start, and one changes the failure. The laws of this file say
how these pass through each other, so that two ways to put the same steps together can be compared
as equations. To go back twice is to go back to the outer start, which is why the brackets of a
sequence do not matter (`Parser.sequence_append`).
-/

namespace Descent

variable {α β γ : Type}

namespace Reply

/-! ## Equations -/

theorem map_id (r : Reply α) : (r.map fun v => v) = r := by
  cases r <;> rfl

theorem map_map (r : Reply α) (f : α → β) (g : β → γ) :
    (r.map f).map g = r.map fun v => g (f v) := by
  cases r <;> rfl

theorem bind_assoc (r : Reply α) (f : α → State → Reply β) (g : β → State → Reply γ) :
    (r.bind f).bind g = r.bind fun v s => (f v s).bind g := by
  cases r <;> rfl

theorem bind_map (r : Reply α) (f : α → β) (g : β → State → Reply γ) :
    (r.map f).bind g = r.bind fun v s => g (f v) s := by
  cases r <;> rfl

theorem map_bind (r : Reply α) (f : α → State → Reply β) (g : β → γ) :
    (r.bind f).map g = r.bind fun v s => (f v s).map g := by
  cases r <;> rfl

theorem bind_success (r : Reply α) (f : α → β) :
    (r.bind fun v s => .success (f v) s) = r.map f := by
  cases r <;> rfl

theorem map_restart (r : Reply α) (s : State) (f : α → β) :
    (r.restart s).map f = (r.map f).restart s := by
  cases r <;> rfl

theorem restart_restart (r : Reply α) (s t : State) : (r.restart s).restart t = r.restart t := by
  cases r <;> rfl

/-- Where the whole goes back to its start, its first part need not. -/
theorem restart_bind (r : Reply α) (s t : State) (f : α → State → Reply β) :
    ((r.restart s).bind f).restart t = (r.bind f).restart t := by
  cases r <;> rfl

/-- Nor need its second part. -/
theorem bind_restart (r : Reply α) (t : State) (f : α → State → Reply β) :
    (r.bind fun v s => (f v s).restart s).restart t = (r.bind f).restart t := by
  cases r with
  | success v s => exact restart_restart _ _ _
  | _ => rfl

theorem mapFailure_id (r : Reply α) : (r.mapFailure fun e => e) = r := by
  cases r <;> rfl

theorem mapFailure_map (r : Reply α) (f : α → β) (g : Failure → Failure) :
    (r.map f).mapFailure g = (r.mapFailure g).map f := by
  cases r <;> rfl

theorem mapFailure_restart (r : Reply α) (s : State) (g : Failure → Failure) :
    (r.restart s).mapFailure g = (r.mapFailure g).restart s := by
  cases r <;> rfl

theorem mapFailure_bind (r : Reply α) (f : α → State → Reply β) (g : Failure → Failure) :
    (r.bind f).mapFailure g = (r.mapFailure g).bind fun v s => (f v s).mapFailure g := by
  cases r <;> rfl

theorem mapFailure_eq_unfinished {r : Reply α} {g : Failure → Failure} :
    r.mapFailure g = .unfinished ↔ r = .unfinished := by
  cases r <;> simp [mapFailure]

/-! ## In place of a failure -/

/-- Succeeds with `v` at `s` in place of a failure. -/
def otherwise (v : α) (s : State) : Reply α → Reply α
  | failure _ _ => success v s
  | r => r

theorem otherwise_restart (r : Reply α) (t : State) (v : α) (s : State) :
    (r.restart t).otherwise v s = r.otherwise v s := by
  cases r <;> rfl

/-! ## Replies that are no failures -/

section NoFailure

variable {r : Reply α}

theorem map_ne_failure (hr : ∀ e t, r ≠ .failure e t) (f : α → β) (e : Failure) (t : State) :
    r.map f ≠ .failure e t := by
  cases r with
  | failure e' t' => exact absurd rfl (hr e' t')
  | _ => nofun

theorem otherwise_of_ne_failure (hr : ∀ e t, r ≠ .failure e t) (v : α) (s : State) :
    r.otherwise v s = r := by
  cases r with
  | failure e t => exact absurd rfl (hr e t)
  | _ => rfl

theorem mapFailure_restart_of_ne_failure (hr : ∀ e t, r ≠ .failure e t) (s : State)
    (f : Failure → Failure) : (r.restart s).mapFailure f = r := by
  cases r with
  | failure e t => exact absurd rfl (hr e t)
  | _ => rfl

end NoFailure

end Reply

namespace Parser

variable {s t : State}

theorem Restores.restart_eq {p : Parser α} (hp : p.Restores) (s : State) :
    (p s).restart s = p s := by
  cases h : p s with
  | failure e t =>
    rw [hp h]
    rfl
  | _ => rfl

theorem map_id (p : Parser α) : (p.map fun v => v) = p := funext fun s => Reply.map_id (p s)

theorem map_map (p : Parser α) (f : α → β) (g : β → γ) : (p.map f).map g = p.map fun v => g (f v) :=
  funext fun s => Reply.map_map (p s) f g

theorem map_product (p : Parser α) (q : Parser β) (f : α × β → γ) (s : State) :
    (p.product q).map f s = ((p s).bind fun v t => (q t).map fun w => f (v, w)).restart s := by
  rw [map, product, Reply.map_restart, Reply.map_bind]
  simp only [Reply.map_map]

theorem bind_succeed (p : Parser α) (f : α → β) (s : State) :
    p.bind (fun v => succeed (f v)) s = (p.map f s).restart s :=
  congrArg (Reply.restart s) (Reply.bind_success (p s) f)

theorem alternatives_succeed (p : Parser α) (v : α) (s : State) :
    alternatives [p, succeed v] s = (p s).otherwise v s := by
  rw [alternatives, firstOf]
  cases p s <;> rfl

/-! ## Failures of quantity -/

/-- As `p`, with all of its failures as failures of quantity. -/
def asQuantity (p : Parser α) : Parser α := fun s => (p s).mapFailure (·.withKind .quantity)

theorem asQuantity_map (p : Parser α) (f : α → β) : (p.map f).asQuantity = p.asQuantity.map f :=
  funext fun s => Reply.mapFailure_map (p s) f _

theorem asQuantity_product (p : Parser α) (q : Parser β) :
    (p.product q).asQuantity = p.asQuantity.product q.asQuantity := by
  funext s
  simp only [asQuantity, product, Reply.mapFailure_restart, Reply.mapFailure_bind,
    Reply.mapFailure_map]

/-! ## Sequences -/

theorem chain_append (ps qs : List (Parser α)) (s : State) :
    chain (ps ++ qs) s = (chain ps s).bind fun vs t => (chain qs t).map (vs ++ ·) := by
  induction ps generalizing s with
  | nil =>
    show chain qs s = (chain qs s).map ([] ++ ·)
    cases chain qs s <;> rfl
  | cons p ps ih =>
    simp only [List.cons_append, chain, ih, Reply.bind_assoc, Reply.bind_map, Reply.map_bind,
      Reply.map_map]

theorem length_of_chain {ps : List (Parser α)} {vs : List α} (h : chain ps s = .success vs t) :
    vs.length = ps.length := by
  induction ps generalizing s vs with
  | nil =>
    cases h
    rfl
  | cons p ps ih =>
    obtain ⟨v, u, ws, -, hps, rfl⟩ := chain_cons_eq_success.1 h
    rw [List.length_cons, List.length_cons, ih hps]

/-- **Two sequences in a row are one sequence.** -/
theorem sequence_append (ps qs : List (Parser α)) :
    sequence (ps ++ qs) = ((sequence ps).product (sequence qs)).map fun v => v.1 ++ v.2 := by
  funext s
  rw [map_product, sequence, chain_append]
  simp only [sequence, Reply.map_restart, Reply.restart_bind, Reply.bind_restart]

end Parser

end Descent
