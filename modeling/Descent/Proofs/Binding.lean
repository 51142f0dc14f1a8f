import Descent.Parser.Custom
import Descent.Proofs.Replies
import Descent.Proofs.Restore
import Descent.Proofs.Rounds

/-!
# Laws of binding

To bind is associative, whatever the steps do: an inner bind goes back to a state in the middle, and
the outer one goes back further (`Parser.bind_assoc`). To bind `succeed`, in front or behind, is
another matter. It makes a step go back to its start that need not do so by itself, and so it
changes nothing exactly if the step does (`Parser.eq_iff_restores`). The state of a failure is all
that it changes: both sides have the same outcome.

Main statement: `Parser.bind_laws_exact`.
-/

namespace Descent

variable {α β γ : Type}

theorem Reply.outcome_restart (r : Reply α) (s : State) : (r.restart s).outcome = r.outcome := by
  cases r <;> rfl

namespace Parser

variable {p q : Parser α}

theorem bind_assoc (p : Parser α) (f : α → Parser β) (g : β → Parser γ) :
    (p.bind f).bind g = p.bind fun v => (f v).bind g := by
  funext s
  simp only [bind, Reply.restart_bind, Reply.bind_restart, Reply.bind_assoc]

/-- A parser that only goes back to its start in addition is the same exactly if that is where `p`
goes by itself. -/
theorem eq_iff_restores (hq : ∀ s, q s = (p s).restart s) : q = p ↔ p.Restores := by
  constructor
  · rintro rfl s e t h
    rw [hq s] at h
    exact state_of_restart h
  · intro hp
    funext s
    rw [hq s, hp.restart_eq]

theorem restores_map_iff {f : α → β} : (p.map f).Restores ↔ p.Restores := by
  constructor
  · intro h s e t hp
    exact h (map_eq_failure.2 hp)
  · exact fun hp => hp.map f

/-- **The laws of binding.** To bind is associative. To bind a value that is there already is to run
what is bound to it, to bind `succeed` changes nothing, and to bind it behind a function is to map
the function, each exactly if the step goes back to its start whenever it fails. If it does not, the
two sides still have the same outcome: the same value and state, or the same failure. If the first
step fails, nothing that is bound to it matters. -/
theorem bind_laws_exact (p : Parser α) (f : α → Parser β) (g : β → Parser γ) (h : α → β) (v : α) :
    (p.bind f).bind g = p.bind (fun w => (f w).bind g) ∧
    ((succeed v).bind f = f v ↔ (f v).Restores) ∧
    (p.bind succeed = p ↔ p.Restores) ∧
    (p.bind (fun w => succeed (h w)) = p.map h ↔ p.Restores) ∧
    (∀ s, ((succeed v).bind f s).outcome = (f v s).outcome ∧
      (p.bind succeed s).outcome = (p s).outcome ∧
      (p.bind (fun w => succeed (h w)) s).outcome = (p.map h s).outcome) ∧
    ∀ s e t, p s = .failure e t → ∀ f' : α → Parser β, p.bind f' s = .failure e s := by
  have hleft : ∀ s, (succeed v).bind f s = (f v s).restart s := fun s => rfl
  have hmap : ∀ s, p.bind (fun w => succeed (h w)) s = (p.map h s).restart s := bind_succeed p h
  have hright : ∀ s, p.bind succeed s = (p s).restart s := by
    intro s
    rw [← Reply.map_id (p s)]
    exact bind_succeed p (fun w => w) s
  refine ⟨bind_assoc p f g, eq_iff_restores hleft, eq_iff_restores hright,
    (eq_iff_restores hmap).trans restores_map_iff, fun s => ⟨?_, ?_, ?_⟩, ?_⟩
  · rw [hleft, Reply.outcome_restart]
  · rw [hright, Reply.outcome_restart]
  · rw [hmap, Reply.outcome_restart]
  · exact fun s e t hp f' => bind_of_failure hp

/-- The step `half` fails behind the next character, which `succeed` behind it hides. -/
theorem bind_laws_exact_half :
    let s := State.start ['a', 'b']
    let e : Failure := ⟨"half", 0, .structural⟩
    half.bind succeed ≠ half ∧ half s = .failure e ⟨['b'], 1, by decide⟩ ∧
      half.bind succeed s = .failure e s ∧ (half.bind succeed s).outcome = (half s).outcome := by
  intro s e
  obtain ⟨-, -, hright, -, houtcome, hfailure⟩ :=
    bind_laws_exact half succeed (succeed : Value → Parser Value) id .null
  have hhalf : half s = .failure e ⟨['b'], 1, by decide⟩ := rfl
  refine ⟨fun h => ?_, hhalf, hfailure s e _ hhalf succeed, (houtcome s).2.1⟩
  exact absurd (hright.1 h hhalf) (by decide)

end Parser

end Descent
