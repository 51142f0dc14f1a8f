import Descent.Proofs.Limit
import Descent.Proofs.Loops

/-!
# Loops and the rules that they stand for

What a repetition does in a loop can be said by a rule that names itself: an element and the rule
again, or else nothing (`Grammar.anyRule`); and with delimiters, an element, and then a delimiter
and the rule again, or else nothing (`Grammar.someRule`). The loop gives back a round that fails by
keeping the state before it, and the rule by its second alternative.

The rule is a solution of its own equation. If every round gets further, this equation has one
solution only, and the loop is it (`Parser.eq_advancing_of_equation`): what the equation asks at one
state depends on states with larger offsets, and offsets have a bound. For the rule with delimiters
the equation is that of what follows an element, since the element itself may read nothing.

Main statement: `Grammar.loops_unrolled`.
-/

namespace Descent

/-! ## Lists put together item by item -/

namespace Value

/-- The list with the first of two values in front of the second, which is a list. -/
def cons : Value → Value
  | list [v, list items] => list (v :: items)
  | _ => null

theorem foldr_cons : List.foldr (fun v w => cons (pair (v, w))) (list []) = list := by
  funext items
  induction items with
  | nil => rfl
  | cons v items ih =>
    rw [List.foldr_cons, ih]
    rfl

end Value

/-! ## The equation of a loop -/

namespace Parser

variable {α β γ : Type} {p : Parser α} {d : Parser γ} {r tail : Parser β} {cons : α × β → β}
  {nil : β}

/-- Every success gets further. -/
def Progresses (p : Parser α) : Prop := ∀ ⦃s v t⦄, p s = .success v t → s.consumed < t.consumed

theorem progresses_literal {text : String} (htext : text.toList ≠ []) :
    (literal text).Progresses := by
  intro s v t h
  exact (literal_eq_success_iff.1 h).1.consumed_lt htext

theorem Progresses.map (hp : p.Progresses) (f : α → β) : (p.map f).Progresses := by
  intro s w t h
  obtain ⟨v, hv, -⟩ := map_eq_success.1 h
  exact hp hv

theorem Progresses.andThen (hd : d.Progresses) (hp : p.Advances) : (d.andThen p).Progresses := by
  intro s v u h
  obtain ⟨t, w, hs, ht⟩ := andThen_eq_success_iff.1 h
  exact Nat.lt_of_lt_of_le (hd hs) (hp ht).consumed_le

/-- **The equation of a loop has one solution.** -/
theorem eq_advancing_of_equation (hp : p.Progresses)
    (hr : ∀ s, r s = ((p s).bind fun v t => (r t).map fun w => cons (v, w)).otherwise nil s)
    (s : State) :
    r s = (p.advancing [] s).map (List.foldr (fun v w => cons (v, w)) nil) := by
  rw [hr, advancing]
  cases hs : p s with
  | success v t =>
    -- The equation at `s` asks about the state after an element, which has a larger offset.
    have hlt := hp hs
    have ih := eq_advancing_of_equation hp hr t
    simp only [Reply.bind, if_pos hlt, ih, advancing_singleton, Reply.map_map]
    exact Reply.otherwise_of_ne_failure (Reply.map_ne_failure (advancing_ne_failure _ _ _) _) nil s
  | _ => rfl
termination_by maxOffset - s.consumed
decreasing_by
  have hle := t.consumed_le
  omega

/-- An element and the whole again, or else nothing. -/
theorem eq_delimited_of_any (hp : p.Progresses)
    (hr : r = alternatives [(p.product r).map cons, succeed nil]) (s : State) :
    r s = (p.delimited false (none : Option (Parser γ)) s).map
      (List.foldr (fun v w => cons (v, w)) nil) := by
  have hequation : ∀ s, r s =
      ((p s).bind fun v t => (r t).map fun w => cons (v, w)).otherwise nil s := by
    intro s
    conv => lhs; rw [hr]
    rw [alternatives_succeed, map_product, Reply.otherwise_restart]
  rw [delimited_eq_advancing fun v t hs => hp hs]
  exact eq_advancing_of_equation hp hequation s

/-- What follows an element: a delimiter and the whole again, or else nothing. It goes back to its
own start, so it does not matter that the whole goes back to the element. -/
theorem tail_equation (hr : r = (p.product tail).map cons)
    (htail : tail = alternatives [d.andThen r, succeed nil]) (s : State) :
    tail s = ((p.round (some d) s).bind fun v t => (tail t).map fun w => cons (v, w)).otherwise
      nil s := by
  have hround : r.round (some d) s =
      (d s).bind fun _ u => ((p u).bind fun v t => (tail t).map fun w => cons (v, w)).restart u :=
    congrArg (d s).bind (funext fun _ => hr ▸ funext (map_product p tail cons))
  have hassoc := Reply.bind_assoc (d s) (fun _ => p) fun v t => (tail t).map fun w => cons (v, w)
  conv => lhs; rw [htail]
  rw [alternatives_succeed, andThen_eq_round, hround, Reply.bind_restart, Reply.otherwise_restart,
    ← hassoc]
  rfl

/-- An element, and then a delimiter and the whole again, or else nothing. -/
theorem asQuantity_eq_delimited_of_some (hround : (p.round (some d)).Progresses)
    (hr : r = (p.product (alternatives [d.andThen r, succeed nil])).map cons) (s : State) :
    r.asQuantity s = (p.delimited true (some d) s).map
      (List.foldr (fun v w => cons (v, w)) nil) := by
  have htail := eq_advancing_of_equation hround (tail_equation hr rfl)
  have hwhole := (congrFun hr s).trans (map_product _ _ _ s)
  rw [asQuantity, hwhole, delimited]
  cases hs : p s with
  | success v t =>
    simp only [Reply.bind, htail, advancing_singleton, Reply.map_map]
    exact Reply.mapFailure_restart_of_ne_failure
      (Reply.map_ne_failure (advancing_ne_failure _ _ _) _) s _
  | _ => rfl

end Parser

/-! ## Rules -/

namespace Grammar

/-- Elements in a row: an element and the rule `name` again, or else nothing. -/
def anyRule (g : Grammar) (name : String) : Grammar :=
  .alternatives [.map (.product g (.rule name)) Value.cons, .succeed (.list [])]

/-- Elements with delimiters between them: an element, and then a delimiter and the rule `name`
again, or else nothing. -/
def someRule (g d : Grammar) (name : String) : Grammar :=
  .map (.product g (.alternatives [.andThen d (.rule name), .succeed (.list [])])) Value.cons

/-- Every run that ends with a success has got further. -/
def Progresses (g : Grammar) (rules : Rules) : Prop :=
  ∀ ⦃s v t⦄, g.Ends rules s (.success v t) → s.consumed < t.consumed

variable {rules : Rules} {name : String} {g d : Grammar} {s : State}

theorem progresses_of_forall (h : ∀ parsers, (g.parser parsers).Progresses) :
    g.Progresses rules := by
  rintro s v t ⟨-, depth, hrun⟩
  exact h _ hrun

theorem Progresses.limit (hg : g.Progresses rules) : (g.parser rules.limit).Progresses := by
  intro s v t h
  exact hg (ends_iff_limit.2 ⟨nofun, h⟩)

theorem Progresses.round_limit (h : (andThen d g).Progresses rules) :
    ((g.parser rules.limit).round (some (d.parser rules.limit))).Progresses := by
  intro s v t hround
  refine h.limit (s := s) (v := v) ?_
  show (d.parser rules.limit).andThen (g.parser rules.limit) s = _
  rw [Parser.andThen_eq_round, hround]
  rfl

/-- The rule is the loop, over the limits. -/
theorem limit_of_anyRule (hbody : rules.body name = g.anyRule name) (hg : g.Progresses rules) :
    rules.limit name = (g.zeroOrMore {}).parser rules.limit := by
  have hlimit : rules.limit name = Parser.alternatives
      [((g.parser rules.limit).product (rules.limit name)).map fun v => Value.cons (.pair v),
        .succeed (.list [])] := by
    conv => lhs; rw [rules.limit_eq, hbody]
    rw [← Parser.map_map]
    rfl
  funext s
  have hloop : rules.limit name s =
      ((g.parser rules.limit).delimited false (none : Option (Parser Value)) s).map _ :=
    Parser.eq_delimited_of_any hg.limit hlimit s
  rw [hloop, Value.foldr_cons]
  rfl

theorem limit_of_someRule (hbody : rules.body name = g.someRule d name)
    (hround : (andThen d g).Progresses rules) :
    (rules.limit name).asQuantity = (g.delimited true (some d)).parser rules.limit := by
  have hlimit : rules.limit name = ((g.parser rules.limit).product (.alternatives
      [(d.parser rules.limit).andThen (rules.limit name), .succeed (.list [])])).map
        fun v => Value.cons (.pair v) := by
    conv => lhs; rw [rules.limit_eq, hbody]
    rw [← Parser.map_map]
    rfl
  funext s
  rw [Parser.asQuantity_eq_delimited_of_some hround.round_limit hlimit, Value.foldr_cons]
  rfl

/-- **Loops are rules unrolled.** If every success of an element gets further, the rule of elements
in a row ends as their repetition without a delimiter does: with the same reply at every state, or
not at all. If a delimiter and an element together get further, the rule of elements with delimiters
ends as their repetition once or more does, up to the kind of a failure, which is one of quantity in
the loop. -/
theorem loops_unrolled (rules : Rules) (name : String) (g d : Grammar) :
    (rules.body name = g.anyRule name → g.Progresses rules → ∀ s r,
      (rule name).Ends rules s r ↔ (g.zeroOrMore {}).Ends rules s r) ∧
    (rules.body name = g.someRule d name → (andThen d g).Progresses rules →
      ∀ delimiter : Parser.Delimiter Grammar, delimiter.resolve literal = some d → ∀ s r,
        (g.oneOrMore delimiter).Ends rules s r ↔
          ∃ r', (rule name).Ends rules s r' ∧ r = r'.mapFailure (·.withKind .quantity)) := by
  simp only [ends_iff_limit]
  refine ⟨fun hbody hg s r => ?_, fun hbody hround delimiter hdelimiter s r => ?_⟩
  · rw [← limit_of_anyRule hbody hg]
    rfl
  · rw [oneOrMore, hdelimiter, ← limit_of_someRule hbody hround]
    constructor
    · rintro ⟨hr, rfl⟩
      refine ⟨rules.limit name s, ⟨fun h => hr ?_, rfl⟩, rfl⟩
      rw [Parser.asQuantity, h]
      rfl
    · rintro ⟨r', ⟨hr, rfl⟩, rfl⟩
      exact ⟨fun h => hr (Reply.mapFailure_eq_unfinished.1 h), rfl⟩

/-- Fields that may be empty, letters with commas of which the first is missing, and letters in a
row. -/
theorem loops_unrolled_fields :
    let field := optional (literal "a")
    let comma := literal ","
    let letter := literal "b"
    let rules : Rules := ⟨[("fields", someRule field comma "fields"),
      ("listed", someRule letter comma "listed"), ("letters", anyRule letter "letters")]⟩
    let s := State.start ['a', ',', ',', 'b', 'b']
    let t : State := ⟨['b', 'b'], 3, by decide⟩
    let u : State := ⟨[], 5, by decide⟩
    (field.oneOrMore { text := some "," }).Ends rules s
      (.success (.list [.present (.text "a"), .null, .null]) t) ∧
    (letter.oneOrMore { text := some "," }).Ends rules s (.failure ⟨"b", 0, .quantity⟩ s) ∧
    (letter.zeroOrMore {}).Ends rules t (.success (.list [.text "b", .text "b"]) u) := by
  intro field comma letter rules s t u
  have hadvances : ∀ text, ((Parser.literal text).map Value.text).Advances :=
    fun text => .map (Parser.advances_literal text) _
  have hcomma : ((Parser.literal ",").map Value.text).Progresses :=
    (Parser.progresses_literal (by decide)).map _
  have hletter : letter.Progresses rules :=
    progresses_of_forall fun _ => (Parser.progresses_literal (by decide)).map _
  have hcommaField : (andThen comma field).Progresses rules :=
    progresses_of_forall fun _ => hcomma.andThen ((hadvances "a").optional.map _)
  have hcommaLetter : (andThen comma letter).Progresses rules :=
    progresses_of_forall fun _ => hcomma.andThen (hadvances "b")
  have hfields : (rule "fields").Ends rules s
      (.success (.list [.present (.text "a"), .null, .null]) t) := ⟨nofun, 8, rfl⟩
  have hlisted : (rule "listed").Ends rules s (.failure ⟨"b", 0, .structural⟩ s) := ⟨nofun, 8, rfl⟩
  have hletters : (rule "letters").Ends rules t (.success (.list [.text "b", .text "b"]) u) :=
    ⟨nofun, 8, rfl⟩
  refine ⟨?_, ?_, ?_⟩
  · obtain ⟨-, hloop⟩ := loops_unrolled rules "fields" field comma
    exact (hloop rfl hcommaField _ rfl s _).2 ⟨_, hfields, rfl⟩
  · obtain ⟨-, hloop⟩ := loops_unrolled rules "listed" letter comma
    exact (hloop rfl hcommaLetter _ rfl s _).2 ⟨_, hlisted, rfl⟩
  · obtain ⟨hloop, -⟩ := loops_unrolled rules "letters" letter comma
    exact (hloop rfl hletter t _).1 hletters

end Grammar

end Descent
