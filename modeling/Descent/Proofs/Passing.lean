import Descent.Proofs.Forward
import Descent.Proofs.Guarded
import Descent.Proofs.Success

/-!
# Successes that read nothing

If all steps written by hand advance, the analysis of `Grammar.MayPass` is sound: a grammar that
succeeds without reading anything may pass. The proof goes over the depth of the run and then over
the grammar. Where two parts run one after the other, the state between them has the same text left
as the states at both ends, because states only move forward.
-/

namespace Descent

/-! ## States with the same text left -/

namespace State.Precedes

variable {s t u : State}

/-- Between two states with the same text left there is no other. -/
theorem squeeze (h : s.Precedes t) (h' : t.Precedes u) (hu : u.remaining = s.remaining) :
    t.remaining = s.remaining ∧ u.remaining = t.remaining := by
  have hst := h.suffix.length_le
  have htu := h'.suffix.length_le
  have ht : t.remaining = s.remaining := h.suffix.eq_of_length (by rw [hu] at htu; omega)
  exact ⟨ht, hu.trans ht.symm⟩

/-- A state that comes after another has the same text left, or a shorter one. -/
theorem remaining_eq_or_length_lt (h : s.Precedes t) :
    t.remaining = s.remaining ∨ t.remaining.length < s.remaining.length := by
  by_cases hlen : t.remaining.length = s.remaining.length
  · exact .inl (h.suffix.eq_of_length hlen)
  · exact .inr (lt_of_le_of_ne h.suffix.length_le hlen)

end State.Precedes

/-! ## Parsers that advance -/

namespace Parser.Advances

variable {α β : Type} {p : Parser α} {s t : State}

theorem collect (hp : p.Advances) {least rounds : Nat} {endless : Bool} {start : State}
    {values vs : List α} (h : p.collect least endless start rounds values s = .success vs t) :
    s.Precedes t := by
  induction rounds generalizing values s with
  | zero =>
    rw [Parser.collect] at h
    split at h
    · cases h
    · cases h
      exact .refl _
  | succ rounds ih =>
    rw [Parser.collect] at h
    cases hr : p s with
    | success v s' =>
      simp only [hr] at h
      split at h
      · cases h
        exact .refl _
      · exact (hp hr).trans (ih h)
    | failure _ _ =>
      simp only [hr] at h
      split at h
      · cases h
      · cases h
        exact .refl _
    | fault _ => simp [hr] at h
    | unfinished => simp [hr] at h

theorem advancing (hp : p.Advances) {values vs : List α}
    (h : p.advancing values s = .success vs t) : s.Precedes t := by
  have hreplies := (Invariant.parsers_self.2 (Invariant.after_keeps hp)).advancing
    (Invariant.lawful_after s).coupling values ⟨rfl, .refl s⟩
  rw [h] at hreplies
  exact Invariant.replies_self.1 hreplies

theorem chain {ps : List (Parser α)} (hps : ∀ p ∈ ps, p.Advances) : (chain ps).Advances := by
  induction ps with
  | nil =>
    intro s vs t h
    cases h
    exact .refl _
  | cons p ps ih =>
    obtain ⟨hp, hps⟩ := List.forall_mem_cons.1 hps
    intro s vs u h
    obtain ⟨v, t, ws, hv, hws, -⟩ := chain_cons_eq_success.1 h
    exact (hp hv).trans (ih hps hws)

theorem round (hp : p.Advances) {d : Option (Parser β)} (hd : ∀ q ∈ d, q.Advances) :
    (p.round d).Advances := by
  cases d with
  | none => exact hp
  | some q =>
    intro s v u h
    obtain ⟨_, t, hq, hr⟩ := Reply.bind_eq_success.1 h
    exact (hd q rfl hq).trans (hp hr)

end Parser.Advances

/-! ## Parsers that pass -/

namespace Parser

variable {α β γ : Type} {p : Parser α} {q : Parser β}

theorem eq_of_literal_passes {text : String} (h : (literal text).Passes) : text = "" := by
  obtain ⟨s, v, t, hrun, ht⟩ := h
  have htext := literal_eq_success hrun
  rw [ht] at htext
  simpa using htext

theorem matchEnd?_of_matching_passes {e : Pattern} {label : String}
    (h : (matching e label).Passes) : ∃ text, e.matchEnd? text = some 0 := by
  obtain ⟨s, v, t, hrun, ht⟩ := h
  obtain ⟨front, hr, hend⟩ := matching_eq_success hrun
  obtain rfl : front = [] := by rw [ht] at hr; simpa using hr
  exact ⟨s.remaining, hend⟩

/-- A program that does not accept at once has read something where it matches. -/
theorem not_passes_matching {e : Pattern.Expr}
    (hstart : ∀ text, (Pattern.Program.Run.start e.program text).best = none) (label : String) :
    ¬ (matching (.ofExpr e) label).Passes := by
  intro h
  obtain ⟨text, hend⟩ := matchEnd?_of_matching_passes h
  exact Nat.lt_irrefl 0 (Pattern.Program.matchEnd?_pos (hstart text) hend)

namespace Passes

theorem of_map {f : α → β} (h : (p.map f).Passes) : p.Passes := by
  obtain ⟨s, _, t, hrun, ht⟩ := h
  obtain ⟨v, hp, -⟩ := map_eq_success.1 hrun
  exact ⟨s, v, t, hp, ht⟩

theorem of_desc {label : String} (h : (p.desc label).Passes) : p.Passes := by
  obtain ⟨s, v, t, hrun, ht⟩ := h
  exact ⟨s, v, t, desc_eq_success.1 hrun, ht⟩

theorem of_converted {p : Parser String} {read : List Char → Option α} {label : String}
    (h : (converted .none p read label).Passes) : p.Passes := by
  obtain ⟨s, _, t, hrun, ht⟩ := h
  obtain ⟨text, hp, -⟩ := converted_eq_success.1 hrun
  exact ⟨s, text, t, hp, ht⟩

theorem of_bind {next : α → Parser β} (hp : p.Advances) (hnext : ∀ v, (next v).Advances)
    (h : (p.bind next).Passes) : p.Passes ∧ ∃ v, (next v).Passes := by
  obtain ⟨s, w, u, hrun, hu⟩ := h
  obtain ⟨v, t, hv, hw⟩ := bind_eq_success.1 hrun
  obtain ⟨ht, hu⟩ := (hp hv).squeeze (hnext v hw) hu
  exact ⟨⟨s, v, t, hv, ht⟩, v, t, w, u, hw, hu⟩

theorem of_product (hp : p.Advances) (hq : q.Advances) (h : (p.product q).Passes) :
    p.Passes ∧ q.Passes := by
  obtain ⟨s, w, u, hrun, hu⟩ := h
  obtain ⟨t, hv, hw⟩ := product_eq_success.1 hrun
  obtain ⟨ht, hu⟩ := (hp hv).squeeze (hq hw) hu
  exact ⟨⟨s, w.1, t, hv, ht⟩, t, w.2, u, hw, hu⟩

theorem of_between {opening : Parser β} {closing : Parser γ} (ho : opening.Advances)
    (hp : p.Advances) (hc : closing.Advances) (h : (p.between opening closing).Passes) :
    opening.Passes ∧ p.Passes ∧ closing.Passes := by
  obtain ⟨s, v, u, hrun, hu⟩ := h
  obtain ⟨a, b, t, t', hopen, hv, hclose⟩ := between_eq_success.1 hrun
  obtain ⟨ht, hu⟩ := (ho hopen).squeeze ((hp hv).trans (hc hclose)) hu
  obtain ⟨ht', hu⟩ := (hp hv).squeeze (hc hclose) hu
  exact ⟨⟨s, a, t, hopen, ht⟩, ⟨t, v, t', hv, ht'⟩, t', b, u, hclose, hu⟩

/-- A chain that reads nothing has read nothing in any of its parsers. -/
theorem of_chain {ps : List (Parser α)} (hps : ∀ p ∈ ps, p.Advances) (h : (chain ps).Passes) :
    ∀ p ∈ ps, p.Passes := by
  induction ps with
  | nil => simp
  | cons p ps ih =>
    obtain ⟨hp, hps⟩ := List.forall_mem_cons.1 hps
    obtain ⟨s, vs, u, hrun, hu⟩ := h
    obtain ⟨v, t, ws, hv, hws, -⟩ := chain_cons_eq_success.1 hrun
    obtain ⟨ht, hu⟩ := (hp hv).squeeze (Advances.chain hps hws) hu
    exact List.forall_mem_cons.2 ⟨⟨s, v, t, hv, ht⟩, ih hps ⟨t, ws, u, hws, hu⟩⟩

theorem of_sequence {ps : List (Parser α)} (hps : ∀ p ∈ ps, p.Advances)
    (h : (sequence ps).Passes) : ∀ p ∈ ps, p.Passes := by
  obtain ⟨s, vs, t, hrun, ht⟩ := h
  exact of_chain hps ⟨s, vs, t, sequence_eq_success.1 hrun, ht⟩

theorem of_alternatives {ps : List (Parser α)} (h : (alternatives ps).Passes) :
    ∃ p ∈ ps, p.Passes := by
  obtain ⟨s, v, t, hrun, ht⟩ := h
  obtain ⟨p, hp, hv⟩ := alternatives_eq_success hrun
  exact ⟨p, hp, s, v, t, hv, ht⟩

/-- A repetition that has to have values passes only by its first round. -/
theorem of_times (hp : p.Advances) {least most : Nat} (hleast : least ≠ 0)
    (h : (p.times least most).Passes) : p.Passes := by
  obtain ⟨s, vs, u, hrun, hu⟩ := h
  obtain ⟨v, t, rounds, hv, hrest⟩ := times_eq_success hrun hleast
  exact ⟨s, v, t, hv, ((hp hv).squeeze (hp.collect hrest) hu).1⟩

theorem of_delimited (hp : p.Advances) {d : Option (Parser β)} (hd : ∀ q ∈ d, q.Advances)
    (h : (p.delimited true d).Passes) : p.Passes := by
  obtain ⟨s, vs, u, hrun, hu⟩ := h
  obtain ⟨v, t, hv, hrest⟩ := delimited_eq_success hrun
  exact ⟨s, v, t, hv, ((hp hv).squeeze ((hp.round hd).advancing hrest) hu).1⟩

end Passes

end Parser

/-- **A lexer that succeeds has read something.** -/
theorem Lexeme.not_passes (l : Lexeme) : ¬ l.parser.Passes := by
  cases l with
  | whitespace => exact fun h => Parser.not_passes_matching (fun _ => rfl) _ h.of_map
  | digits => exact fun h => Parser.not_passes_matching (fun _ => rfl) _ h.of_map
  | word => exact fun h => Parser.not_passes_matching (fun _ => rfl) _ h.of_map
  | integer => exact fun h => Parser.not_passes_matching (fun _ => rfl) _ h.of_map.of_converted
  | decimal => exact fun h => Parser.not_passes_matching (fun _ => rfl) _ h.of_map.of_converted

/-! ## Soundness of the analysis -/

namespace Grammar

variable {rules : Rules} {depth : Nat}

theorem mayPass_of_parser_passes (hrules : rules.Steps Parser.Advances)
    (hbody : ∀ name, (rules.unfold depth name).Passes → (rules.body name).MayPass rules)
    {g : Grammar} (hg : g.Steps Parser.Advances) (h : (g.parser (rules.unfold depth)).Passes) :
    g.MayPass rules := by
  induction g using part_induction with
  | step g ih =>
    have hadv : ∀ k, PartOf k g → (k.parser (rules.unfold depth)).Advances :=
      fun k hk => parser_advances hrules (hg.part hk) depth
    replace ih : ∀ k, PartOf k g → (k.parser (rules.unfold depth)).Passes → k.MayPass rules :=
      fun k hk => ih k hk (hg.part hk)
    cases g with
    | literal text =>
      obtain rfl := Parser.eq_of_literal_passes h.of_map
      exact .literal
    | pattern p label =>
      obtain ⟨text, hend⟩ := Parser.matchEnd?_of_matching_passes h.of_map
      exact .pattern label hend
    | eof => exact .eof
    | lexeme l => exact (l.not_passes h).elim
    | succeed v => exact .succeed v
    | fail label =>
      obtain ⟨s, v, t, ⟨⟩, -⟩ := h
    | rule name => exact .rule (hbody name h)
    | map of f => exact .map f (ih of .map h.of_map)
    | bind of next =>
      obtain ⟨hof, v, hnext⟩ := h.of_bind (hadv of .bind) fun v => hadv _ (.bindNext v)
      exact .bind v (ih of .bind hof) (ih _ (.bindNext v) hnext)
    | product first second =>
      obtain ⟨hfirst, hsecond⟩ := h.of_map.of_product (hadv _ .productFirst) (hadv _ .productSecond)
      exact .product (ih first .productFirst hfirst) (ih second .productSecond hsecond)
    | skip of trailing =>
      obtain ⟨hof, htrailing⟩ := h.of_map.of_product (hadv _ .skip) (hadv _ .skipTrailing)
      exact .skip (ih of .skip hof) (ih trailing .skipTrailing htrailing)
    | andThen of next =>
      obtain ⟨hof, hnext⟩ := h.of_map.of_product (hadv _ .andThen) (hadv _ .andThenNext)
      exact .andThen (ih of .andThen hof) (ih next .andThenNext hnext)
    | sequence items =>
      rw [parser_sequence] at h
      have hitems := h.of_map.of_sequence (by simpa using fun k hk => hadv k (.sequence hk))
      exact .sequence fun k hk => ih k (.sequence hk) (hitems _ (List.mem_map_of_mem hk))
    | alternatives items =>
      rw [parser_alternatives] at h
      obtain ⟨p, hp, hpass⟩ := h.of_alternatives
      obtain ⟨k, hk, rfl⟩ := List.mem_map.1 hp
      exact .alternatives hk (ih k (.alternatives hk) hpass)
    | desc of label => exact .desc label (ih of .desc h.of_desc)
    | surroundedBy of before after =>
      obtain ⟨hbefore, hof, hafter⟩ := h.of_between (Parser.advances_literal before)
        (hadv of .surroundedBy) (Parser.advances_literal after)
      obtain rfl := Parser.eq_of_literal_passes hbefore
      obtain rfl := Parser.eq_of_literal_passes hafter
      exact .surroundedBy (ih of .surroundedBy hof)
    | times of least most =>
      by_cases hleast : least = 0
      · subst hleast
        exact .timesNone of most
      · exact .times least most (ih of .times (h.of_map.of_times (hadv of .times) hleast))
    | optional of => exact .optional of
    | delimited of atLeastOne delimiter =>
      cases atLeastOne with
      | false => exact .delimitedNone of delimiter
      | true =>
        refine .delimited true delimiter (ih of .delimited ?_)
        cases delimiter with
        | none => exact h.of_map.of_delimited (hadv of .delimited) nofun
        | some d =>
          exact h.of_map.of_delimited (hadv of .delimited) (by rintro _ ⟨⟩; exact hadv d .delimiter)
    | custom p => exact .custom h

theorem mayPass_of_unfold_passes (hrules : rules.Steps Parser.Advances) (depth : Nat)
    (name : String) (h : (rules.unfold depth name).Passes) : (rules.body name).MayPass rules := by
  induction depth generalizing name with
  | zero => obtain ⟨s, v, t, ⟨⟩, -⟩ := h
  | succ depth ih => exact mayPass_of_parser_passes hrules ih (hrules name) h

/-- **A grammar that succeeds without reading anything may pass.** -/
theorem mayPass_of_passes (hrules : rules.Steps Parser.Advances) {g : Grammar}
    (hg : g.Steps Parser.Advances) (h : (g.parser (rules.unfold depth)).Passes) :
    g.MayPass rules :=
  mayPass_of_parser_passes hrules (mayPass_of_unfold_passes hrules depth) hg h

end Grammar

end Descent
