import Descent.Proofs.Calculation
import Descent.Proofs.Munch
import Descent.Proofs.Whole

/-!
# The grammar of arithmetic is exact

The grammar never goes back on a choice that has worked out: it takes as many digits, as much white
space and as many links of a chain as it can get. Nevertheless it accepts all calculations and
nothing else, and yields their values. What makes this true is that no character that may follow a
part could also carry it on (`Symbol.Extends`): a minus sign behind a numeral is an operator, since
no numeral can follow another one, and a minus sign behind an operator belongs to a numeral.

Both directions go along the grammar, one lemma for each of its definitions, with a hypothesis on
the rule inside parentheses that an induction on the depth discharges. Parentheses are the only way
to a rule, so a depth of the length of the text is enough.

Main statement: `Grammar.Arithmetic.program_exact`.
-/

namespace Descent.Grammar.Arithmetic

open Calculation
open Number (InRange)

variable {R : String → Parser Value} {s t : State}

/-! ## Blanks and operators -/

theorem blank_parser_eq : blank.parser R =
    (Parser.whitespace.map Value.text).optional.map .ofOption := rfl

theorem reads_of_blank {w : Value} (h : blank.parser R s = .success w t) :
    ∃ front, s.Reads front t ∧ Blank front := by
  rw [blank_parser_eq] at h
  obtain ⟨o, h, -⟩ := Parser.map_eq_success.1 h
  rcases Parser.optional_eq_success_iff.1 h with ⟨v, h, -⟩ | ⟨-, -, rfl⟩
  · obtain ⟨text, h, -⟩ := Parser.map_eq_success.1 h
    obtain ⟨hreads, -, hlongest⟩ := Parser.whitespace_eq_success_iff.1 h
    exact ⟨text.toList, hreads, hlongest.members⟩
  · exact ⟨[], .refl t, nofun⟩

/-- White space is read completely, if none follows. -/
theorem blank_of_reads {front : List Char} (h : s.Reads front t) (hblank : Blank front)
    (hstop : ∀ c ∈ t.remaining.head?, ¬ IsSpace c) : ∃ w, blank.parser R s = .success w t := by
  rw [blank_parser_eq]
  by_cases hfront : front = []
  · subst hfront
    obtain rfl := h.eq_of_nil
    obtain ⟨e, hfail⟩ := Parser.whitespace_of_stop hstop
    have hmap := (Parser.map_eq_failure (f := Value.text)).2 hfail
    exact ⟨_, Parser.map_eq_success.2
      ⟨none, Parser.optional_eq_success_iff.2 (.inr ⟨⟨e, t, hmap⟩, rfl, rfl⟩), rfl⟩⟩
  · have htext : (String.ofList front).toList = front := String.toList_ofList
    have hread : Parser.whitespace s = .success (.ofList front) t := by
      rw [Parser.whitespace_eq_success_iff, htext]
      exact ⟨h, hfront, hblank, hstop⟩
    have hmap := Parser.map_eq_success.2 ⟨_, hread, (rfl : Value.text (.ofList front) = _)⟩
    exact ⟨_, Parser.map_eq_success.2
      ⟨some _, Parser.optional_eq_success_iff.2 (.inl ⟨_, hmap, rfl⟩), rfl⟩⟩

theorem token_parser_eq (text : String) : (token text).parser R =
    ((Parser.literal text).map Value.text).skip (blank.parser R) := rfl

theorem reads_of_token {o : Operator} {w : Value} (h : (token o.text).parser R s = .success w t) :
    ∃ front, s.Reads (o.symbol :: front) t ∧ Blank front ∧ w = .text o.text := by
  rw [token_parser_eq] at h
  obtain ⟨u, _, hliteral, hblank⟩ := Parser.skip_eq_success_iff.1 h
  obtain ⟨v, hread, rfl⟩ := Parser.map_eq_success.1 hliteral
  obtain ⟨hreads, rfl⟩ := Parser.literal_eq_success_iff.1 hread
  obtain ⟨front, hfront, hspace⟩ := reads_of_blank hblank
  rw [o.toList_text] at hreads
  exact ⟨front, hreads.trans hfront, hspace, rfl⟩

theorem token_of_reads {o : Operator} {front : List Char} (h : s.Reads (o.symbol :: front) t)
    (hblank : Blank front) (hstop : ∀ c ∈ t.remaining.head?, ¬ IsSpace c) :
    (token o.text).parser R s = .success (.text o.text) t := by
  obtain ⟨u, hsymbol, hfront⟩ := State.Reads.split (a := [o.symbol]) h
  obtain ⟨w, hw⟩ := blank_of_reads (R := R) hfront hblank hstop
  rw [token_parser_eq, Parser.skip_eq_success_iff]
  refine ⟨u, w, Parser.map_eq_success.2 ⟨o.text, ?_, rfl⟩, hw⟩
  rw [Parser.literal_eq_success_iff, o.toList_text]
  exact ⟨hsymbol, rfl⟩

theorem token_of_head {o : Operator} (h : ∀ c ∈ s.remaining.head?, c ≠ o.symbol) :
    ∃ e, (token o.text).parser R s = .failure e s := by
  have hprefix : ¬ o.text.toList <+: s.remaining := by
    rw [o.toList_text]
    rintro ⟨rest, hrest⟩
    exact h o.symbol (by rw [← hrest]; rfl) rfl
  obtain ⟨e, hfail⟩ := Parser.literal_of_not_prefix hprefix
  exact ⟨e, Parser.skip_of_failure (Parser.map_eq_failure.2 hfail)⟩

/-! ## Nothing but calculations -/

/-- The parser succeeds only by reading what the symbol derives, with its value. -/
def Sound (x : Symbol) (p : Parser Value) : Prop :=
  ∀ ⦃s t w⦄, p s = .success w t → ∃ text v, s.Reads text t ∧ Derives x text v ∧ w = result v

section Sound

variable {g : Grammar} {x : Symbol} {a b : Operator}

theorem link_parser_eq (g : Grammar) (a b : Operator) : (link g a.text b.text).parser R =
    ((Parser.alternatives [(token a.text).parser R, (token b.text).parser R]).product
      (g.parser R)).map Value.pair := rfl

theorem reads_of_link (hg : Sound x (g.parser R)) {w : Value}
    (h : (link g a.text b.text).parser R s = .success w t) :
    ∃ l : Link, s.Reads l.text t ∧ l.Joins x a b ∧ w = l.entry := by
  rw [link_parser_eq] at h
  obtain ⟨⟨w₁, w₂⟩, hpair, rfl⟩ := Parser.map_eq_success.1 h
  obtain ⟨u, hoperator, hoperand⟩ := Parser.product_eq_success.1 hpair
  obtain ⟨operand, v, hreads, hderives, hw₂⟩ := hg hoperand
  have htoken : ∃ o, (o = a ∨ o = b) ∧ (token o.text).parser R s = .success w₁ u := by
    rcases Parser.alternatives_pair_eq_success_iff.1 hoperator with h | ⟨-, h⟩
    · exact ⟨a, .inl rfl, h⟩
    · exact ⟨b, .inr rfl, h⟩
  obtain ⟨o, ho, htoken⟩ := htoken
  obtain ⟨front, hfront, hblank, hw₁⟩ := reads_of_token htoken
  refine ⟨⟨o, front, operand, v⟩, hfront.trans hreads, ⟨ho, hblank, hderives⟩, ?_⟩
  simp only at hw₁ hw₂
  rw [Value.pair, hw₁, hw₂, Link.entry]

theorem reads_of_rounds (hg : Sound x (g.parser R)) {ws : List Value}
    (h : ((link g a.text b.text).parser R).Rounds s ws t) :
    ∃ links : List Link, s.Reads (links.flatMap Link.text) t ∧
      (∀ l ∈ links, l.Joins x a b) ∧ ws = links.map Link.entry := by
  induction h with
  | fails _ => exact ⟨[], .refl _, nofun, rfl⟩
  | stays _ _ => exact ⟨[], .refl _, nofun, rfl⟩
  | round hround _ _ ih =>
    obtain ⟨l, hl, hjoins, rfl⟩ := reads_of_link hg hround
    obtain ⟨links, hlinks, hall, rfl⟩ := ih
    exact ⟨l :: links, hl.trans hlinks, List.forall_mem_cons.2 ⟨hjoins, hall⟩, rfl⟩

/-- A link is never empty, so that the loop ends for want of another one. -/
theorem consumed_lt_of_link (hg : Sound x (g.parser R)) {w : Value}
    (h : (link g a.text b.text).parser R s = .success w t) : s.consumed < t.consumed := by
  obtain ⟨l, hreads, -, -⟩ := reads_of_link hg h
  exact hreads.consumed_lt nofun

theorem chain_parser_eq (g : Grammar) (a b : Operator) : (chain g a.text b.text).parser R =
    (((g.parser R).product ((((link g a.text b.text).parser R).delimited false
      (none : Option (Parser Value))).map .list)).map Value.pair).map Value.foldOperators := rfl

theorem reads_of_chain (hg : Sound x (g.parser R)) {w : Value}
    (h : (chain g a.text b.text).parser R s = .success w t) :
    ∃ text v, ∃ links : List Link, s.Reads (text ++ links.flatMap Link.text) t ∧
      Derives x text v ∧ (∀ l ∈ links, l.Joins x a b) ∧
      w = result (links.foldl Link.apply v) := by
  rw [chain_parser_eq] at h
  obtain ⟨_, hlist, rfl⟩ := Parser.map_eq_success.1 h
  obtain ⟨⟨w₁, w₂⟩, hpair, rfl⟩ := Parser.map_eq_success.1 hlist
  obtain ⟨u, hfirst, hrest⟩ := Parser.product_eq_success.1 hpair
  obtain ⟨text, v, hreads, hderives, hw₁⟩ := hg hfirst
  obtain ⟨ws, hloop, hw₂⟩ := Parser.map_eq_success.1 hrest
  rw [Parser.delimited_eq_success_iff fun _ _ => consumed_lt_of_link hg] at hloop
  obtain ⟨links, hlinks, hall, rfl⟩ := reads_of_rounds hg hloop
  refine ⟨text, v, links, hreads.trans hlinks, hderives, hall, ?_⟩
  simp only at hw₁ hw₂
  rw [Value.pair, hw₁, ← hw₂, foldOperators_chain hderives.inRange]
  exact fun l hl => (hall l hl).operand.inRange

end Sound

theorem numeral_parser_eq : numeral.parser R =
    (Parser.integer.map Value.int).skip (blank.parser R) := rfl

theorem parenthesized_parser_eq : parenthesized.parser R =
    (((R "expr").between (Parser.literal "(") (Parser.literal ")")).skip (blank.parser R)).desc
      "parenthesized expression" := rfl

theorem factor_parser_eq : factor.parser R =
    Parser.alternatives [numeral.parser R, parenthesized.parser R] := rfl

theorem sound_numeral : Sound .factor (numeral.parser R) := by
  intro s t w h
  rw [numeral_parser_eq] at h
  obtain ⟨u, _, hinteger, hblank⟩ := Parser.skip_eq_success_iff.1 h
  obtain ⟨n, hread, rfl⟩ := Parser.map_eq_success.1 hinteger
  obtain ⟨sign, digits, hreads, -, -, -, hn⟩ := Parser.integer_eq_success_iff.1 hread
  obtain ⟨hnumeral, hrange⟩ := readInt?_eq_some_iff.1 hn
  obtain ⟨front, hfront, hspace⟩ := reads_of_blank hblank
  exact ⟨sign ++ digits ++ front, some n, hreads.trans hfront, .int hnumeral hrange hspace, rfl⟩

theorem sound_parenthesized (hR : Sound .expr (R "expr")) :
    Sound .factor (parenthesized.parser R) := by
  intro s t w h
  rw [parenthesized_parser_eq, Parser.desc_eq_success] at h
  obtain ⟨u, _, hbetween, hblank⟩ := Parser.skip_eq_success_iff.1 h
  obtain ⟨_, _, s₁, s₂, hopen, hinner, hclose⟩ := Parser.between_eq_success.1 hbetween
  obtain ⟨text, v, hreads, hderives, rfl⟩ := hR hinner
  obtain ⟨front, hfront, hspace⟩ := reads_of_blank hblank
  have hopen' : s.Reads ['('] s₁ := (Parser.literal_eq_success_iff.1 hopen).1
  have hclose' : s₂.Reads [')'] u := (Parser.literal_eq_success_iff.1 hclose).1
  have hall := (hopen'.trans hreads).trans (hclose'.trans hfront)
  exact ⟨_, v, hall, .parens hderives hspace, rfl⟩

theorem sound_factor (hR : Sound .expr (R "expr")) : Sound .factor (factor.parser R) := by
  intro s t w h
  rw [factor_parser_eq, Parser.alternatives_pair_eq_success_iff] at h
  rcases h with h | ⟨-, h⟩
  · exact sound_numeral h
  · exact sound_parenthesized hR h

theorem sound_term (hR : Sound .expr (R "expr")) : Sound .term (term.parser R) := by
  intro s t w h
  obtain ⟨text, v, links, hreads, hderives, hall, hw⟩ :=
    reads_of_chain (a := .mul) (b := .div) (sound_factor hR) h
  exact ⟨_, _, hreads, .term hderives
    (fun l hl => Operator.not_additive_iff.2 (hall l hl).operator)
    (fun l hl => (hall l hl).blank) (fun l hl => (hall l hl).operand), hw⟩

theorem sound_expr (hR : Sound .expr (R "expr")) : Sound .expr (expr.parser R) := by
  intro s t w h
  obtain ⟨text, v, links, hreads, hderives, hall, hw⟩ :=
    reads_of_chain (a := .add) (b := .sub) (sound_term hR) h
  exact ⟨_, _, hreads, .expr hderives
    (fun l hl => Operator.additive_iff.2 (hall l hl).operator)
    (fun l hl => (hall l hl).blank) (fun l hl => (hall l hl).operand), hw⟩

/-- **The rule inside parentheses succeeds only for calculations**, whatever its depth. -/
theorem sound_rule (depth : Nat) : Sound .expr (rules.unfold depth "expr") := by
  induction depth with
  | zero => nofun
  | succ depth ih => exact sound_expr ih

/-! ## All calculations -/

/-- The parser reads every text of bounded length that the symbol derives, if what follows does not
carry it on. -/
def Complete (x : Symbol) (n : Nat) (p : Parser Value) : Prop :=
  ∀ ⦃text v⦄, Derives x text v → text.length ≤ n →
    ∀ ⦃s t⦄, s.Reads text t → x.Stops t.remaining → p s = .success (result v) t

section Complete

variable {g : Grammar} {x y : Symbol} {a b : Operator} {n : Nat}

theorem operator_of_reads (hab : a ≠ b) {o : Operator} (ho : o = a ∨ o = b) {front : List Char}
    (h : s.Reads (o.symbol :: front) t) (hblank : Blank front)
    (hstop : ∀ c ∈ t.remaining.head?, ¬ IsSpace c) :
    Parser.alternatives [(token a.text).parser R, (token b.text).parser R] s =
      .success (.text o.text) t := by
  rw [Parser.alternatives_pair_eq_success_iff]
  have htoken := token_of_reads (R := R) h hblank hstop
  rcases ho with rfl | rfl
  · exact .inl htoken
  · refine .inr ⟨?_, htoken⟩
    have hhead : ∀ c ∈ s.remaining.head?, c ≠ a.symbol := by
      rw [h.1]
      rintro _ ⟨⟩ heq
      exact hab (Operator.symbol_injective heq).symm
    obtain ⟨e, hfail⟩ := token_of_head (R := R) hhead
    exact ⟨e, s, hfail⟩

theorem link_of_reads (hab : a ≠ b) (hg : Complete y n (g.parser R)) {l : Link}
    (hl : l.Joins y a b) (hlength : l.operand.length ≤ n) (h : s.Reads l.text t)
    (hstop : y.Stops t.remaining) :
    (link g a.text b.text).parser R s = .success l.entry t := by
  obtain ⟨u, hfront, hoperand⟩ :=
    State.Reads.split (a := l.operator.symbol :: l.blank) (b := l.operand) h
  have hspace : ∀ c ∈ u.remaining.head?, ¬ IsSpace c := by
    rw [hoperand.1]
    exact hl.operand.not_isSpace_head
  have hoperator := operator_of_reads (R := R) hab hl.operator hfront hl.blank hspace
  have hvalue := hg hl.operand hlength hoperand hstop
  rw [link_parser_eq]
  exact Parser.map_eq_success.2 ⟨(_, _), Parser.product_eq_success.2 ⟨u, hoperator, hvalue⟩, rfl⟩

/-- There is no further link where a chain stops. -/
theorem link_of_stops (hxy : x.Level y a b) (h : x.Stops s.remaining) :
    ∃ e, (link g a.text b.text).parser R s = .failure e s := by
  obtain ⟨e, hleft⟩ := token_of_head (R := R) (h.ne_symbol ((hxy.chains_iff a).2 (.inr (.inl rfl))))
  obtain ⟨f, hright⟩ :=
    token_of_head (R := R) (h.ne_symbol ((hxy.chains_iff b).2 (.inr (.inr rfl))))
  obtain ⟨e, u, hfail⟩ := Parser.alternatives_pair_of_failure hleft hright
  exact ⟨e, Parser.map_eq_failure.2 (Parser.product_of_failure hfail)⟩

theorem rounds_of_reads (hxy : x.Level y a b) (hg : Complete y n (g.parser R)) {links : List Link}
    (hlinks : ∀ l ∈ links, l.Joins y a b) (hlength : ∀ l ∈ links, l.operand.length ≤ n)
    (h : s.Reads (links.flatMap Link.text) t) (hstop : x.Stops t.remaining) :
    ((link g a.text b.text).parser R).Rounds s (links.map Link.entry) t := by
  induction links generalizing s with
  | nil =>
    obtain rfl := State.Reads.eq_of_nil h
    obtain ⟨e, hfail⟩ := link_of_stops (g := g) (R := R) hxy hstop
    exact .fails hfail
  | cons l links ih =>
    obtain ⟨u, hl, hrest⟩ := State.Reads.split (a := l.text) h
    obtain ⟨hjoins, hlinks⟩ := List.forall_mem_cons.1 hlinks
    obtain ⟨hoperand, hlength⟩ := List.forall_mem_cons.1 hlength
    have hstops : y.Stops u.remaining := by
      rw [hrest.1]
      exact Symbol.stops_links hxy hlinks hstop
    exact .round (link_of_reads hxy.ne hg hjoins hoperand hl hstops) (hl.consumed_lt nofun)
      (ih hlinks hlength hrest)

theorem chain_of_reads (hxy : x.Level y a b) (hsound : Sound y (g.parser R))
    (hg : Complete y n (g.parser R)) {text : List Char} {v : Option Int} {links : List Link}
    (hderives : Derives y text v) (hlinks : ∀ l ∈ links, l.Joins y a b)
    (hlength : (text ++ links.flatMap Link.text).length ≤ n)
    (h : s.Reads (text ++ links.flatMap Link.text) t) (hstop : x.Stops t.remaining) :
    (chain g a.text b.text).parser R s = .success (result (links.foldl Link.apply v)) t := by
  obtain ⟨u, hfirst, hrest⟩ := h.split
  rw [List.length_append] at hlength
  have htext : text.length ≤ n := by omega
  have hoperands : ∀ l ∈ links, l.operand.length ≤ n := by
    intro l hl
    have hle := length_operand_le hl
    omega
  have hstops : y.Stops u.remaining := by
    rw [hrest.1]
    exact Symbol.stops_links hxy hlinks hstop
  have hvalue := hg hderives htext hfirst hstops
  have hloop := rounds_of_reads hxy hg hlinks hoperands hrest hstop
  rw [← Parser.delimited_eq_success_iff (β := Value) fun _ _ => consumed_lt_of_link hsound] at hloop
  have hlist := Parser.map_eq_success.2 ⟨_, hloop, (rfl : Value.list _ = _)⟩
  rw [chain_parser_eq,
    ← foldOperators_chain hderives.inRange fun l hl => (hlinks l hl).operand.inRange]
  exact Parser.map_eq_success.2 ⟨_, Parser.map_eq_success.2
    ⟨(_, _), Parser.product_eq_success.2 ⟨u, hvalue, hlist⟩, rfl⟩, rfl⟩

end Complete

variable {n : Nat} {v : Option Int} {text : List Char}

theorem numeral_of_reads {blank : List Char} {k : Int} (hnumeral : Numeral text k)
    (hrange : InRange k) (hblank : Blank blank) (h : s.Reads (text ++ blank) t)
    (hstop : Symbol.factor.Stops t.remaining) :
    numeral.parser R s = .success (result (some k)) t := by
  obtain ⟨u, hread, hrest⟩ := h.split
  obtain ⟨w, hw⟩ := blank_of_reads (R := R) hrest hblank hstop.not_isSpace
  have hdigit : ∀ c ∈ u.remaining.head?, ¬ c.isDigit := by
    rw [hrest.1]
    intro c hc
    cases blank with
    | nil => exact hstop.not_isDigit c hc
    | cons d blank =>
      obtain rfl : d = c := Option.some.inj hc
      exact fun hdigit => not_isSpace_of_isDigit hdigit (hblank d List.mem_cons_self)
  have hmembers {digits : List Char} (hall : ∀ c ∈ digits, c.isDigit) :
      Pattern.Longest Pattern.asciiDigit digits u.remaining :=
    Pattern.longest_digits_iff.2 ⟨hall, hdigit⟩
  have hn : Number.readInt? text = some k := readInt?_eq_some_iff.2 ⟨hnumeral, hrange⟩
  have hinteger : Parser.integer s = .success k u := by
    rw [Parser.integer_eq_success_iff]
    cases hnumeral with
    | unsigned hne hall => exact ⟨[], text, hread, .inl rfl, hne, hmembers hall, hn⟩
    | negated hne hall => exact ⟨['-'], _, hread, .inr rfl, hne, hmembers hall, hn⟩
  rw [numeral_parser_eq, Parser.skip_eq_success_iff]
  exact ⟨u, w, Parser.map_eq_success.2 ⟨k, hinteger, rfl⟩, hw⟩

/-- There is no numeral at a parenthesis. -/
theorem numeral_of_parenthesis {rest : List Char} (h : s.remaining = '(' :: rest) :
    ∃ e, numeral.parser R s = .failure e s := by
  obtain ⟨e, hfail⟩ := Parser.integer_of_head h (by decide) (by decide)
  exact ⟨e, Parser.skip_of_failure (Parser.map_eq_failure.2 hfail)⟩

theorem parenthesized_of_reads {blank : List Char} (hR : Complete .expr n (R "expr"))
    (hderives : Derives .expr text v) (hlength : text.length ≤ n) (hblank : Blank blank)
    (h : s.Reads ('(' :: (text ++ ')' :: blank)) t) (hstop : Symbol.factor.Stops t.remaining) :
    parenthesized.parser R s = .success (result v) t := by
  obtain ⟨s₁, hopen, hrest⟩ := State.Reads.split (a := ['(']) h
  obtain ⟨s₂, hinner, hrest⟩ := hrest.split
  obtain ⟨u, hclose, hrest⟩ := State.Reads.split (a := [')']) hrest
  obtain ⟨w, hw⟩ := blank_of_reads (R := R) hrest hblank hstop.not_isSpace
  have hstops : Symbol.expr.Stops s₂.remaining := by
    rw [hclose.1]
    exact Symbol.stops_parenthesis _
  have hvalue := hR hderives hlength hinner hstops
  have hbefore : Parser.literal "(" s = .success "(" s₁ :=
    Parser.literal_eq_success_iff.2 ⟨hopen, rfl⟩
  have hafter : Parser.literal ")" s₂ = .success ")" u :=
    Parser.literal_eq_success_iff.2 ⟨hclose, rfl⟩
  rw [parenthesized_parser_eq, Parser.desc_eq_success, Parser.skip_eq_success_iff]
  exact ⟨u, w, Parser.between_eq_success.2 ⟨_, _, s₁, s₂, hbefore, hvalue, hafter⟩, hw⟩

/-- Parentheses take two characters, and only they lead to the rule. -/
theorem complete_factor (hR : Complete .expr n (R "expr")) :
    Complete .factor (n + 1) (factor.parser R) := by
  intro text v h hlength s t hreads hstop
  rw [factor_parser_eq, Parser.alternatives_pair_eq_success_iff]
  cases h with
  | int hnumeral hrange hblank =>
    exact .inl (numeral_of_reads hnumeral hrange hblank hreads hstop)
  | @parens inner _ _ hderives hblank =>
    have hinner : inner.length ≤ n := by
      simp only [List.length_cons, List.length_append] at hlength
      omega
    obtain ⟨e, hfail⟩ := numeral_of_parenthesis (R := R) hreads.1
    exact .inr ⟨⟨e, s, hfail⟩, parenthesized_of_reads hR hderives hinner hblank hreads hstop⟩

theorem complete_term (hsound : Sound .expr (R "expr")) (hR : Complete .expr n (R "expr")) :
    Complete .term (n + 1) (term.parser R) := by
  intro text v h hlength s t hreads hstop
  cases h with
  | @term text v links hderives hoperators hblanks hoperands =>
    have hlinks : ∀ l ∈ links, l.Joins .factor .mul .div := fun l hl =>
      ⟨Operator.not_additive_iff.1 (hoperators l hl), hblanks l hl, hoperands l hl⟩
    exact chain_of_reads Symbol.level_term (sound_factor hsound) (complete_factor hR) hderives
      hlinks hlength hreads hstop

theorem complete_expr (hsound : Sound .expr (R "expr")) (hR : Complete .expr n (R "expr")) :
    Complete .expr (n + 1) (expr.parser R) := by
  intro text v h hlength s t hreads hstop
  cases h with
  | @expr text v links hderives hoperators hblanks hoperands =>
    have hlinks : ∀ l ∈ links, l.Joins .term .add .sub := fun l hl =>
      ⟨Operator.additive_iff.1 (hoperators l hl), hblanks l hl, hoperands l hl⟩
    exact chain_of_reads Symbol.level_expr (sound_term hsound) (complete_term hsound hR) hderives
      hlinks hlength hreads hstop

/-- **The rule inside parentheses reads every calculation that is no longer than its depth.** -/
theorem complete_rule (depth : Nat) : Complete .expr depth (rules.unfold depth "expr") := by
  induction depth with
  | zero =>
    intro text v h hlength
    obtain ⟨c, rest, rfl, -⟩ := h.head
    cases hlength
  | succ depth ih => exact complete_expr (sound_rule depth) ih

/-! ## Whole calculations -/

theorem program_parser_eq : program.parser R =
    ((blank.parser R).andThen (expr.parser R)).skip (Parser.eof.map Value.text) := rfl

/-- A run starts with enough depth for the text. -/
theorem length_le_depth (s : State) : s.remaining.length ≤ rules.depth s := by
  have hsize : 1 ≤ UInt64.size * (rules.entries.length + 1) := by decide
  calc s.remaining.length ≤ (s.remaining.length + 1) * 1 := by omega
    _ ≤ (s.remaining.length + 1) * (UInt64.size * (rules.entries.length + 1)) :=
      Nat.mul_le_mul_left _ hsize
    _ = rules.depth s := by rw [Rules.depth, Nat.mul_assoc]

/-- **The grammar is exact.** A whole text is accepted exactly if it is a calculation, and what the
grammar yields is the value of the calculation, or null if that has none. Chains are worked out from
left to right, and there is no bound on how long or how deeply nested a calculation is, but that
the offsets of the text fit the counter. -/
theorem program_exact {w : Value} (hfits : utf8Length text ≤ maxOffset) :
    (program.run rules).parse text = .ok w ↔ ∃ v, Program text v ∧ w = result v := by
  rw [Parser.parse_eq_ok_iff]
  have hrun : program.run rules (.start text) =
      program.parser (rules.unfold (rules.depth (.start text))) (.start text) := rfl
  rw [hrun, program_parser_eq]
  constructor
  · rintro ⟨t, h, -⟩
    obtain ⟨u, _, hmatch, hend⟩ := Parser.skip_eq_success_iff.1 h
    obtain ⟨_, hend, -⟩ := Parser.map_eq_success.1 hend
    obtain ⟨hnil, -, -⟩ := Parser.eof_eq_success_iff.1 hend
    obtain ⟨s, _, hblank, hexpr⟩ := Parser.andThen_eq_success_iff.1 hmatch
    obtain ⟨front, hfront, hspace⟩ := reads_of_blank hblank
    obtain ⟨rest, v, hrest, hderives, rfl⟩ := sound_expr (sound_rule _) hexpr
    have htext : text = front ++ rest := by
      have hall := (hfront.trans hrest).1
      rwa [hnil, List.append_nil] at hall
    exact ⟨v, ⟨front, rest, htext, hspace, hderives⟩, rfl⟩
  · rintro ⟨v, ⟨front, rest, rfl, hspace, hderives⟩, rfl⟩
    have hstart : (State.start (front ++ rest)).Fits := by
      simpa [State.Fits, State.start] using hfits
    obtain ⟨t, hreads, hnil, -⟩ := hstart.exists_reads (List.append_nil _).symm
    obtain ⟨s, hfront, hrest⟩ := hreads.split
    have hhead : ∀ c ∈ s.remaining.head?, ¬ IsSpace c := by
      rw [hrest.1]
      exact hderives.not_isSpace_head
    have hstop : Symbol.expr.Stops t.remaining := by
      rw [hnil]
      intro c hc
      cases hc
    have hlength : rest.length ≤ rules.depth (.start (front ++ rest)) + 1 := by
      have hle := length_le_depth (.start (front ++ rest))
      simp only [State.start, List.length_append] at hle ⊢
      omega
    obtain ⟨_, hblank⟩ := blank_of_reads hfront hspace hhead
    have hexpr := complete_expr (sound_rule _) (complete_rule _) hderives hlength hrest hstop
    have hend : Parser.eof.map Value.text t = .success (.text "") t :=
      Parser.map_eq_success.2 ⟨"", Parser.eof_eq_success_iff.2 ⟨hnil, rfl, rfl⟩, rfl⟩
    exact ⟨t, Parser.skip_eq_success_iff.2
      ⟨t, _, Parser.andThen_eq_success_iff.2 ⟨s, _, hblank, hexpr⟩, hend⟩, hnil⟩

/-- Of three minus signs the first two are operators, which are applied from left to right, and the
third one belongs to a numeral. -/
theorem program_exact_minus :
    let text := ['8', '-', '2', '-', ' ', '(', '-', '3', ')']
    utf8Length text ≤ maxOffset ∧ Program text (some 9) ∧
      (program.run rules).parse text = .ok (.int 9) := by
  intro text
  have hterm {text : List Char} {v : Option Int} (h : Derives .factor text v) :
      Derives .term text v := by
    simpa using @Derives.term text v [] h nofun nofun nofun
  have hexpr {text : List Char} {v : Option Int} (h : Derives .term text v) :
      Derives .expr text v := by
    simpa using @Derives.expr text v [] h nofun nofun nofun
  have height : Derives .factor ['8'] (some 8) :=
    @Derives.int ['8'] [] 8 (.unsigned nofun (List.forall_mem_singleton.2 rfl)) (by decide) nofun
  have htwo : Derives .factor ['2'] (some 2) :=
    @Derives.int ['2'] [] 2 (.unsigned nofun (List.forall_mem_singleton.2 rfl)) (by decide) nofun
  have hthree : Derives .factor ['-', '3'] (some (-3)) :=
    @Derives.int ['-', '3'] [] (-3) (.negated nofun (List.forall_mem_singleton.2 rfl))
      (by decide) nofun
  have hparens : Derives .factor ['(', '-', '3', ')'] (some (-3)) :=
    @Derives.parens ['-', '3'] [] _ (hexpr (hterm hthree)) nofun
  have hspace : Blank [' '] := by
    intro c hc
    obtain rfl := List.mem_singleton.1 hc
    unfold IsSpace
    decide
  have hprogram : Program text (some 9) := by
    refine ⟨[], text, rfl, nofun, ?_⟩
    have hchain := @Derives.expr ['8'] (some 8)
      [⟨.sub, [], ['2'], some 2⟩, ⟨.sub, [' '], ['(', '-', '3', ')'], some (-3)⟩] (hterm height)
      (by simp [Operator.additive]) (by simpa using ⟨nofun, hspace⟩)
      (by simpa using ⟨hterm htwo, hterm hparens⟩)
    exact hchain
  have hfits : utf8Length text ≤ maxOffset := by decide
  exact ⟨hfits, hprogram, (program_exact hfits).2 ⟨_, hprogram, rfl⟩⟩

end Descent.Grammar.Arithmetic
