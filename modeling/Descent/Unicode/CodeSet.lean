/-!
# Sets of code points

A set of numbers is kept as the ascending list of the points at which membership changes: it
starts at "outside", every bound flips it, and a number belongs to the set if an odd number of
bounds lie at or below it. One merge of two such lists gives union, intersection, difference and
symmetric difference alike, and the complement adds or removes the bound 0.

That the bounds ascend is part of a set. The operations on lists of bounds come first, each with
what it does to memberships and that it keeps the order, and the operations on sets are put together
from them.

Main statement: the merge of two sets by a truth function `f` has as its members the numbers for
which `f` of the two memberships holds (`contains_combine`).
-/

namespace Descent.Unicode

/-- A set of code points, as the ascending list of the points at which membership changes. -/
structure CodeSet where
  bounds : List Nat
  ascending : bounds.Pairwise (· < ·) := by decide
deriving DecidableEq, Repr

namespace CodeSet

/-! ## Membership -/

/-- Membership of `n`, given that `now` holds below the first bound. -/
def inside (n : Nat) : Bool → List Nat → Bool
  | now, [] => now
  | now, b :: bounds => if n < b then now else inside n (!now) bounds

def contains (s : CodeSet) (n : Nat) : Bool := inside n false s.bounds

theorem inside_cons_of_lt {n b : Nat} (h : n < b) (now : Bool) (bounds : List Nat) :
    inside n now (b :: bounds) = now := by simp [inside, h]

theorem inside_cons_of_le {n b : Nat} (h : b ≤ n) (now : Bool) (bounds : List Nat) :
    inside n now (b :: bounds) = inside n (!now) bounds := by
  simp [inside, Nat.not_lt.2 h]

theorem inside_of_forall_lt {n : Nat} {now : Bool} {bounds : List Nat}
    (h : ∀ b ∈ bounds, n < b) : inside n now bounds = now := by
  cases bounds with
  | nil => rfl
  | cons b bounds => exact inside_cons_of_lt (h b (List.mem_cons_self ..)) ..

theorem inside_not (n : Nat) (now : Bool) (bounds : List Nat) :
    inside n (!now) bounds = !inside n now bounds := by
  induction bounds generalizing now with
  | nil => rfl
  | cons b bounds ih =>
    unfold inside
    split
    · rfl
    · exact ih _

/-! ## The complement of a list of bounds -/

/-- Adds or removes the bound 0. -/
def toggle : List Nat → List Nat
  | 0 :: bounds => bounds
  | bounds => 0 :: bounds

theorem pairwise_toggle {bounds : List Nat} (h : bounds.Pairwise (· < ·)) :
    (toggle bounds).Pairwise (· < ·) := by
  fun_cases toggle bounds with
  | case1 bounds => exact h.of_cons
  | case2 bounds hzero =>
    refine List.pairwise_cons.2 ⟨fun b hb => Nat.pos_of_ne_zero ?_, h⟩
    -- In an ascending list 0 can only stand first, and there it would have been removed.
    rintro rfl
    cases h with
    | nil => cases hb
    | @cons first rest hfirst =>
      rcases List.mem_cons.1 hb with rfl | hb
      · exact hzero rest rfl
      · exact Nat.not_lt_zero _ (hfirst 0 hb)

theorem inside_toggle (n : Nat) (now : Bool) (bounds : List Nat) :
    inside n now (toggle bounds) = !inside n now bounds := by
  fun_cases toggle bounds with
  | case1 bounds => rw [inside_cons_of_le (Nat.zero_le n), inside_not, Bool.not_not]
  | case2 => rw [inside_cons_of_le (Nat.zero_le n), inside_not]

/-! ## Merging two lists of bounds -/

/-- Merges two ascending lists of bounds. `x` and `y` are the memberships reached so far, and a
bound is kept where `f` of them changes. -/
def merge (f : Bool → Bool → Bool) : Bool → Bool → List Nat → List Nat → List Nat
  | _, _, [], [] => []
  | x, y, a :: as, [] => keep (f x y) (f (!x) y) a (merge f (!x) y as [])
  | x, y, [], b :: bs => keep (f x y) (f x (!y)) b (merge f x (!y) [] bs)
  | x, y, a :: as, b :: bs =>
    if a < b then keep (f x y) (f (!x) y) a (merge f (!x) y as (b :: bs))
    else if b < a then keep (f x y) (f x (!y)) b (merge f x (!y) (a :: as) bs)
    else keep (f x y) (f (!x) (!y)) a (merge f (!x) (!y) as bs)
termination_by _ _ as bs => as.length + bs.length
where
  /-- A bound is kept if the truth value changes at it. -/
  keep (old new : Bool) (n : Nat) (rest : List Nat) : List Nat :=
    if old == new then rest else n :: rest

theorem inside_keep {b : Nat} {rest : List Nat} (hb : ∀ c ∈ rest, b < c) (n : Nat)
    (old new : Bool) : inside n old (merge.keep old new b rest) =
      if n < b then old else inside n new rest := by
  unfold merge.keep
  split
  next heq =>
    obtain rfl : old = new := beq_iff_eq.1 heq
    split
    · exact inside_of_forall_lt fun c hc => Nat.lt_trans ‹_› (hb c hc)
    · rfl
  next hne =>
    have hnew : (!old) = new := by cases old <;> cases new <;> simp_all
    rw [inside, hnew]

theorem mem_keep {old new : Bool} {n b : Nat} {rest : List Nat}
    (h : n ∈ merge.keep old new b rest) : n = b ∨ n ∈ rest := by
  unfold merge.keep at h
  split at h
  · exact .inr h
  · exact List.mem_cons.1 h

theorem pairwise_keep {b : Nat} {rest : List Nat} (hb : ∀ c ∈ rest, b < c)
    (hrest : rest.Pairwise (· < ·)) (old new : Bool) :
    (merge.keep old new b rest).Pairwise (· < ·) := by
  unfold merge.keep
  split
  · exact hrest
  · exact List.pairwise_cons.2 ⟨hb, hrest⟩

theorem mem_merge {f : Bool → Bool → Bool} {x y : Bool} {as bs : List Nat} {n : Nat}
    (h : n ∈ merge f x y as bs) : n ∈ as ∨ n ∈ bs := by
  fun_induction merge f x y as bs with
  | case1 => cases h
  | _ => grind [mem_keep h]

/-- A number below both lists is below their merge. -/
theorem lt_of_mem_merge {f : Bool → Bool → Bool} {x y : Bool} {as bs : List Nat} {n : Nat}
    (ha : ∀ a ∈ as, n < a) (hb : ∀ b ∈ bs, n < b) : ∀ c ∈ merge f x y as bs, n < c :=
  fun c hc => (mem_merge hc).elim (ha c) (hb c)

theorem lt_of_mem_cons {n b : Nat} {bs : List Nat} (h : n < b) (hb : ∀ c ∈ bs, b < c) :
    ∀ c ∈ b :: bs, n < c :=
  List.forall_mem_cons.2 ⟨h, fun c hc => Nat.lt_trans h (hb c hc)⟩

theorem pairwise_merge {f : Bool → Bool → Bool} {x y : Bool} {as bs : List Nat}
    (ha : as.Pairwise (· < ·)) (hb : bs.Pairwise (· < ·)) :
    (merge f x y as bs).Pairwise (· < ·) := by
  fun_induction merge f x y as bs with
  | case1 => exact .nil
  | case2 x y a as ih =>
    have ha' := List.pairwise_cons.1 ha
    exact pairwise_keep (lt_of_mem_merge ha'.1 (List.forall_mem_nil _)) (ih ha'.2 hb) ..
  | case3 x y b bs ih =>
    have hb' := List.pairwise_cons.1 hb
    exact pairwise_keep (lt_of_mem_merge (List.forall_mem_nil _) hb'.1) (ih ha hb'.2) ..
  | case4 x y a as b bs hab ih =>
    have ha' := List.pairwise_cons.1 ha
    have hb' := List.pairwise_cons.1 hb
    exact pairwise_keep (lt_of_mem_merge ha'.1 (lt_of_mem_cons hab hb'.1)) (ih ha'.2 hb) ..
  | case5 x y a as b bs hab hba ih =>
    have ha' := List.pairwise_cons.1 ha
    have hb' := List.pairwise_cons.1 hb
    exact pairwise_keep (lt_of_mem_merge (lt_of_mem_cons hba ha'.1) hb'.1) (ih ha hb'.2) ..
  | case6 x y a as b bs hab hba ih =>
    obtain rfl : a = b := Nat.le_antisymm (Nat.not_lt.1 hba) (Nat.not_lt.1 hab)
    have ha' := List.pairwise_cons.1 ha
    have hb' := List.pairwise_cons.1 hb
    exact pairwise_keep (lt_of_mem_merge ha'.1 hb'.1) (ih ha'.2 hb'.2) ..

theorem inside_merge (f : Bool → Bool → Bool) (n : Nat) {x y : Bool} {as bs : List Nat}
    (ha : as.Pairwise (· < ·)) (hb : bs.Pairwise (· < ·)) :
    inside n (f x y) (merge f x y as bs) = f (inside n x as) (inside n y bs) := by
  fun_induction merge f x y as bs with
  | case1 => rfl
  | case2 x y a as ih =>
    have ha' := List.pairwise_cons.1 ha
    rw [inside_keep (lt_of_mem_merge ha'.1 (List.forall_mem_nil _)), ih ha'.2 hb]
    by_cases h : n < a <;> simp [inside, h]
  | case3 x y b bs ih =>
    have hb' := List.pairwise_cons.1 hb
    rw [inside_keep (lt_of_mem_merge (List.forall_mem_nil _) hb'.1), ih ha hb'.2]
    by_cases h : n < b <;> simp [inside, h]
  | case4 x y a as b bs hab ih =>
    have ha' := List.pairwise_cons.1 ha
    have hb' := List.pairwise_cons.1 hb
    rw [inside_keep (lt_of_mem_merge ha'.1 (lt_of_mem_cons hab hb'.1)), ih ha'.2 hb]
    by_cases h : n < a
    · simp [inside, h, Nat.lt_trans h hab]
    · simp [inside, h]
  | case5 x y a as b bs hab hba ih =>
    have ha' := List.pairwise_cons.1 ha
    have hb' := List.pairwise_cons.1 hb
    rw [inside_keep (lt_of_mem_merge (lt_of_mem_cons hba ha'.1) hb'.1), ih ha hb'.2]
    by_cases h : n < b
    · simp [inside, h, Nat.lt_trans h hba]
    · simp [inside, h]
  | case6 x y a as b bs hab hba ih =>
    obtain rfl : a = b := Nat.le_antisymm (Nat.not_lt.1 hba) (Nat.not_lt.1 hab)
    have ha' := List.pairwise_cons.1 ha
    have hb' := List.pairwise_cons.1 hb
    rw [inside_keep (lt_of_mem_merge ha'.1 hb'.1), ih ha'.2 hb'.2]
    by_cases h : n < a <;> simp [inside, h]

/-! ## Runs -/

/-- The bounds of the runs that ranges in ascending order make up. The run from `lo` up to but not
including `next` is still open. -/
def runs (lo next : Nat) : List (Nat × Nat) → List Nat
  | [] => [lo, next]
  | (first, last) :: rest =>
    if first ≤ next then runs lo (max next (last + 1)) rest
    else lo :: next :: runs first (max first last + 1) rest

theorem le_of_mem_runs {lo next : Nat} {ranges : List (Nat × Nat)} (h : lo < next) :
    ∀ b ∈ runs lo next ranges, lo ≤ b := by
  fun_induction runs lo next ranges <;> grind

theorem pairwise_runs {lo next : Nat} {ranges : List (Nat × Nat)} (h : lo < next) :
    (runs lo next ranges).Pairwise (· < ·) := by
  fun_induction runs lo next ranges with
  | case1 lo next => simpa using h
  | case2 lo next first last rest hle ih => exact ih (Nat.lt_of_lt_of_le h (Nat.le_max_left ..))
  | case3 lo next first last rest hlt ih =>
    have hfirst : first < max first last + 1 := Nat.lt_succ_of_le (Nat.le_max_left ..)
    have hrest : ∀ b ∈ runs first (max first last + 1) rest, next < b :=
      fun b hb => Nat.lt_of_lt_of_le (Nat.not_le.1 hlt) (le_of_mem_runs hfirst b hb)
    exact List.pairwise_cons.2
      ⟨lt_of_mem_cons h hrest, List.pairwise_cons.2 ⟨hrest, ih hfirst⟩⟩

protected def empty : CodeSet where
  bounds := []

instance : Inhabited CodeSet := ⟨CodeSet.empty⟩

/-- All numbers from `lo` to `hi`, both included. -/
def range (lo hi : Nat) : CodeSet :=
  if h : lo ≤ hi then ⟨[lo, hi + 1], by simpa using Nat.lt_succ_of_le h⟩ else CodeSet.empty

@[simp] theorem contains_range {lo hi n : Nat} : (range lo hi).contains n ↔ lo ≤ n ∧ n ≤ hi := by
  unfold range
  split
  · simp only [contains, inside, Bool.not_false, Bool.not_true]
    grind
  · simp only [CodeSet.empty, contains, inside]
    grind

def single (n : Nat) : CodeSet := range n n

@[simp] theorem contains_single {n m : Nat} : (single n).contains m ↔ m = n := by
  rw [single, contains_range]
  omega

/-- The union of ranges, given by their ends, of which none begins below the one before it. -/
def ofRuns : List (Nat × Nat) → CodeSet
  | [] => CodeSet.empty
  | (first, last) :: rest =>
    ⟨runs first (max first last + 1) rest, pairwise_runs (Nat.lt_succ_of_le (Nat.le_max_left ..))⟩

/-- The set of the members of an ascending list. -/
def ofAscending (members : List Nat) : CodeSet := ofRuns (members.map fun n => (n, n))

/-- The numbers outside a set. -/
def complement (s : CodeSet) : CodeSet := ⟨toggle s.bounds, pairwise_toggle s.ascending⟩

@[simp] theorem contains_complement (s : CodeSet) (n : Nat) :
    s.complement.contains n = !s.contains n :=
  inside_toggle n false s.bounds

/-- The set whose members are the numbers for which `f` of the two memberships holds. It is
meant for functions that are false on two non-members. -/
def combine (f : Bool → Bool → Bool) (s t : CodeSet) : CodeSet :=
  ⟨merge f false false s.bounds t.bounds, pairwise_merge s.ascending t.ascending⟩

/-- **The merge of two sets by `f` contains the numbers for which `f` of the memberships holds.** -/
theorem contains_combine (f : Bool → Bool → Bool) (hf : f false false = false) (s t : CodeSet)
    (n : Nat) : (combine f s t).contains n = f (s.contains n) (t.contains n) := by
  have h := inside_merge f n (x := false) (y := false) s.ascending t.ascending
  rwa [hf] at h

def union : CodeSet → CodeSet → CodeSet := combine (· || ·)

@[simp] theorem contains_union (s t : CodeSet) (n : Nat) :
    (s.union t).contains n = (s.contains n || t.contains n) :=
  contains_combine _ rfl s t n

def inter : CodeSet → CodeSet → CodeSet := combine (· && ·)

def diff : CodeSet → CodeSet → CodeSet := combine fun x y => x && !y

def symmDiff : CodeSet → CodeSet → CodeSet := combine (· ^^ ·)

/-- The union of a list of sets. -/
def unionAll (sets : List CodeSet) : CodeSet := sets.foldl union CodeSet.empty

/-- The union of ranges, given by their ends. -/
def ofRanges (ranges : List (Nat × Nat)) : CodeSet :=
  unionAll (ranges.map fun r => range r.1 r.2)

/-- No member is beyond 127. -/
def isAscii (s : CodeSet) : Bool := s.bounds.length % 2 == 0 && s.bounds.all (· ≤ 128)

/-- Some member lies between `lo` and `hi`. -/
def meets (s : CodeSet) (lo hi : Nat) : Bool := !(s.inter (range lo hi)).bounds.isEmpty

end CodeSet

end Descent.Unicode
