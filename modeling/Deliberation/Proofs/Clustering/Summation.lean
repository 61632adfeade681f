/-
# Proofs.Clustering.Summation -- sums of similarities in any order of additions

Linkage sums grow merge by merge, and cohesion adds up lanes and halves.  Both are sums of a
collection of scalars in some order of additions (`SumOf`), and for most purposes the order does not
matter: exact scalars have one sum (`SumOf.eq_sum`), doubles from the unit interval stay finite in
every order (`SumOf.upTo`), and zeros add up to zero (`SumOf.eq_zero`).

`pairwiseSum_sumOf` says that no term is lost or counted twice by the lanes and halves of
`pairwiseSum`.
-/
import Deliberation.Clustering.Linkage
import Deliberation.Proofs.Number.Bounds
import Mathlib.Algebra.BigOperators.Group.Multiset.Basic
import Mathlib.Data.List.Forall2

set_option autoImplicit false

namespace Deliberation

section Order

variable {α : Type} [Averaging α]

/-- The scalar is a sum of the collection, in some order of additions. -/
inductive SumOf : Multiset α → α → Prop where
  | zero : SumOf 0 Averaging.zero
  | single (x : α) : SumOf {x} x
  | add {s t : Multiset α} {a b : α} : SumOf s a → SumOf t b → SumOf (s + t) (Averaging.add a b)

/-- The scalar is the mean of the collection: its only member, or a sum of it over its size. -/
def MeanOf (s : Multiset α) (a : α) : Prop :=
  s = {a} ∨ ∃ t, SumOf s t ∧ a = Averaging.mean t s.card

theorem runningSum_sumOf {s : Multiset α} {start : α} (h : SumOf s start) (xs : List α) :
    SumOf (s + (xs : Multiset α)) (runningSum start xs) := by
  induction xs generalizing s start with
  | nil => simpa [runningSum] using h
  | cons x rest ih =>
      have := ih (h.add (.single x))
      rwa [add_assoc, Multiset.singleton_add, Multiset.cons_coe] at this

/-! ## Lanes -/

/-- Each scalar is the sum of one part, and the parts together make up the collection. -/
def Lanes (s : Multiset α) (lanes : List α) : Prop :=
  ∃ parts : List (Multiset α), List.Forall₂ SumOf parts lanes ∧ parts.sum = s

theorem lanes_self (xs : List α) : Lanes (xs : Multiset α) xs := by
  refine ⟨xs.map fun x => {x}, ?_, ?_⟩
  · induction xs with
    | nil => exact .nil
    | cons x rest ih => exact .cons (.single x) ih
  · induction xs with
    | nil => rfl
    | cons x rest ih => simp [ih]

theorem lanes_zipWith {s t : Multiset α} {xs ys : List α} (hs : Lanes s xs) (ht : Lanes t ys)
    (same : xs.length = ys.length) : Lanes (s + t) (List.zipWith Averaging.add xs ys) := by
  obtain ⟨ps, hps, rfl⟩ := hs
  obtain ⟨qs, hqs, rfl⟩ := ht
  induction hps generalizing ys qs with
  | nil =>
      cases hqs with
      | nil => exact ⟨[], .nil, rfl⟩
      | cons => simp at same
  | @cons p x ps xs hp _ ih =>
      cases hqs with
      | nil => simp at same
      | @cons q y qs ys hq hqs =>
          obtain ⟨rs, hrs, sum⟩ := ih (by simpa using same) qs hqs
          refine ⟨(p + q) :: rs, .cons (hp.add hq) hrs, ?_⟩
          simp only [List.sum_cons, sum]
          abel

theorem lanes_addNeighbours {s : Multiset α} {xs : List α} (h : Lanes s xs) :
    Lanes s (addNeighbours xs) := by
  obtain ⟨ps, hps, rfl⟩ := h
  fun_induction addNeighbours xs generalizing ps with
  | case1 x y rest ih =>
      cases hps with
      | @cons p _ ps _ hp hps =>
          cases hps with
          | @cons q _ ps _ hq hps =>
              obtain ⟨rs, hrs, sum⟩ := ih ps hps
              refine ⟨(p + q) :: rs, .cons (hp.add hq) hrs, ?_⟩
              simp [sum, add_assoc]
  | case2 => exact ⟨ps, hps, rfl⟩

theorem length_addNeighbours (xs : List α) :
    (addNeighbours xs).length = (xs.length + 1) / 2 := by
  fun_induction addNeighbours xs with
  | case1 x y rest ih => simp only [List.length_cons, ih]; omega
  | case2 xs short =>
      match xs with
      | [] => simp
      | [x] => simp
      | x :: y :: rest => exact absurd rfl (short x y rest)

theorem sumOf_of_lanes {s : Multiset α} {xs : List α} (h : Lanes s xs) (one : xs.length = 1) :
    SumOf s (xs.headD Averaging.zero) := by
  obtain ⟨ps, hps, rfl⟩ := h
  obtain ⟨x, rfl⟩ := List.length_eq_one_iff.1 one
  cases hps with
  | cons hp rest =>
      cases rest
      simpa using hp

theorem fullRows_spec {β : Type} (width count : ℕ) (xs : List β) (enough : width * count ≤ xs.length) :
    (fullRows width count xs).flatten = xs.take (width * count) ∧
      ∀ row ∈ fullRows width count xs, row.length = width := by
  induction count generalizing xs with
  | zero => simp [fullRows]
  | succ count ih =>
      rw [Nat.mul_succ] at enough
      obtain ⟨rows, widths⟩ := ih (xs.drop width) (by rw [List.length_drop]; omega)
      constructor
      · rw [fullRows, List.flatten_cons, rows, Nat.mul_succ, Nat.add_comm, List.take_add]
      · intro row member
        rw [fullRows, List.mem_cons] at member
        rcases member with rfl | member
        · rw [List.length_take]; omega
        · exact widths row member

/-- Rows of one width, added up lane by lane. -/
theorem lanes_foldl {s : Multiset α} {lanes : List α} (h : Lanes s lanes) (rows : List (List α))
    (widths : ∀ row ∈ rows, row.length = lanes.length) :
    Lanes (s + (rows.flatten : Multiset α)) (rows.foldl (List.zipWith Averaging.add) lanes) ∧
      (rows.foldl (List.zipWith Averaging.add) lanes).length = lanes.length := by
  induction rows generalizing s lanes with
  | nil => simpa using h
  | cons row rest ih =>
      have width : lanes.length = row.length := (widths row List.mem_cons_self).symm
      have next := lanes_zipWith h (lanes_self row) width
      have length : (List.zipWith Averaging.add lanes row).length = lanes.length := by
        rw [List.length_zipWith, ← width, Nat.min_self]
      obtain ⟨sum, kept⟩ := ih next fun r member =>
        (widths r (List.mem_cons_of_mem row member)).trans length.symm
      refine ⟨?_, kept.trans length⟩
      rwa [List.foldl_cons, List.flatten_cons, ← Multiset.coe_add, ← add_assoc]

theorem blockSum_sumOf (xs : List α) : SumOf (xs : Multiset α) (blockSum xs) := by
  unfold blockSum
  split_ifs with few
  · simpa using runningSum_sumOf .zero xs
  · have enough : 8 * (xs.length / 8) ≤ xs.length := Nat.mul_div_le _ _
    obtain ⟨flat, widths⟩ := fullRows_spec 8 (xs.length / 8) xs enough
    simp only
    cases hrows : fullRows 8 (xs.length / 8) xs with
    | nil =>
        have : xs.length / 8 = 0 := by
          have := congrArg List.length flat
          rw [hrows, List.flatten_nil, List.length_nil, List.length_take] at this
          omega
        omega
    | cons first rows =>
        rw [hrows] at flat widths
        have width : first.length = 8 := widths first List.mem_cons_self
        obtain ⟨sum, kept⟩ := lanes_foldl (lanes_self first) rows fun row member =>
          (widths row (List.mem_cons_of_mem first member)).trans width.symm
        have eight := lanes_addNeighbours (lanes_addNeighbours (lanes_addNeighbours sum))
        have total := sumOf_of_lanes eight (by simp only [length_addNeighbours, kept, width])
        have whole := runningSum_sumOf total (xs.drop (8 * (xs.length / 8)))
        rwa [Multiset.coe_add, ← List.flatten_cons, flat, Multiset.coe_add,
          List.take_append_drop] at whole

/-- However many halvings are left, every term is taken once. -/
theorem go_sumOf (fuel : ℕ) (xs : List α) : SumOf (xs : Multiset α) (pairwiseSum.go fuel xs) := by
  induction fuel generalizing xs with
  | zero => exact blockSum_sumOf xs
  | succ fuel ih =>
      unfold pairwiseSum.go
      split_ifs with small
      · exact blockSum_sumOf xs
      · have halves := (ih (xs.take (xs.length / 2 / 8 * 8))).add
          (ih (xs.drop (xs.length / 2 / 8 * 8)))
        rwa [Multiset.coe_add, List.take_append_drop] at halves

/-- Summing by halves and lanes takes every term once. -/
theorem pairwiseSum_sumOf (xs : List α) : SumOf (xs : Multiset α) (pairwiseSum xs) :=
  go_sumOf xs.length xs

/-- The cohesion of two items or more is a mean of the similarities of their pairs. -/
theorem meanOf_cohesion {n : ℕ} (sim : Grid α n) {group : List (Fin n)}
    (pairs : orderedPairs group ≠ []) :
    MeanOf (((orderedPairs group).map fun p => sim p.1 p.2 : List α) : Multiset α)
      (cohesion sim group) := by
  refine .inr ⟨_, pairwiseSum_sumOf _, ?_⟩
  rw [cohesion, if_neg (by simpa using pairs), Multiset.coe_card, List.length_map]

end Order

/-! ## What sums of doubles are -/

open Binary64

/-- Doubles up to one unit, in any order of additions: the bound is the square of their number. -/
theorem SumOf.upTo {s : Multiset Binary64} {x : Binary64} {unit : ℚ} (h : SumOf s x)
    (bounded : ∀ y ∈ s, UpTo unit y) (nonneg : 0 ≤ unit)
    (fits : (s.card : ℚ) ^ 2 * unit < overflow) : UpTo ((s.card : ℚ) ^ 2 * unit) x := by
  induction h with
  | zero => exact upTo_finite representable_zero le_rfl (by simp)
  | single x => simpa using bounded x (Multiset.mem_singleton_self x)
  | @add s t a b _ _ ihs iht =>
      rw [Multiset.card_add] at fits ⊢
      have part {k : ℕ} (le : k ≤ s.card + t.card) : (k : ℚ) ^ 2 * unit < overflow := by
        refine lt_of_le_of_lt ?_ fits
        gcongr
      have hs := ihs (fun y hy => bounded y (Multiset.mem_add.2 (.inl hy))) (part (by omega))
      have ht := iht (fun y hy => bounded y (Multiset.mem_add.2 (.inr hy))) (part (by omega))
      exact upTo_add hs ht nonneg fits

theorem SumOf.eq_zero {s : Multiset Binary64} {x : Binary64} (h : SumOf s x)
    (zeros : ∀ y ∈ s, y = finite 0) : x = finite 0 := by
  induction h with
  | zero => rfl
  | single x => exact zeros x (Multiset.mem_singleton_self x)
  | @add s t a b _ _ ihs iht =>
      rw [ihs fun y hy => zeros y (Multiset.mem_add.2 (.inl hy)),
        iht fun y hy => zeros y (Multiset.mem_add.2 (.inr hy))]
      change finite 0 + finite 0 = finite 0
      rw [finite_add_finite, add_zero, ofRat_zero]

theorem card_lt_overflow {k : ℕ} (positive : 0 < k) (fits : (k : ℚ) ^ 2 < overflow) :
    (k : ℚ) < overflow := by
  have one_le : (1 : ℚ) ≤ k := by exact_mod_cast positive
  exact (le_self_pow₀ one_le two_ne_zero).trans_lt fits

theorem MeanOf.upTo {s : Multiset Binary64} {x : Binary64} (h : MeanOf s x)
    (unit : ∀ y ∈ s, UpTo 1 y) (positive : 0 < s.card) (fits : (s.card : ℚ) ^ 2 < overflow) :
    UpTo ((s.card : ℚ) ^ 2) x := by
  rcases h with rfl | ⟨t, sum, rfl⟩
  · simpa using unit x (Multiset.mem_singleton_self x)
  · have bounded := sum.upTo unit zero_le_one (by rwa [mul_one])
    rw [mul_one] at bounded
    exact bounded.div_ofNat fits positive (card_lt_overflow positive fits)

theorem MeanOf.eq_zero {s : Multiset Binary64} {x : Binary64} (h : MeanOf s x)
    (zeros : ∀ y ∈ s, y = finite 0) (positive : 0 < s.card)
    (fits : (s.card : ℚ) ^ 2 < overflow) : x = finite 0 := by
  rcases h with rfl | ⟨t, sum, rfl⟩
  · exact zeros x (Multiset.mem_singleton_self x)
  · rw [sum.eq_zero zeros]
    obtain ⟨d, one_le, hd⟩ := ofNat_eq_finite positive (card_lt_overflow positive fits)
    change finite 0 / ofNat s.card = finite 0
    rw [hd, finite_div_finite le_rfl (one_pos.trans_le one_le), zero_div, ofRat_zero]

end Deliberation
