/-
# Proofs.Clustering.Cohesion -- the cohesion of a group is a score

The cohesion of a group is a sum of the similarities of its pairs over their number.  A sum of scores is at
most their number, as long as doubles count that far, in whatever order they are added (`SumOf.upTo_card`).
Longer sums are rounded, but by halving, so that what is rounded to begin with is rounded once more with
each halving and not with each term (`atMost_go`).  There are fewer than `maxItems` items, hence few
halvings, and rounding to hundredths hides what they add (`exists_hundredths_cohesion`).
-/
import Deliberation.Proofs.Clustering.Averages
import Deliberation.Proofs.Number.Drift

set_option autoImplicit false

namespace Deliberation

open Binary64

/-! ## Sums of scores in any order -/

/-- As many scores as doubles count up to add up to their number at most. -/
theorem SumOf.upTo_card {s : Multiset Binary64} {x : Binary64} (h : SumOf s x)
    (unit : ∀ y ∈ s, UpTo 1 y) (few : s.card ≤ 2 ^ 53) : UpTo s.card x := by
  induction h with
  | zero => exact upTo_finite representable_zero le_rfl (by simp)
  | single x => simpa using unit x (Multiset.mem_singleton_self x)
  | @add s t a b _ _ ihs iht =>
      rw [Multiset.card_add] at few ⊢
      have hs := ihs (fun y hy => unit y (Multiset.mem_add.2 (.inl hy))) (by omega)
      have ht := iht (fun y hy => unit y (Multiset.mem_add.2 (.inr hy))) (by omega)
      have count : ((s.card + t.card : ℕ) : ℚ) ≤ 2 ^ 53 := by exact_mod_cast few
      exact hs.add ht (Nat.cast_add _ _).ge (representable_natCast few)
        (count.trans_lt (two_pow_lt_overflow (by norm_num)))

variable {xs : List Binary64}

theorem atMost_go_of_few (unit : ∀ x ∈ xs, UpTo 1 x) (few : xs.length ≤ 2 ^ 53) (fuel j : ℕ) :
    AtMost (xs.length * drift ^ j) (pairwiseSum.go fuel xs) := by
  have sum := (go_sumOf fuel xs).upTo_card (fun y hy => unit y (Multiset.mem_coe.1 hy)) few
  exact sum.atMost.mono (le_mul_of_one_le_right (Nat.cast_nonneg _) (one_le_pow₀ one_le_drift))

/-- A sum by halves is rounded beyond the number of its terms once for each halving that it takes to get
down to what doubles count.  A half may have a few terms more than the other. -/
theorem atMost_go {j fuel : ℕ} (unit : ∀ x ∈ xs, UpTo 1 x) (enough : j ≤ fuel)
    (short : xs.length ≤ 2 ^ 52 * 2 ^ j + 16) :
    AtMost (xs.length * drift ^ j) (pairwiseSum.go fuel xs) := by
  induction j generalizing fuel xs with
  | zero => exact atMost_go_of_few unit (by omega) fuel 0
  | succ j ih =>
      by_cases few : xs.length ≤ 128
      · exact atMost_go_of_few unit (by omega) fuel (j + 1)
      · obtain ⟨fuel, rfl⟩ : ∃ less, fuel = less + 1 := ⟨fuel - 1, by omega⟩
        rw [pow_succ] at short
        have half (part : List Binary64) (within : ∀ x ∈ part, x ∈ xs)
            (short : part.length ≤ 2 ^ 52 * 2 ^ j + 16) :
            AtMost (part.length * drift ^ j) (pairwiseSum.go fuel part) :=
          ih (fun x hx => unit x (within x hx)) (by omega) short
        have first := half (xs.take (xs.length / 2 / 8 * 8)) (fun x => List.mem_of_mem_take)
          (by rw [List.length_take]; omega)
        have second := half (xs.drop (xs.length / 2 / 8 * 8)) (fun x => List.mem_of_mem_drop)
          (by rw [List.length_drop]; omega)
        have whole : ((xs.take (xs.length / 2 / 8 * 8)).length : ℚ) +
            (xs.drop (xs.length / 2 / 8 * 8)).length = xs.length := by
          exact_mod_cast (List.length_append.symm.trans (by rw [List.take_append_drop]))
        have terms : (1 : ℚ) ≤ xs.length := by exact_mod_cast (by omega : 1 ≤ xs.length)
        have joined := first.add second (by
          rw [← add_mul, whole]
          exact one_le_mul_of_one_le_of_one_le terms (one_le_pow₀ one_le_drift))
        rw [← add_mul, whole, mul_assoc, ← pow_succ] at joined
        unfold pairwiseSum.go
        rw [if_neg few]
        exact joined

/-- As many pairs as a list can have are few halvings. -/
theorem atMost_pairwiseSum (unit : ∀ x ∈ xs, UpTo 1 x) (short : xs.length ≤ 2 ^ 126) :
    AtMost (xs.length * drift ^ 74) (pairwiseSum xs) := by
  by_cases few : xs.length ≤ 2 ^ 53
  · exact atMost_go_of_few unit few _ _
  · exact atMost_go unit (by omega) (by omega)

/-! ## Groups -/

section Groups

variable {n : ℕ} {sim : Grid Binary64 n} {group : List (Fin n)}

theorem length_pairs_le (short : group.length ≤ maxItems) : (orderedPairs group).length ≤ 2 ^ 126 :=
  calc (orderedPairs group).length ≤ group.length ^ 2 := length_orderedPairs_le group
    _ ≤ maxItems ^ 2 := Nat.pow_le_pow_left short 2
    _ = 2 ^ 126 := by norm_num [maxItems]

/-- The mean over the pairs of a group is far from overflow. -/
theorem upTo_cohesion (unit : ∀ i k, UpTo 1 (sim i k)) (short : group.length ≤ maxItems)
    (pairs : orderedPairs group ≠ []) : UpTo (2 ^ 252) (cohesion sim group) := by
  have square : ((orderedPairs group).length : ℚ) ^ 2 ≤ 2 ^ 252 := by
    have count : ((orderedPairs group).length : ℚ) ≤ 2 ^ 126 := by exact_mod_cast length_pairs_le short
    calc ((orderedPairs group).length : ℚ) ^ 2 ≤ (2 ^ 126) ^ 2 := by gcongr
      _ = 2 ^ 252 := by norm_num
  have bounded := (meanOf_cohesion sim pairs).upTo fun y hy => by
    obtain ⟨p, -, rfl⟩ := List.mem_map.1 (Multiset.mem_coe.1 hy)
    exact unit p.1 p.2
  rw [Multiset.coe_card, List.length_map] at bounded
  exact (bounded (List.length_pos_iff.2 pairs)
    (square.trans_lt (two_pow_lt_overflow (by norm_num)))).mono square

/-- **The cohesion of a group has hundredths, and they are a score.** -/
theorem exists_hundredths_cohesion (unit : ∀ i k, UpTo 1 (sim i k)) (short : group.length ≤ maxItems) :
    ∃ score, (Number.real (cohesion sim group)).roundHalfUp 2 = .ok score ∧ UpTo 1 score := by
  by_cases alone : orderedPairs group = []
  · have one : cohesion sim group = finite 1 := by
      rw [cohesion, alone]
      rfl
    rw [one]
    exact roundHalfUp_of_unit upTo_one
  · obtain ⟨score, rounded, -⟩ := roundHalfUp_two (upTo_cohesion unit short alone) (by norm_num)
    refine ⟨score, rounded, ?_⟩
    have few := length_pairs_le short
    have count : ((orderedPairs group).length : ℚ) ≤ 2 ^ 126 := by exact_mod_cast few
    have scores : ∀ x ∈ (orderedPairs group).map fun p => sim p.1 p.2, UpTo 1 x := by
      intro x hx
      obtain ⟨p, -, rfl⟩ := List.mem_map.1 hx
      exact unit p.1 p.2
    have sum := atMost_pairwiseSum scores (by rwa [List.length_map])
    rw [List.length_map] at sum
    refine upTo_of_mean (List.length_pos_iff.2 alone)
      (count.trans_lt (two_pow_lt_overflow (by norm_num))) sum (by norm_num) ?_
    have converted : ofNat (orderedPairs group).length = ofRat (orderedPairs group).length := by
      simp [ofNat, ofInt]
    have mean : cohesion sim group = pairwiseSum ((orderedPairs group).map fun p => sim p.1 p.2) /
        ofNat (orderedPairs group).length := by
      rw [cohesion, if_neg (by simpa using alone)]
      rfl
    rwa [← converted, ← mean]

end Groups

end Deliberation
