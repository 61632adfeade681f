/-
# Proofs.Clustering.Coherence -- clusters are apart, and alike inside

Over exact rationals, linkage ends in clusters of which no two are as alike on average as the threshold
asks, while the pairs within each cluster are (`separated_and_coherent`), both up to the slack.

Clusters are apart at the end because the table then holds their means, of which the greatest ends the
run.  They are alike inside because a merge adds no pairs but those across (`within_append`), and the
mean of these was above the bound when they were added (`AlikeWithin.append`).
-/
import Deliberation.Proofs.Clustering.Recomputed

set_option autoImplicit false

namespace Deliberation

/-! ## Pairs within a list -/

/-- The similarities between the items of a list, one for every pair. -/
def within {α : Type} {n : ℕ} (sim : Grid α n) (g : List (Fin n)) : Multiset α :=
  ((orderedPairs g).map fun p => sim p.1 p.2 : List α)

theorem mem_orderedPairs_of_lt {n : ℕ} {l : List (Fin n)} (sorted : l.Pairwise (· < ·)) {i k : Fin n}
    (hi : i ∈ l) (hk : k ∈ l) (less : i < k) : (i, k) ∈ orderedPairs l := by
  induction l with
  | nil => cases hi
  | cons x rest ih =>
      rw [List.pairwise_cons] at sorted
      rw [orderedPairs, List.mem_append]
      rcases List.mem_cons.1 hi with rfl | inRest
      · exact .inl (List.mem_map_of_mem ((List.mem_cons.1 hk).resolve_left less.ne'))
      · have notFirst : k ≠ x := ((sorted.1 i inRest).trans less).ne'
        exact .inr (ih sorted.2 inRest ((List.mem_cons.1 hk).resolve_left notFirst))

section Within

variable {α : Type} {n : ℕ} {sim : Grid α n}

/-- The pairs of two lists put together: those of either, and those across. -/
theorem within_append (a b : List (Fin n)) :
    within sim (a ++ b) = within sim a + within sim b + cross sim a b := by
  induction a with
  | nil => simp [within, cross, orderedPairs]
  | cons x rest ih =>
      have row (l : List (Fin n)) : within sim (x :: l) =
          (l.map fun k => sim x k : List α) + within sim l := by
        simp [within, orderedPairs, Function.comp_def]
      have firstRow : cross sim (x :: rest) b = (b.map fun k => sim x k : List α) + cross sim rest b := by
        rw [cross, ← Multiset.cons_coe, Multiset.cons_product, Multiset.map_add, Multiset.map_map]
        rfl
      rw [List.cons_append, row, row, ih, firstRow, List.map_append, ← Multiset.coe_add]
      abel

theorem orderedPairs_ne_nil {g : List (Fin n)} (several : 2 ≤ g.length) : orderedPairs g ≠ [] := by
  match g with
  | [] | [_] => simp at several
  | i :: k :: rest => simp [orderedPairs]

end Within

/-! ## Means over rationals -/

section Exact

variable {n : ℕ} {sim : Grid ℚ n} {a b g : List (Fin n)} {bound : ℚ}

theorem meanSimilarity_comm (symmetric : sim.Symmetric) (a b : List (Fin n)) :
    meanSimilarity sim a b = meanSimilarity sim b a := by
  rw [← mean_cross, cross_comm symmetric, mean_cross]

/-- A mean times the number of its terms is their sum. -/
theorem card_mul_meanSimilarity (a b : List (Fin n)) :
    (cross sim a b).card * meanSimilarity sim a b = (cross sim a b).sum := by
  rw [← mean_cross]
  by_cases none : cross sim a b = 0
  · simp [none]
  · exact mul_div_cancel₀ _ (Nat.cast_ne_zero.2 (Multiset.card_eq_zero.not.2 none))

/-- The pairs within a list are on average at least as alike as a bound. -/
def AlikeWithin (sim : Grid ℚ n) (bound : ℚ) (g : List (Fin n)) : Prop :=
  (within sim g).card * bound ≤ (within sim g).sum

theorem alikeWithin_singleton (i : Fin n) : AlikeWithin sim bound [i] := by
  simp [AlikeWithin, within, orderedPairs]

/-- Two such lists that are as alike to each other make up another one. -/
theorem AlikeWithin.append (ha : AlikeWithin sim bound a) (hb : AlikeWithin sim bound b)
    (across : bound ≤ meanSimilarity sim a b) : AlikeWithin sim bound (a ++ b) := by
  have added : (cross sim a b).card * bound ≤ (cross sim a b).sum := by
    rw [← card_mul_meanSimilarity]
    gcongr
  unfold AlikeWithin at ha hb ⊢
  rw [within_append, Multiset.card_add, Multiset.card_add, Multiset.sum_add, Multiset.sum_add]
  push_cast
  linarith

theorem AlikeWithin.le_cohesion (h : AlikeWithin sim bound g) (several : 2 ≤ g.length) :
    bound ≤ cohesion sim g := by
  have pairs := orderedPairs_ne_nil several
  have counted : (0 : ℚ) < (within sim g).card := by
    rw [within, Multiset.coe_card, List.length_map]
    exact_mod_cast List.length_pos_iff.2 pairs
  have mean : cohesion sim g = (within sim g).sum / (within sim g).card :=
    (meanOf_cohesion sim pairs).eq_mean
  rw [mean, le_div_iff₀ counted, mul_comm]
  exact h

end Exact

/-! ## Runs over rationals -/

namespace Clusters

variable {n : ℕ} {sim : Grid ℚ n} {threshold bound : ℚ} {c c' : Clusters ℚ n} {m : Merge ℚ n}

theorem ends_eq_false_iff {average : ℚ} :
    Averaging.ends average threshold = false ↔ threshold - 1 / 10 ^ 12 ≤ average := by
  change decide (average + 1 / 10 ^ 12 < threshold) = false ↔ _
  rw [decide_eq_false_iff_not, not_lt, sub_le_iff_le_add]

theorem exists_best? (sound : c.Sound) {i k : Fin n} (hi : i ∈ c.live) (hk : k ∈ c.live)
    (less : i < k) : ∃ m, c.best? = some m := by
  cases found : c.best? with
  | some m => exact ⟨m, rfl⟩
  | none =>
      have empty := candidates_eq_nil found
      rw [candidates, List.map_eq_nil_iff] at empty
      exact absurd (empty ▸ mem_orderedPairs_of_lt sound.sorted hi hk less) List.not_mem_nil

/-- No two clusters are more alike than the two that are to be merged. -/
theorem meanSimilarity_le_best (symmetric : sim.Symmetric) (sound : c.Sound) (linked : c.Linked sim)
    (best : c.best? = some m) {i k : Fin n} (hi : i ∈ c.live) (hk : k ∈ c.live) (different : i ≠ k) :
    meanSimilarity sim (c.members.get i) (c.members.get k) ≤ m.average := by
  have greatest {i k : Fin n} (hi : i ∈ c.live) (hk : k ∈ c.live) (less : i < k) :
      meanSimilarity sim (c.members.get i) (c.members.get k) ≤ m.average := by
    have first := best
    rw [best?_eq, foldl_better (comparable_candidates c)] at first
    have open_ : ⟨i, k, c.averages i k⟩ ∈ c.candidates :=
      mem_candidates_iff.2 ⟨mem_orderedPairs_of_lt sound.sorted hi hk less, rfl⟩
    rw [← linked.averages_eq hi hk less.ne]
    exact first.le open_
  rcases lt_or_gt_of_ne different with less | more
  · exact greatest hi hk less
  · rw [meanSimilarity_comm symmetric]
    exact greatest hk hi more

/-- Where merging has ended, clusters are less alike than the threshold asks. -/
theorem separated_of_ended (symmetric : sim.Symmetric) (sound : c.Sound) (linked : c.Linked sim)
    (ended : c.step? threshold = none) {i k : Fin n} (hi : i ∈ c.live) (hk : k ∈ c.live)
    (different : i ≠ k) :
    meanSimilarity sim (c.members.get i) (c.members.get k) + 1 / 10 ^ 12 < threshold := by
  obtain ⟨m, best⟩ : ∃ m, c.best? = some m := by
    rcases lt_or_gt_of_ne different with less | more
    · exact exists_best? sound hi hk less
    · exact exists_best? sound hk hi more
  have below : m.average + 1 / 10 ^ 12 < threshold :=
    of_decide_eq_true (step?_eq_none_iff.1 ended m best)
  have notMore := meanSimilarity_le_best symmetric sound linked best hi hk different
  linarith

/-- A merge above the bound keeps all clusters alike inside. -/
theorem alikeWithin_merge (sound : c.Sound) (linked : c.Linked sim) (best : c.best? = some m)
    (above : bound ≤ m.average) (alike : ∀ i ∈ c.live, AlikeWithin sim bound (c.members.get i)) :
    ∀ i ∈ (c.merge m).live, AlikeWithin sim bound ((c.merge m).members.get i) := by
  intro i left
  obtain ⟨notAbsorbed, live⟩ := (List.Nodup.mem_erase_iff sound.nodup_live).1 left
  obtain ⟨survivorLive, absorbedLive⟩ := live_of_mem_candidates (mem_candidates_of_best? best)
  rw [members_merge, if_neg notAbsorbed]
  split_ifs
  · have average := (closest?_groups sound linked best).2
    exact (alike _ survivorLive).append (alike _ absorbedLive) (average ▸ above)
  · exact alike i live

theorem alikeWithin_run (symmetric : sim.Symmetric) (reached : Run threshold (singletons sim) c) :
    ∀ i ∈ c.live, AlikeWithin sim (threshold - 1 / 10 ^ 12) (c.members.get i) := by
  induction reached with
  | refl =>
      intro i _
      rw [members_singletons]
      exact alikeWithin_singleton i
  | tail before next ih =>
      obtain ⟨m, best, goesOn, rfl⟩ := step_iff.1 next
      exact alikeWithin_merge ((sound_singletons sim).run before) (linked_run symmetric before) best
        (ends_eq_false_iff.1 goesOn) ih

end Clusters

/-- **Clusters are apart, and alike inside.**  Any two of them are on average less alike than the
threshold asks, and the pairs within each are on average as alike as it asks, both up to the slack. -/
theorem separated_and_coherent {n : ℕ} (sim : Grid ℚ n) (symmetric : sim.Symmetric) (threshold : ℚ) :
    (∀ g ∈ (agglomerate sim threshold).groups, ∀ h ∈ (agglomerate sim threshold).groups, g ≠ h →
      meanSimilarity sim g h + 1 / 10 ^ 12 < threshold) ∧
    ∀ g ∈ (agglomerate sim threshold).groups, 2 ≤ g.length →
      threshold - 1 / 10 ^ 12 ≤ cohesion sim g := by
  have reached := Clusters.run_agglomerate sim threshold
  constructor
  · intro g hg h hh different
    obtain ⟨i, hi, rfl⟩ := List.mem_map.1 hg
    obtain ⟨k, hk, rfl⟩ := List.mem_map.1 hh
    have apart : i ≠ k := fun same => different (by rw [same])
    exact Clusters.separated_of_ended symmetric (Clusters.sound_agglomerate sim threshold)
      (Clusters.linked_run symmetric reached) (Clusters.step?_agglomerate sim threshold) hi hk apart
  · intro g hg several
    obtain ⟨i, hi, rfl⟩ := List.mem_map.1 hg
    exact (Clusters.alikeWithin_run symmetric reached i hi).le_cohesion several

/-- The first two items of the chain stay together, and just apart from the third. -/
theorem chain_separated_and_coherent :
    chain.Symmetric ∧ (agglomerate chain (31 / 100)).groups = [[0, 1], [2]] ∧
      meanSimilarity chain [0, 1] [2] = 3 / 10 ∧ (3 / 10 + 1 / 10 ^ 12 : ℚ) < 31 / 100 ∧
      cohesion chain [0, 1] = 9 / 10 ∧ (31 / 100 - 1 / 10 ^ 12 : ℚ) ≤ 9 / 10 := by
  have groups : (agglomerate chain (31 / 100)).groups = [[0, 1], [2]] := by decide +kernel
  have apart : meanSimilarity chain [0, 1] [2] = 3 / 10 := by decide +kernel
  have alike : cohesion chain [0, 1] = 9 / 10 := by decide +kernel
  obtain ⟨separated, coherent⟩ := separated_and_coherent chain symmetric_chain (31 / 100)
  rw [groups] at separated coherent
  refine ⟨symmetric_chain, groups, apart, ?_, alike, ?_⟩
  · rw [← apart]
    exact separated _ (by simp) _ (by simp) (by decide)
  · rw [← alike]
    exact coherent _ (by simp) (by decide)

end Deliberation
