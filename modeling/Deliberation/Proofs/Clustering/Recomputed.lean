/-
# Proofs.Clustering.Recomputed -- average linkage without a table

Over exact rationals, the table that linkage keeps and updates in place is no more than a shortcut.
`averageLinkage` has no table: at every step it computes the mean similarity of every two clusters
from the similarities of their items, joins the first pair with the greatest mean, and stops where
this mean and the slack are below the threshold.  It makes the same clusters in the same order.

One step of either algorithm is one step of the other (`recomputed_step`), because the table holds what
the other one computes (`averages_eq`).
-/
import Deliberation.Proofs.Clustering.Linked
import Mathlib.Algebra.BigOperators.Group.Multiset.Basic
import Mathlib.Tactic.NormNum

set_option autoImplicit false

namespace Deliberation

/-- Exact rationals: nothing is rounded and nothing is undefined. -/
instance : Averaging ℚ where
  zero := 0
  one := 1
  add := (· + ·)
  mean sum count := sum / count
  betters best x := decide (best < x)
  ends best threshold := decide (best + 1 / 10 ^ 12 < threshold)

section Direct

variable {n : ℕ}

/-- The mean similarity between the items of two clusters. -/
def meanSimilarity (sim : Grid ℚ n) (a b : List (Fin n)) : ℚ :=
  (a.map fun i => (b.map fun k => sim i k).sum).sum / (a.length * b.length)

/-- The first two clusters that no others are more alike than. -/
def closest? (sim : Grid ℚ n) (clusters : List (List (Fin n))) :
    Option (List (Fin n) × List (Fin n)) :=
  (orderedPairs clusters).find? fun p =>
    (orderedPairs clusters).all fun q =>
      decide (meanSimilarity sim q.1 q.2 ≤ meanSimilarity sim p.1 p.2)

theorem closest?_eq_some_iff {sim : Grid ℚ n} {clusters : List (List (Fin n))}
    {p : List (Fin n) × List (Fin n)} :
    closest? sim clusters = some p ↔
      FirstGreatest (fun q => meanSimilarity sim q.1 q.2) (orderedPairs clusters) p :=
  FirstGreatest.find?_eq_some_iff

/-- The clusters after the first of two takes in the other. -/
def joined (clusters : List (List (Fin n))) (a b : List (Fin n)) : List (List (Fin n)) :=
  (clusters.erase b).map fun g => if g = a then a ++ b else g

theorem length_joined_lt {sim : Grid ℚ n} {clusters : List (List (Fin n))}
    {p : List (Fin n) × List (Fin n)} (found : closest? sim clusters = some p) :
    (joined clusters p.1 p.2).length < clusters.length := by
  have member := (mem_of_mem_orderedPairs (List.mem_of_find?_eq_some found)).2
  have positive := List.length_pos_of_mem member
  rw [joined, List.length_map, List.length_erase_of_mem member]
  omega

/-- Clusters joined until the greatest mean, with the slack, lies below the threshold. -/
def recomputed (sim : Grid ℚ n) (threshold : ℚ) (clusters : List (List (Fin n))) :
    List (List (Fin n)) :=
  match _found : closest? sim clusters with
  | none => clusters
  | some p =>
    if meanSimilarity sim p.1 p.2 + 1 / 10 ^ 12 < threshold then clusters
    else recomputed sim threshold (joined clusters p.1 p.2)
termination_by clusters.length
decreasing_by exact length_joined_lt _found

/-- Average linkage from single items on, every mean computed from the similarities. -/
def averageLinkage (sim : Grid ℚ n) (threshold : ℚ) : List (List (Fin n)) :=
  recomputed sim threshold ((List.finRange n).map fun i => [i])

end Direct

/-! ## The table holds the means -/

section Exact

variable {n : ℕ} {sim : Grid ℚ n}

theorem SumOf.eq_sum {s : Multiset ℚ} {x : ℚ} (h : SumOf s x) : x = s.sum := by
  induction h with
  | zero => rfl
  | single x => simp
  | add _ _ ihs iht =>
      rw [Multiset.sum_add, ← ihs, ← iht]
      rfl

theorem MeanOf.eq_mean {s : Multiset ℚ} {x : ℚ} (h : MeanOf s x) : x = s.sum / s.card := by
  rcases h with rfl | ⟨t, sum, rfl⟩
  · simp
  · rw [← sum.eq_sum]
    rfl

theorem sum_cross (a b : List (Fin n)) :
    (cross sim a b).sum = (a.map fun i => (b.map fun k => sim i k).sum).sum := by
  induction a with
  | nil => rfl
  | cons i rest ih =>
      rw [cross, ← Multiset.cons_coe, Multiset.cons_product, Multiset.map_add, Multiset.sum_add,
        Multiset.map_map, ← cross, ih]
      simp

theorem mean_cross (a b : List (Fin n)) :
    (cross sim a b).sum / (cross sim a b).card = meanSimilarity sim a b := by
  rw [sum_cross, card_cross, meanSimilarity]
  push_cast
  rfl

/-! ## One step of either algorithm is one of the other -/

namespace Clusters

variable {threshold : ℚ} {c c' : Clusters ℚ n} {m : Merge ℚ n}

/-- The average in the table is the mean computed from the items. -/
theorem Linked.averages_eq (h : c.Linked sim) {i k : Fin n} (hi : i ∈ c.live) (hk : k ∈ c.live)
    (different : i ≠ k) :
    c.averages i k = meanSimilarity sim (c.members.get i) (c.members.get k) := by
  rw [(h.averages i hi k hk different).eq_mean, mean_cross]

theorem comparable_candidates (c : Clusters ℚ n) : Comparable id c.candidates :=
  fun _ _ _ _ => rfl

/-- The two clusters that the table finds are those that the direct search finds. -/
theorem closest?_groups (sound : c.Sound) (linked : c.Linked sim) (best : c.best? = some m) :
    closest? sim c.groups = some (c.members.get m.survivor, c.members.get m.absorbed) ∧
      m.average = meanSimilarity sim (c.members.get m.survivor) (c.members.get m.absorbed) := by
  have found := best
  rw [best?_eq, foldl_better (comparable_candidates c), candidates] at found
  obtain ⟨p, rfl, first⟩ := found.of_map
  have average : ∀ q ∈ orderedPairs c.live, c.averages q.1 q.2 =
      meanSimilarity sim (c.members.get q.1) (c.members.get q.2) := by
    intro q hq
    obtain ⟨h₁, h₂⟩ := mem_of_mem_orderedPairs hq
    exact linked.averages_eq h₁ h₂ (rel_of_mem_orderedPairs sound.sorted hq).ne
  refine ⟨?_, average p first.mem⟩
  rw [closest?_eq_some_iff, groups, orderedPairs_map]
  exact (first.congr average).map

theorem closest?_groups_eq_none (nothing : c.best? = none) : closest? sim c.groups = none := by
  have empty : orderedPairs c.live = [] := List.map_eq_nil_iff.1 (candidates_eq_nil nothing)
  rw [closest?, groups, orderedPairs_map, empty]
  rfl

/-- Live clusters have different members. -/
theorem Sound.members_inj (h : c.Sound) {i k : Fin n} (hi : i ∈ c.live) (hk : k ∈ c.live) :
    c.members.get i = c.members.get k ↔ i = k := by
  constructor
  · intro same
    obtain ⟨rest, eq, -⟩ := h.first i hi
    have inI : i ∈ c.members.get i := by simp [eq]
    exact h.eq_of_mem hi hk inI (same ▸ inI)
  · rintro rfl
    rfl

/-- Joining two groups is merging their clusters. -/
theorem joined_groups (h : c.Sound) (candidate : m ∈ c.candidates) :
    joined c.groups (c.members.get m.survivor) (c.members.get m.absorbed) = (c.merge m).groups := by
  obtain ⟨survivorLive, absorbedLive⟩ := live_of_mem_candidates candidate
  have erased : c.groups.erase (c.members.get m.absorbed) =
      (c.live.erase m.absorbed).map c.members.get := by
    have nodup : c.groups.Nodup :=
      List.Nodup.map_on (fun i hi k hk => (h.members_inj hi hk).1) h.nodup_live
    rw [nodup.erase_eq_filter, h.nodup_live.erase_eq_filter, groups, List.filter_map]
    congr 1
    apply List.filter_congr
    intro k hk
    rw [Bool.eq_iff_iff]
    simp [h.members_inj hk absorbedLive]
  rw [joined, erased, groups, List.map_map]
  apply List.map_congr_left
  intro k left
  obtain ⟨notAbsorbed, live⟩ := (List.Nodup.mem_erase_iff h.nodup_live).1 left
  simp [members_merge, notAbsorbed, h.members_inj live survivorLive]

/-- A merge that the threshold does not end leaves the outcome of recomputing unchanged. -/
theorem recomputed_step (sound : c.Sound) (linked : c.Linked sim)
    (next : Step threshold c c') :
    recomputed sim threshold c.groups = recomputed sim threshold c'.groups := by
  obtain ⟨m, best, goesOn, rfl⟩ := step_iff.1 next
  obtain ⟨found, average⟩ := closest?_groups sound linked best
  have above : ¬m.average + 1 / 10 ^ 12 < threshold := of_decide_eq_false goesOn
  rw [recomputed, ← joined_groups sound (mem_candidates_of_best? best)]
  split
  · rename_i nothing
    rw [found] at nothing
    cases nothing
  · rename_i p found'
    rw [found] at found'
    obtain rfl := Option.some.inj found'
    rw [if_neg (by rwa [← average])]

/-- Where merging has ended, so has recomputing. -/
theorem recomputed_ended (sound : c.Sound) (linked : c.Linked sim)
    (ended : c.step? threshold = none) : recomputed sim threshold c.groups = c.groups := by
  rw [recomputed]
  split
  · rfl
  · rename_i p found
    cases best : c.best? with
    | none =>
        rw [closest?_groups_eq_none best] at found
        cases found
    | some m =>
        obtain ⟨found', average⟩ := closest?_groups sound linked best
        rw [found] at found'
        obtain rfl := Option.some.inj found'
        have below : m.average + 1 / 10 ^ 12 < threshold :=
          of_decide_eq_true (step?_eq_none_iff.1 ended m best)
        rw [if_pos (by rwa [← average])]

theorem recomputed_run (symmetric : sim.Symmetric)
    (reached : Run threshold (singletons sim) c) :
    recomputed sim threshold (singletons sim).groups = recomputed sim threshold c.groups := by
  induction reached with
  | refl => rfl
  | tail before next ih =>
      exact ih.trans (recomputed_step ((sound_singletons sim).run before)
        (linked_run symmetric before) next)

theorem groups_singletons (sim : Grid ℚ n) :
    (singletons sim).groups = (List.finRange n).map fun i => [i] :=
  List.map_congr_left fun i _ => members_singletons sim i

end Clusters

/-- **The table changes nothing**: linkage with sums updated in place makes the clusters that average
linkage makes when it computes every mean anew, in the same order. -/
theorem groups_agglomerate_eq (sim : Grid ℚ n) (symmetric : sim.Symmetric) (threshold : ℚ) :
    (agglomerate sim threshold).groups = averageLinkage sim threshold := by
  have reached := Clusters.run_agglomerate sim threshold
  rw [averageLinkage, ← Clusters.groups_singletons sim, Clusters.recomputed_run symmetric reached,
    Clusters.recomputed_ended (Clusters.sound_agglomerate sim threshold)
      (Clusters.linked_run symmetric reached) (Clusters.step?_agglomerate sim threshold)]

/-- Three items: the first is like the second, and less like the third, which is unlike the second. -/
def chain : Grid ℚ 3 := .ofFn fun i k =>
  if i = k then 1 else if i.val + k.val = 1 then 9 / 10 else if i.val + k.val = 2 then 6 / 10 else 0

theorem symmetric_chain : chain.Symmetric := by
  intro i k
  simp only [chain, Grid.get_ofFn, eq_comm, Nat.add_comm]

theorem averageLinkage_chain :
    chain.Symmetric ∧ (agglomerate chain (31 / 100)).groups = averageLinkage chain (31 / 100) ∧
      averageLinkage chain (31 / 100) = [[0, 1], [2]] :=
  ⟨symmetric_chain, groups_agglomerate_eq chain symmetric_chain _,
    (groups_agglomerate_eq chain symmetric_chain _).symm.trans (by decide +kernel)⟩

end Exact

end Deliberation
