/-
# Proofs.Clustering.Linked -- what the linkage table holds

`cross sim a b` collects the similarities between the items of two lists.  The table of sums is updated
in place, and only the survivor's averages are computed anew; still, after any number of merges, the
sum of two live clusters is a sum of the similarities between their items, and their average is a
mean of them (`Linked`, `linked_run`).  This needs the similarities to be symmetric, since a merge writes
the survivor's row of averages into its column.
-/
import Deliberation.Proofs.Clustering.Run
import Deliberation.Proofs.Clustering.Summation
import Mathlib.Data.Multiset.Bind

set_option autoImplicit false
set_option linter.unusedSectionVars false

namespace Deliberation

/-- Similarity does not depend on the order of the two items. -/
def Grid.Symmetric {α : Type} {n : ℕ} (sim : Grid α n) : Prop := ∀ i k, sim i k = sim k i

/-- The similarities between the items of two lists. -/
def cross {α : Type} {n : ℕ} (sim : Grid α n) (a b : List (Fin n)) : Multiset α :=
  ((a : Multiset (Fin n)) ×ˢ (b : Multiset (Fin n))).map fun p => sim p.1 p.2

section Cross

variable {α : Type} {n : ℕ} {sim : Grid α n} {a b d : List (Fin n)}

theorem cross_append_left : cross sim (a ++ b) d = cross sim a d + cross sim b d := by
  rw [cross, ← Multiset.coe_add, Multiset.add_product, Multiset.map_add]
  rfl

theorem cross_append_right : cross sim d (a ++ b) = cross sim d a + cross sim d b := by
  rw [cross, ← Multiset.coe_add, Multiset.product_add, Multiset.map_add]
  rfl

theorem cross_singleton (i k : Fin n) : cross sim [i] [k] = {sim i k} := rfl

theorem cross_comm (symmetric : sim.Symmetric) : cross sim a b = cross sim b a := by
  rw [cross, cross, ← Multiset.map_swap_product, Multiset.map_map]
  exact Multiset.map_congr rfl fun p _ => (symmetric p.1 p.2).symm

@[simp] theorem card_cross : (cross sim a b).card = a.length * b.length := by
  rw [cross, Multiset.card_map, Multiset.card_product]
  rfl

theorem mem_cross {x : α} : x ∈ cross sim a b ↔ ∃ i ∈ a, ∃ k ∈ b, sim i k = x := by
  simp [cross, and_assoc]

end Cross

namespace Clusters

variable {α : Type} [Averaging α] {n : ℕ} {sim : Grid α n} {threshold : α} {c c' : Clusters α n}
  {m : Merge α n}

/-- Sums and averages of live clusters are those of the similarities between their items. -/
structure Linked (sim : Grid α n) (c : Clusters α n) : Prop where
  sums : ∀ i ∈ c.live, ∀ k ∈ c.live, i ≠ k →
    SumOf (cross sim (c.members.get i) (c.members.get k)) (c.sums i k)
  averages : ∀ i ∈ c.live, ∀ k ∈ c.live, i ≠ k →
    MeanOf (cross sim (c.members.get i) (c.members.get k)) (c.averages i k)

theorem linked_singletons (sim : Grid α n) : (singletons sim).Linked sim where
  sums i _ k _ _ := by
    rw [members_singletons, members_singletons, cross_singleton]
    exact .single _
  averages i _ k _ _ := by
    rw [members_singletons, members_singletons, cross_singleton]
    exact .inl rfl

/-- The sums after a merge, for two different live clusters. -/
theorem Linked.sums_merge (h : c.Linked sim) (sound : c.Sound) (candidate : m ∈ c.candidates)
    {i k : Fin n} (hi : i ∈ (c.merge m).live) (hk : k ∈ (c.merge m).live) (different : i ≠ k) :
    SumOf (cross sim ((c.merge m).members.get i) ((c.merge m).members.get k))
      ((c.merge m).sums i k) := by
  obtain ⟨survivorLive, absorbedLive⟩ := live_of_mem_candidates candidate
  obtain ⟨iLeft, hi⟩ := (List.Nodup.mem_erase_iff sound.nodup_live).1 hi
  obtain ⟨kLeft, hk⟩ := (List.Nodup.mem_erase_iff sound.nodup_live).1 hk
  rw [members_merge, members_merge, if_neg iLeft, if_neg kLeft, Clusters.sums_merge]
  simp only [mergedSums, Grid.get_ofFn]
  by_cases iSurvivor : i = m.survivor
  · -- The survivor's row: the rows of both, added.
    subst iSurvivor
    rw [if_pos rfl, if_neg different.symm, if_neg different.symm, if_pos rfl, cross_append_left]
    exact (h.sums _ survivorLive k hk different).add (h.sums _ absorbedLive k hk kLeft.symm)
  · by_cases kSurvivor : k = m.survivor
    · -- The survivor's column: the columns of both, added.
      subst kSurvivor
      rw [if_neg iSurvivor, if_pos rfl, if_pos rfl, if_neg iSurvivor, if_neg iSurvivor,
        cross_append_right]
      exact (h.sums i hi _ survivorLive iSurvivor).add (h.sums i hi _ absorbedLive iLeft)
    · rw [if_neg iSurvivor, if_neg kSurvivor, if_neg kSurvivor, if_neg iSurvivor]
      exact h.sums i hi k hk different

/-- **A merge keeps the table right.** -/
theorem Linked.merge (h : c.Linked sim) (sound : c.Sound) (symmetric : sim.Symmetric)
    (candidate : m ∈ c.candidates) : (c.merge m).Linked sim := by
  have survivorLive : m.survivor ∈ (c.merge m).live :=
    (List.mem_erase_of_ne (sound.survivor_lt_absorbed candidate).ne).2
      (live_of_mem_candidates candidate).1
  refine ⟨fun i hi k hk different => h.sums_merge sound candidate hi hk different, ?_⟩
  intro i hi k hk different
  rw [averages_merge]
  split_ifs with iSurvivor kSurvivor
  · subst iSurvivor
    exact .inr ⟨_, h.sums_merge sound candidate hi hk different, by rw [card_cross]⟩
  · subst kSurvivor
    rw [cross_comm symmetric]
    exact .inr ⟨_, h.sums_merge sound candidate hk hi different.symm, by rw [card_cross]⟩
  · obtain ⟨iLeft, hi⟩ := (List.Nodup.mem_erase_iff sound.nodup_live).1 hi
    obtain ⟨kLeft, hk⟩ := (List.Nodup.mem_erase_iff sound.nodup_live).1 hk
    rw [members_merge, members_merge, if_neg iLeft, if_neg kLeft, if_neg iSurvivor,
      if_neg kSurvivor]
    exact h.averages i hi k hk different

theorem Linked.step (h : c.Linked sim) (sound : c.Sound) (symmetric : sim.Symmetric)
    (next : Step threshold c c') : c'.Linked sim := by
  obtain ⟨m, best, -, rfl⟩ := step_iff.1 next
  exact h.merge sound symmetric (mem_candidates_of_best? best)

theorem linked_run (symmetric : sim.Symmetric) (reached : Run threshold (singletons sim) c) :
    c.Linked sim := by
  induction reached with
  | refl => exact linked_singletons sim
  | tail before next ih => exact ih.step ((sound_singletons sim).run before) symmetric next

end Clusters

end Deliberation
