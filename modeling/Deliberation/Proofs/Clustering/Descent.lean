/-
# Proofs.Clustering.Descent -- averages never rise again

Over exact rationals, the averages at which clusters are merged never increase from one merge to the
next (`averages_never_rise`).  So a threshold does no more than cut off the end of one sequence of merges.

The mean similarity of two merged clusters to a third one is the mean of the two old ones, weighted by
their sizes (`meanSimilarity_append`).  Both are at most the greatest, at which the two were merged, and so
is their mean: after a merge no two clusters are more alike than the merge was (`meanSimilarity_merge_le`).
-/
import Deliberation.Proofs.Clustering.Coherence
import Deliberation.Proofs.Clustering.Threshold

set_option autoImplicit false

namespace Deliberation

section Exact

variable {n : ℕ} {sim : Grid ℚ n} {a b d : List (Fin n)} {bound : ℚ}

/-- The update of average linkage: what was merged is as alike to a third cluster as its two parts on
average, each with the weight of its size. -/
theorem meanSimilarity_append (ha : a ≠ []) (hb : b ≠ []) (hd : d ≠ []) :
    meanSimilarity sim (a ++ b) d =
      (a.length * meanSimilarity sim a d + b.length * meanSimilarity sim b d) /
        (a.length + b.length) := by
  have positive {l : List (Fin n)} (h : l ≠ []) : (0 : ℚ) < l.length := by
    exact_mod_cast List.length_pos_iff.2 h
  have a0 := positive ha
  have b0 := positive hb
  have d0 := positive hd
  simp only [meanSimilarity, List.map_append, List.sum_append, List.length_append]
  push_cast
  field_simp

theorem meanSimilarity_append_le (ha : a ≠ []) (hb : b ≠ []) (hd : d ≠ [])
    (first : meanSimilarity sim a d ≤ bound) (second : meanSimilarity sim b d ≤ bound) :
    meanSimilarity sim (a ++ b) d ≤ bound := by
  have weights : (0 : ℚ) < a.length + b.length := by
    have := List.length_pos_iff.2 ha
    positivity
  rw [meanSimilarity_append ha hb hd, div_le_iff₀ weights]
  calc a.length * meanSimilarity sim a d + b.length * meanSimilarity sim b d
      ≤ a.length * bound + b.length * bound := by gcongr
    _ = bound * (a.length + b.length) := by ring

end Exact

namespace Clusters

section Runs

variable {α : Type} [Averaging α] {n : ℕ} {sim : Grid α n} {threshold : α} {c : Clusters α n}

/-- Every merge of a run is the best one in the state that the merges before it lead to. -/
theorem best?_of_run (reached : Run threshold (singletons sim) c) {before after : List (Merge α n)}
    {m : Merge α n} (split : c.merges.reverse = before ++ m :: after) :
    Run threshold (singletons sim) (before.foldl merge (singletons sim)) ∧
      (before.foldl merge (singletons sim)).best? = some m := by
  induction reached generalizing before m after with
  | refl => simp [singletons] at split
  | @tail c c' earlier next ih =>
      obtain ⟨last, best, -, rfl⟩ := step_iff.1 next
      obtain ⟨later, merges, state⟩ := merges_of_run earlier
      have all : c.merges.reverse = later := merges
      rw [merge, List.reverse_cons] at split
      -- either the last merge is meant or an earlier one
      rcases List.eq_nil_or_concat' after with rfl | ⟨after, x, rfl⟩
      · obtain ⟨rfl, same⟩ := List.append_inj' split rfl
        obtain rfl := (List.cons.inj same).1
        rw [all, ← state]
        exact ⟨earlier, best⟩
      · rw [← List.cons_append, ← List.append_assoc] at split
        exact ih (List.append_inj' split rfl).1

end Runs

/-! ## Runs over rationals -/

variable {n : ℕ} {sim : Grid ℚ n} {threshold : ℚ} {c c' : Clusters ℚ n} {m : Merge ℚ n}

/-- **After a merge no two clusters are more alike than the merge was.** -/
theorem meanSimilarity_merge_le (symmetric : sim.Symmetric) (sound : c.Sound) (linked : c.Linked sim)
    (best : c.best? = some m) {i k : Fin n} (hi : i ∈ (c.merge m).live) (hk : k ∈ (c.merge m).live)
    (different : i ≠ k) :
    meanSimilarity sim ((c.merge m).members.get i) ((c.merge m).members.get k) ≤ m.average := by
  have candidate := mem_candidates_of_best? best
  obtain ⟨survivorLive, absorbedLive⟩ := live_of_mem_candidates candidate
  have greatest {i k : Fin n} (hi : i ∈ c.live) (hk : k ∈ c.live) (different : i ≠ k) :=
    meanSimilarity_le_best symmetric sound linked best hi hk different
  have notNil {i : Fin n} (hi : i ∈ c.live) : c.members.get i ≠ [] :=
    List.ne_nil_of_length_pos (sound.members_pos hi)
  -- the survivor against a cluster that was not merged
  have grown {k : Fin n} (hk : k ∈ c.live) (kLeft : k ≠ m.absorbed) (other : k ≠ m.survivor) :
      meanSimilarity sim (c.members.get m.survivor ++ c.members.get m.absorbed) (c.members.get k) ≤
        m.average :=
    meanSimilarity_append_le (notNil survivorLive) (notNil absorbedLive) (notNil hk)
      (greatest survivorLive hk other.symm) (greatest absorbedLive hk kLeft.symm)
  obtain ⟨iLeft, hi⟩ := (List.Nodup.mem_erase_iff sound.nodup_live).1 hi
  obtain ⟨kLeft, hk⟩ := (List.Nodup.mem_erase_iff sound.nodup_live).1 hk
  rw [members_merge, members_merge, if_neg iLeft, if_neg kLeft]
  by_cases iSurvivor : i = m.survivor
  · subst iSurvivor
    rw [if_pos rfl, if_neg different.symm]
    exact grown hk kLeft different.symm
  · rw [if_neg iSurvivor]
    by_cases kSurvivor : k = m.survivor
    · subst kSurvivor
      rw [if_pos rfl, meanSimilarity_comm symmetric]
      exact grown hi iLeft different
    · rw [if_neg kSurvivor]
      exact greatest hi hk different

/-- The averages so far never rose, and no two clusters are more alike than the last merge was. -/
structure Descends (sim : Grid ℚ n) (c : Clusters ℚ n) : Prop where
  falling : c.merges.Pairwise fun later earlier => later.average ≤ earlier.average
  below : ∀ m ∈ c.merges, ∀ i ∈ c.live, ∀ k ∈ c.live, i ≠ k →
    meanSimilarity sim (c.members.get i) (c.members.get k) ≤ m.average

theorem Descends.step (h : c.Descends sim) (symmetric : sim.Symmetric) (sound : c.Sound)
    (linked : c.Linked sim) (next : Step threshold c c') : c'.Descends sim := by
  obtain ⟨m, best, -, rfl⟩ := step_iff.1 next
  have candidate := mem_candidates_of_best? best
  obtain ⟨survivorLive, absorbedLive⟩ := live_of_mem_candidates candidate
  have notAbove : ∀ earlier ∈ c.merges, m.average ≤ earlier.average := by
    intro earlier member
    rw [(closest?_groups sound linked best).2]
    exact h.below earlier member _ survivorLive _ absorbedLive
      (sound.survivor_lt_absorbed candidate).ne
  refine ⟨List.pairwise_cons.2 ⟨notAbove, h.falling⟩, ?_⟩
  intro earlier member i hi k hk different
  have now := meanSimilarity_merge_le symmetric sound linked best hi hk different
  rcases List.mem_cons.1 member with rfl | member
  · exact now
  · exact now.trans (notAbove earlier member)

theorem descends_run (symmetric : sim.Symmetric) (reached : Run threshold (singletons sim) c) :
    c.Descends sim := by
  induction reached with
  | refl => exact ⟨.nil, by simp [singletons]⟩
  | tail before next ih =>
      exact ih.step symmetric ((sound_singletons sim).run before) (linked_run symmetric before) next

/-- **Averages never rise again.**  Every merge is made at the mean similarity of its two clusters, and no
later merge is made at a greater one. -/
theorem averages_never_rise {n : ℕ} (sim : Grid ℚ n) (symmetric : sim.Symmetric) (threshold : ℚ) :
    (performed sim threshold).Pairwise (fun earlier later => later.average ≤ earlier.average) ∧
      ∀ before m after, performed sim threshold = before ++ m :: after →
        let c := before.foldl merge (singletons sim)
        c.best? = some m ∧
          m.average = meanSimilarity sim (c.members.get m.survivor) (c.members.get m.absorbed) := by
  have reached := run_agglomerate sim threshold
  refine ⟨List.pairwise_reverse.2 (descends_run symmetric reached).falling, ?_⟩
  intro before m after split
  obtain ⟨earlier, best⟩ := best?_of_run reached split
  exact ⟨best, (closest?_groups ((sound_singletons sim).run earlier) (linked_run symmetric earlier)
    best).2⟩

/-- The chain is merged at nine tenths and then at the mean of six tenths and nothing. -/
theorem chain_averages_fall :
    chain.Symmetric ∧ (performed chain 0).map Merge.average = [9 / 10, 3 / 10] ∧
      ((performed chain 0).map Merge.average).Pairwise fun earlier later => later ≤ earlier := by
  refine ⟨symmetric_chain, by decide +kernel, ?_⟩
  exact List.pairwise_map.2 (averages_never_rise chain symmetric_chain 0).1

end Clusters

end Deliberation
