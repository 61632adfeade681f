/-
# Proofs.Clustering.Threshold -- a lower threshold only merges further

The threshold does not choose merges, it ends them, and what a threshold does not end a lower one does
not end either (`ends_of_le`).  So a run under the higher threshold is a run under the lower one, which
goes on from where the higher one has ended (`run_agglomerate_of_le`).

Along a run the members of a cluster only grow, by lists put before them and behind them
(`infix_of_run`).  A group that is large enough stays within one that is large enough, so an id that is
clustered stays clustered.
-/
import Deliberation.Proofs.Clustering.Placement

set_option autoImplicit false

namespace Deliberation

open Binary64

namespace Clusters

section Runs

variable {n : ℕ} {low high : Binary64} {c c' : Clusters Binary64 n}

theorem step_of_le (le : low ≤ high) (h : Step high c c') : Step low c c' := by
  obtain ⟨m, best, goes, rfl⟩ := step_iff.1 h
  refine step_iff.2 ⟨m, best, ?_, rfl⟩
  by_contra ends
  rw [Bool.not_eq_false] at ends
  rw [ends_of_le le ends] at goes
  cases goes

theorem run_of_le (le : low ≤ high) (h : Run high c c') : Run low c c' := by
  induction h with
  | refl => exact .refl
  | tail _ next ih => exact ih.tail (step_of_le le next)

/-- The lower threshold goes on from where the higher one has ended. -/
theorem run_agglomerate_of_le (le : low ≤ high) (sim : Grid Binary64 n) :
    Run low (agglomerate sim high) (agglomerate sim low) :=
  run_of_ended (run_of_le le (run_agglomerate sim high)) (run_agglomerate sim low)
    (step?_agglomerate sim low)

end Runs

/-! ## The merges of a run -/

section Merges

variable {α : Type} [Averaging α] {n : ℕ} {threshold : α} {c c' : Clusters α n}

/-- A run carries out the merges that it adds to those before. -/
theorem merges_of_run (h : Run threshold c c') :
    ∃ later, c'.merges.reverse = c.merges.reverse ++ later ∧ c' = later.foldl merge c := by
  induction h with
  | refl => exact ⟨[], by simp, rfl⟩
  | tail _ next ih =>
      obtain ⟨later, merges, rfl⟩ := ih
      obtain ⟨m, -, -, rfl⟩ := step_iff.1 next
      refine ⟨later ++ [m], ?_, by rw [List.foldl_append]; rfl⟩
      rw [← List.append_assoc, ← merges]
      exact List.reverse_cons

/-- The merges that agglomeration carries out, in order. -/
def performed (sim : Grid α n) (threshold : α) : List (Merge α n) :=
  (agglomerate sim threshold).merges.reverse

/-! ## Members only grow -/

/-- One merge keeps the members of a cluster together in one cluster. -/
theorem infix_of_step (sound : c.Sound) (next : Step threshold c c') {i : Fin n} (live : i ∈ c.live) :
    ∃ k ∈ c'.live, c.members.get i <:+: c'.members.get k := by
  obtain ⟨m, best, -, rfl⟩ := step_iff.1 next
  have candidate := mem_candidates_of_best? best
  have less := sound.survivor_lt_absorbed candidate
  have survivor : m.survivor ∈ (c.merge m).live :=
    (List.mem_erase_of_ne less.ne).2 (live_of_mem_candidates candidate).1
  have joined : (c.merge m).members.get m.survivor =
      c.members.get m.survivor ++ c.members.get m.absorbed := by
    rw [members_merge, if_neg less.ne, if_pos rfl]
  by_cases isAbsorbed : i = m.absorbed
  · refine ⟨m.survivor, survivor, ?_⟩
    rw [isAbsorbed, joined]
    exact (List.suffix_append _ _).isInfix
  · by_cases isSurvivor : i = m.survivor
    · refine ⟨m.survivor, survivor, ?_⟩
      rw [isSurvivor, joined]
      exact (List.prefix_append _ _).isInfix
    · refine ⟨i, (List.mem_erase_of_ne isAbsorbed).2 live, ?_⟩
      rw [members_merge, if_neg isAbsorbed, if_neg isSurvivor]

theorem infix_of_run (sound : c.Sound) (reached : Run threshold c c') {i : Fin n}
    (live : i ∈ c.live) : ∃ k ∈ c'.live, c.members.get i <:+: c'.members.get k := by
  induction reached with
  | refl => exact ⟨i, live, List.infix_rfl⟩
  | tail before next ih =>
      obtain ⟨k, hk, inside⟩ := ih
      obtain ⟨k', hk', inside'⟩ := infix_of_step (sound.run before) next hk
      exact ⟨k', hk', inside.trans inside'⟩

/-- A group lies within exactly one of the groups of a later state. -/
theorem existsUnique_group (sound : c.Sound) (reached : Run threshold c c') {g : List (Fin n)}
    (member : g ∈ c.groups) : ∃! h, h ∈ c'.groups ∧ g <:+: h := by
  have notNil := sound.ne_nil member
  obtain ⟨i, live, rfl⟩ := List.mem_map.1 member
  obtain ⟨k, hk, inside⟩ := infix_of_run sound reached live
  refine ⟨c'.members.get k, ⟨List.mem_map_of_mem hk, inside⟩, ?_⟩
  rintro h ⟨hh, inside'⟩
  obtain ⟨k', hk', rfl⟩ := List.mem_map.1 hh
  obtain ⟨x, hx⟩ := List.exists_mem_of_ne_nil _ notNil
  rw [(sound.run reached).eq_of_mem hk hk' (inside.subset hx) (inside'.subset hx)]

end Merges

end Clusters

/-! ## Reports -/

/-- Every cluster of one report lies within exactly one cluster of another, and what the one clusters
the other clusters too. -/
structure Coarsens (coarse fine : ClusterReport) : Prop where
  within : ∀ k ∈ fine.clusters,
    ∃! k', k' ∈ coarse.clusters ∧ k.propositionIds <:+: k'.propositionIds
  kept : ∀ id ∈ fine.clusters.flatMap Cluster.propositionIds,
    id ∈ coarse.clusters.flatMap Cluster.propositionIds

namespace Clustering

variable {c : Clustering} {topic : Value} {ps : List Proposition} {low high : Binary64}

/-- A group at the higher threshold lies within one at the lower. -/
theorem exists_group_of_le (le : low ≤ high) {n : ℕ} {sim : Grid Binary64 n} {g : List (Fin n)}
    (member : g ∈ c.groups sim high) : ∃ h ∈ c.groups sim low, g <:+: h := by
  obtain ⟨member, large⟩ := mem_groups_iff.1 member
  obtain ⟨h, ⟨hh, inside⟩, -⟩ := Clusters.existsUnique_group (Clusters.sound_agglomerate sim high)
    (Clusters.run_agglomerate_of_le le sim) member
  have longer : (g.length : ℤ) ≤ h.length := by exact_mod_cast inside.length_le
  exact ⟨h, mem_groups_iff.2 ⟨hh, large.trans longer⟩, inside⟩

theorem coarsens_report (le : low ≤ high) (nodup : (ps.map Proposition.id).Nodup)
    {rLow rHigh : ClusterReport} (hLow : c.report topic ps low = .ok rLow)
    (hHigh : c.report topic ps high = .ok rHigh) : Coarsens rLow rHigh := by
  obtain ⟨lowClusters, -⟩ := report_eq_ok_iff.1 hLow
  obtain ⟨highClusters, -⟩ := report_eq_ok_iff.1 hHigh
  have within : ∀ k ∈ rHigh.clusters, ∃! k', k' ∈ rLow.clusters ∧
      k.propositionIds <:+: k'.propositionIds := by
    intro k hk
    obtain ⟨first, others, ids, -⟩ := exists_earliest nodup highClusters hk
    have firstIn : first ∈ k.propositionIds := by simp [ids]
    obtain ⟨g, hg, kIds⟩ := exists_group highClusters hk
    obtain ⟨h, hh, inside⟩ := exists_group_of_le le hg
    have image := List.mem_map_of_mem (f := fun g => g.map (idAt ps)) hh
    rw [← map_propositionIds lowClusters] at image
    obtain ⟨k', hk', hIds⟩ := List.mem_map.1 image
    have part : k.propositionIds <:+: k'.propositionIds := by
      rw [kIds, hIds]
      exact inside.map _
    refine ⟨k', ⟨hk', part⟩, ?_⟩
    rintro k'' ⟨hk'', part'⟩
    exact eq_of_mem_flatMap (clustered_spec nodup lowClusters).1 hk'' hk' (part'.subset firstIn)
      (part.subset firstIn)
  refine ⟨within, ?_⟩
  intro id member
  obtain ⟨k, hk, idIn⟩ := List.mem_flatMap.1 member
  obtain ⟨k', ⟨hk', part⟩, -⟩ := within k hk
  exact List.mem_flatMap.2 ⟨k', hk', part.subset idIn⟩

/-- **Lowering the threshold only merges further.**  On any similarities the merges at the higher
threshold come first among those at the lower one, and each group lies, item after item, within exactly
one group.  On any accepted list the clusters do the same, whatever the least size, and no id is
clustered no longer. -/
theorem lower_threshold_only_merges (le : low ≤ high) :
    (∀ {n : ℕ} (sim : Grid Binary64 n),
      Clusters.performed sim high <+: Clusters.performed sim low ∧
        ∀ g ∈ (agglomerate sim high).groups, ∃! h, h ∈ (agglomerate sim low).groups ∧ g <:+: h) ∧
    ∀ (c : Clustering) (topic : Value) {v givenLow givenHigh : Value} {ps : List Proposition},
      readPropositions v = .ok ps → c.threshold givenLow = .ok low →
      c.threshold givenHigh = .ok high →
      (ps.length < maxItems → ∃ rLow rHigh, c.run topic v givenLow = .ok rLow ∧
        c.run topic v givenHigh = .ok rHigh) ∧
      ∀ rLow rHigh, c.run topic v givenLow = .ok rLow → c.run topic v givenHigh = .ok rHigh →
        Coarsens rLow rHigh := by
  constructor
  · intro n sim
    have goesOn := Clusters.run_agglomerate_of_le le sim
    obtain ⟨later, merges, -⟩ := Clusters.merges_of_run goesOn
    refine ⟨⟨later, merges.symm⟩, ?_⟩
    intro g member
    exact Clusters.existsUnique_group (Clusters.sound_agglomerate sim high) goesOn member
  · intro c topic v givenLow givenHigh ps accepted atLow atHigh
    simp only [run_eq_ok_iff accepted atLow, run_eq_ok_iff accepted atHigh]
    constructor
    · intro fits
      obtain ⟨rLow, hLow⟩ := exists_report c topic low fits
      obtain ⟨rHigh, hHigh⟩ := exists_report c topic high fits
      exact ⟨rLow, rHigh, hLow, hHigh⟩
    · intro rLow rHigh hLow hHigh
      exact coarsens_report le (nodup_ids accepted) hLow hHigh

theorem threeStatements_coarsen :
    finite 0 ≤ ofDecimal 4 1 ∧
    ∃ rLow rHigh, default.run .null threeStatements (.whole 0) = .ok rLow ∧
      default.run .null threeStatements (.real (.ofDecimal 4 1)) = .ok rHigh ∧
      division rLow = ([["p1", "p3", "p2"]], []) ∧ division rHigh = ([["p1", "p3"]], ["p2"]) ∧
      Coarsens rLow rHigh := by
  have le : finite 0 ≤ ofDecimal 4 1 := by decide
  refine ⟨le, ?_⟩
  obtain ⟨answered, coarsens⟩ := (lower_threshold_only_merges le).2 default .null
    (show readPropositions threeStatements = .ok [⟨"p1", "Carbon taxes work", none⟩,
      ⟨"p2", "Schools need teachers", none⟩, ⟨"p3", "Carbon taxes fail", none⟩] from rfl)
    (show default.threshold (.whole 0) = .ok (finite 0) from rfl)
    (show default.threshold (.real (.ofDecimal 4 1)) = .ok (.ofDecimal 4 1) from rfl)
  obtain ⟨rLow, rHigh, hLow, hHigh⟩ := answered (by decide)
  have low : (default.run .null threeStatements (.whole 0)).toOption.map division =
      some ([["p1", "p3", "p2"]], []) := by decide +kernel
  have high : (default.run .null threeStatements (.real (.ofDecimal 4 1))).toOption.map division =
      some ([["p1", "p3"]], ["p2"]) := by decide +kernel
  rw [hLow] at low
  rw [hHigh] at high
  exact ⟨rLow, rHigh, hLow, hHigh, Option.some.inj low, Option.some.inj high,
    coarsens rLow rHigh hLow hHigh⟩

end Clustering

end Deliberation
