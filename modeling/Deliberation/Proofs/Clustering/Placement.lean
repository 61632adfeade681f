/-
# Proofs.Clustering.Placement -- every id is placed once

`Placement` is what a report owes to the ids that it was asked about: it places each of them in one
cluster or leaves it out, keeps to the least size, and keeps to the order of the input, in which the
first id of a cluster is its earliest one.  The division of the items among the live clusters
(`Clusters.Sound`) carries over to ids because the ids of an accepted list are all different.
-/
import Deliberation.Proofs.Clustering.Answers
import Deliberation.Proofs.Proposition.Accepted

set_option autoImplicit false

namespace Deliberation

/-- A list in two parts, those that are in a selection and those that are not. -/
theorem append_filter_perm {selected all : List String} (nodup : all.Nodup)
    (once : selected.Nodup) (subset : selected ⊆ all) :
    (selected ++ all.filter fun x => !selected.contains x).Perm all := by
  have apart : selected.Disjoint (all.filter fun x => !selected.contains x) := by
    intro x inside outside
    simp [inside] at outside
  rw [List.perm_ext_iff_of_nodup (once.append (nodup.filter _) apart) nodup]
  intro x
  by_cases inside : x ∈ selected
  · simp [inside, subset inside]
  · simp [inside]

/-- What a report on given ids owes to them, with clusters of a least size. -/
structure Placement (minSize : ℤ) (ids : List String) (r : ClusterReport) : Prop where
  /-- Clusters and rest together are the ids in another order. -/
  placed : (r.clusters.flatMap Cluster.propositionIds ++ r.unclustered).Perm ids
  counted : (r.clusters.map Cluster.size).sum + r.unclustered.length = ids.length
  sizes : ∀ k ∈ r.clusters,
    k.toValue.field "size" = .whole k.propositionIds.length ∧ minSize ≤ k.propositionIds.length
  /-- The rest keeps the order of the input. -/
  rest : r.unclustered.Sublist ids
  /-- A cluster begins with its earliest id. -/
  earliest : ∀ k ∈ r.clusters, ∃ first others, k.propositionIds = first :: others ∧
    ∀ id ∈ others, ids.idxOf first < ids.idxOf id
  /-- The clusters stand in the order of their first ids. -/
  ordered : r.clusters.Pairwise fun k k' => ∀ first ∈ k.propositionIds.head?,
    ∀ first' ∈ k'.propositionIds.head?, ids.idxOf first < ids.idxOf first'

namespace Clustering

variable {c : Clustering} {ps : List Proposition} {t : Binary64}

theorem exists_earliest {cs : List Cluster} (nodup : (ps.map Proposition.id).Nodup)
    (h : c.clusters ps t = .ok cs) {k : Cluster} (member : k ∈ cs) :
    ∃ first others, k.propositionIds = first :: others ∧
      ∀ id ∈ others, (ps.map Proposition.id).idxOf first < (ps.map Proposition.id).idxOf id := by
  obtain ⟨g, hg, ids⟩ := exists_group h member
  obtain ⟨i, rest, rfl, after⟩ :=
    (Clusters.sound_agglomerate _ _).exists_cons (mem_groups_iff.1 hg).1
  refine ⟨idAt ps i, rest.map (idAt ps), ids, ?_⟩
  intro id hid
  obtain ⟨k, hk, rfl⟩ := List.mem_map.1 hid
  rw [idxOf_idAt nodup, idxOf_idAt nodup]
  exact after k hk

theorem pairwise_clusters {cs : List Cluster} (nodup : (ps.map Proposition.id).Nodup)
    (h : c.clusters ps t = .ok cs) :
    cs.Pairwise fun k k' => ∀ first ∈ k.propositionIds.head?, ∀ first' ∈ k'.propositionIds.head?,
      (ps.map Proposition.id).idxOf first < (ps.map Proposition.id).idxOf first' := by
  have groups := (Clusters.sound_agglomerate (table ps) t).pairwise_groups.sublist
    (List.filter_sublist (p := fun g => decide (c.minSize ≤ g.length)))
  rw [← List.pairwise_map (f := Cluster.propositionIds)
    (R := fun a b => ∀ first ∈ a.head?, ∀ first' ∈ b.head?,
      (ps.map Proposition.id).idxOf first < (ps.map Proposition.id).idxOf first'),
    map_propositionIds h, List.pairwise_map]
  apply groups.imp
  intro g g' less first hfirst first' hfirst'
  rw [List.head?_map, Option.mem_map] at hfirst hfirst'
  obtain ⟨i, hi, rfl⟩ := hfirst
  obtain ⟨k, hk, rfl⟩ := hfirst'
  rw [idxOf_idAt nodup, idxOf_idAt nodup]
  exact less i hi k hk

/-! ## Reports -/

/-- A report on propositions with different ids. -/
theorem placement_report {topic : Value} {r : ClusterReport}
    (nodup : (ps.map Proposition.id).Nodup) (h : c.report topic ps t = .ok r) :
    Placement c.minSize (ps.map Proposition.id) r := by
  obtain ⟨hcs, -⟩ := report_eq_ok_iff.1 h
  have unclustered := unclustered_eq h
  obtain ⟨once, subset⟩ := clustered_spec nodup hcs
  have placed : (r.clusters.flatMap Cluster.propositionIds ++ r.unclustered).Perm
      (ps.map Proposition.id) := unclustered ▸ append_filter_perm nodup once subset
  refine ⟨placed, ?_, ?_, ?_, ?_, ?_⟩
  · rw [← placed.length_eq, List.length_append, List.length_flatMap]
    rfl
  · intro k member
    obtain ⟨g, hg, ids⟩ := exists_group hcs member
    refine ⟨rfl, ?_⟩
    rw [ids, List.length_map]
    exact (mem_groups_iff.1 hg).2
  · rw [unclustered]
    exact List.filter_sublist
  · intro k member
    exact exists_earliest nodup hcs member
  · exact pairwise_clusters nodup hcs

/-- **Clustering an accepted list places every id once**, whatever the threshold in the unit interval
and the least size.  It has an answer for every list of a length that there can be. -/
theorem places_every_id (c : Clustering) (topic : Value) {v given : Value}
    (accepted : readPropositions v = .ok ps) (within : c.threshold given = .ok t) :
    (ps.length < maxItems → ∃ r, c.run topic v given = .ok r) ∧
      ∀ r, c.run topic v given = .ok r → Placement c.minSize (ps.map Proposition.id) r := by
  simp only [run_eq_ok_iff accepted within]
  exact ⟨exists_report c topic t, fun r h => placement_report (nodup_ids accepted) h⟩

def carbonTaxesWork : Value := Proposition.toValue ⟨"p1", "Carbon taxes work", none⟩

def schoolsNeedTeachers : Value := Proposition.toValue ⟨"p2", "Schools need teachers", none⟩

def carbonTaxesFail : Value := Proposition.toValue ⟨"p3", "Carbon taxes fail", none⟩

/-- Two statements on one topic around one on another. -/
def threeStatements : Value := .list [carbonTaxesWork, schoolsNeedTeachers, carbonTaxesFail]

/-- The ids of each cluster, and those that are left out. -/
def division (r : ClusterReport) : List (List String) × List String :=
  (r.clusters.map Cluster.propositionIds, r.unclustered)

theorem threeStatements_placed :
    readPropositions threeStatements = .ok [⟨"p1", "Carbon taxes work", none⟩,
      ⟨"p2", "Schools need teachers", none⟩, ⟨"p3", "Carbon taxes fail", none⟩] ∧
    default.threshold .null = .ok (.ofDecimal 2 1) ∧
    ∃ r, default.run .null threeStatements .null = .ok r ∧
      division r = ([["p1", "p3"]], ["p2"]) ∧ Placement 2 ["p1", "p2", "p3"] r := by
  refine ⟨rfl, rfl, ?_⟩
  obtain ⟨answered, placed⟩ := places_every_id default .null
    (show readPropositions threeStatements = .ok [⟨"p1", "Carbon taxes work", none⟩,
      ⟨"p2", "Schools need teachers", none⟩, ⟨"p3", "Carbon taxes fail", none⟩] from rfl)
    (show default.threshold .null = .ok (.ofDecimal 2 1) from rfl)
  obtain ⟨r, h⟩ := answered (by decide)
  have divided : (default.run .null threeStatements .null).toOption.map division =
      some ([["p1", "p3"]], ["p2"]) := by decide +kernel
  rw [h] at divided
  exact ⟨r, h, Option.some.inj divided, placed r h⟩

end Clustering

end Deliberation
