/-
# Proofs.Clustering.Answers -- every accepted list gets its report

`report_eq_ok_iff` takes a report apart: the clusters are those of the groups, one after the other, each
with the ids of its items, and the rest follows from them.  `exists_report` says that there is one.  All
that could fail on the way is rounding a score that overflowed or is undefined.  No score is: every cohesion
lies in the unit interval, and so does the quality, seven tenths of a mean of them and three tenths of a share,
since the doubles for both are below the decimals (`scores_of_report`).
-/
import Deliberation.Clustering.Report
import Deliberation.Proofs.Clustering.Cohesion
import Deliberation.Proofs.Clustering.Similarities

set_option autoImplicit false

namespace Deliberation

open Binary64

/-- The cluster without its running number. -/
def Cluster.unnumbered (k : Cluster) : Cluster := { k with id := "" }

namespace Clustering

variable {c : Clustering} {topic : Value} {ps : List Proposition} {t : Binary64}

/-! ## The clusters of the groups -/

/-- The keywords of every proposition. -/
def keywordSets (ps : List Proposition) : List (List String) := ps.map fun p => keywords p.statement

theorem length_keywordSets (ps : List Proposition) : (keywordSets ps).length = ps.length := by
  simp [keywordSets]

/-- The proposition that an index stands for. -/
def itemAt (ps : List Proposition) (i : Fin (keywordSets ps).length) : Proposition :=
  ps.get (i.cast (length_keywordSets ps))

/-- The id of an item. -/
def idAt (ps : List Proposition) (i : Fin (keywordSets ps).length) : String := (itemAt ps i).id

/-- The similarities of the propositions. -/
abbrev table (ps : List Proposition) : Grid Binary64 (keywordSets ps).length :=
  similarities (keywordSets ps)

/-- The cluster of a group under a running number and with a score. -/
def summary (ps : List Proposition) (group : List (Fin (keywordSets ps).length)) (k : ℕ)
    (score : Binary64) : Cluster :=
  let ranked := rankKeywords (group.map fun i => (keywordSets ps)[i]) maxKeywords
  { id := "cluster-" ++ natDigits (k + 1)
    theme := themeOf ranked
    propositionIds := group.map (idAt ps)
    cohesion := score
    keywords := ranked }

/-- The score of a group: its cohesion in hundredths. -/
def scoreOf (ps : List Proposition) (group : List (Fin (keywordSets ps).length)) :
    Except NumberFault Binary64 :=
  (Number.real (cohesion (table ps) group)).roundHalfUp 2

theorem clusters_eq (c : Clustering) (ps : List Proposition) (t : Binary64) :
    c.clusters ps t = (c.groups (table ps) t).zipIdx.mapM fun p =>
      summary ps p.1 p.2 <$> scoreOf ps p.1 := by
  have same : (fun p : List (Fin (keywordSets ps).length) × ℕ =>
      summary ps p.1 p.2 <$> scoreOf ps p.1) = fun p => do
        return summary ps p.1 p.2 (← scoreOf ps p.1) := by
    funext p
    cases scoreOf ps p.1 <;> rfl
  rw [same]
  rfl

theorem clusters_eq_ok_iff {cs : List Cluster} :
    c.clusters ps t = .ok cs ↔
      List.Forall₂ (fun p cluster => ∃ score, scoreOf ps p.1 = .ok score ∧
        summary ps p.1 p.2 score = cluster) (c.groups (table ps) t).zipIdx cs := by
  rw [clusters_eq, mapM_eq_ok_iff]
  simp only [map_eq_ok_iff]

/-- What does not depend on a cluster's number is the same for its group. -/
theorem map_clusters {β : Type} {f : Cluster → β} {g : List (Fin (keywordSets ps).length) → β}
    {cs : List Cluster} (h : c.clusters ps t = .ok cs)
    (same : ∀ group k score, scoreOf ps group = .ok score →
      g group = f (summary ps group k score)) :
    cs.map f = (c.groups (table ps) t).map g := by
  have each := (clusters_eq_ok_iff.1 h).imp fun p cluster ⟨score, answer, made⟩ =>
    show g p.1 = f cluster from made ▸ same p.1 p.2 score answer
  calc cs.map f = (c.groups (table ps) t).zipIdx.map fun p => g p.1 :=
        (map_eq_map_of_forall₂ each).symm
    _ = ((c.groups (table ps) t).zipIdx.map Prod.fst).map g := by rw [List.map_map]; rfl
    _ = (c.groups (table ps) t).map g := by rw [List.zipIdx_map_fst]

/-- The ids of the clusters are those of the groups' items. -/
theorem map_propositionIds {cs : List Cluster} (h : c.clusters ps t = .ok cs) :
    cs.map Cluster.propositionIds =
      (c.groups (table ps) t).map fun g => g.map (idAt ps) :=
  map_clusters h fun _ _ _ _ => rfl

/-- The cluster of a group without its running number. -/
def described (ps : List Proposition) (group : List (Fin (keywordSets ps).length)) : Cluster :=
  (summary ps group 0 ((scoreOf ps group).toOption.getD (finite 0))).unnumbered

theorem map_unnumbered {cs : List Cluster} (h : c.clusters ps t = .ok cs) :
    cs.map Cluster.unnumbered = (c.groups (table ps) t).map (described ps) :=
  map_clusters h fun group k score answer => by
    rw [described, answer]
    rfl

/-! ## Items and their ids -/

theorem keywordSets_get (ps : List Proposition) (i : Fin (keywordSets ps).length) :
    getElem (keywordSets ps) i i.isLt = keywords (itemAt ps i).statement := by
  exact List.getElem_map (fun p : Proposition => keywords p.statement)

/-- The items, one by one, are the propositions. -/
theorem map_itemAt (ps : List Proposition) :
    (List.finRange (keywordSets ps).length).map (itemAt ps) = ps := by
  refine List.ext_getElem (by simp [length_keywordSets]) fun i _ _ => ?_
  simp [itemAt]

theorem map_idAt (ps : List Proposition) :
    (List.finRange (keywordSets ps).length).map (idAt ps) = ps.map Proposition.id := by
  conv_rhs => rw [← map_itemAt ps, List.map_map]
  rfl

/-- Among different ids the place of an item's id is the item. -/
theorem idxOf_idAt (nodup : (ps.map Proposition.id).Nodup) (i : Fin (keywordSets ps).length) :
    (ps.map Proposition.id).idxOf (idAt ps i) = i := by
  have bound : i.val < (ps.map Proposition.id).length := by
    simpa [length_keywordSets] using i.isLt
  have at_ : (ps.map Proposition.id)[i.val] = idAt ps i := by
    simp [idAt, itemAt]
  rw [← at_]
  exact nodup.idxOf_getElem i.val bound

theorem idAt_injective (nodup : (ps.map Proposition.id).Nodup) : Function.Injective (idAt ps) := by
  intro i k same
  rw [Fin.ext_iff, ← idxOf_idAt nodup i, ← idxOf_idAt nodup k, same]

/-- The ids in clusters are those of the items in groups. -/
theorem flatMap_propositionIds {cs : List Cluster} (h : c.clusters ps t = .ok cs) :
    cs.flatMap Cluster.propositionIds =
      (c.groups (table ps) t).flatten.map (idAt ps) := by
  rw [List.flatMap_def, map_propositionIds h, List.map_flatten]

theorem nodup_flatten_groups (c : Clustering) (ps : List Proposition) (t : Binary64) :
    (c.groups (table ps) t).flatten.Nodup :=
  (Clusters.sound_agglomerate (table ps) t).nodup_flatten.sublist List.filter_sublist.flatten

/-- A clustered id is an id of the input, and clustered once. -/
theorem clustered_spec {cs : List Cluster} (nodup : (ps.map Proposition.id).Nodup)
    (h : c.clusters ps t = .ok cs) :
    (cs.flatMap Cluster.propositionIds).Nodup ∧
      cs.flatMap Cluster.propositionIds ⊆ ps.map Proposition.id := by
  rw [flatMap_propositionIds h]
  refine ⟨(nodup_flatten_groups c ps t).map (idAt_injective nodup), ?_⟩
  rw [← map_idAt]
  exact List.map_subset _ fun i _ => List.mem_finRange i

/-- Every cluster is a group. -/
theorem exists_group {cs : List Cluster} (h : c.clusters ps t = .ok cs) {k : Cluster}
    (member : k ∈ cs) : ∃ g ∈ c.groups (table ps) t, k.propositionIds = g.map (idAt ps) := by
  have ids := List.mem_map_of_mem (f := Cluster.propositionIds) member
  rw [map_propositionIds h] at ids
  obtain ⟨g, hg, same⟩ := List.mem_map.1 ids
  exact ⟨g, hg, same.symm⟩

/-! ## Scores -/

theorem mem_groups_iff {n : ℕ} {sim : Grid Binary64 n} {g : List (Fin n)} :
    g ∈ c.groups sim t ↔ g ∈ (agglomerate sim t).groups ∧ c.minSize ≤ g.length := by
  rw [groups, List.mem_filter, decide_eq_true_eq]

/-- A group has a score from the unit interval. -/
theorem exists_scoreOf (fits : ps.length < maxItems) {g : List (Fin (keywordSets ps).length)}
    (member : g ∈ c.groups (table ps) t) : ∃ score, scoreOf ps g = .ok score ∧ UpTo 1 score := by
  have short := (Clusters.sound_agglomerate (table ps) t).length_le (mem_groups_iff.1 member).1
  exact exists_hundredths_cohesion (upTo_similarities _)
    ((short.trans_eq (length_keywordSets ps)).trans fits.le)

theorem exists_clusters (c : Clustering) (t : Binary64) (fits : ps.length < maxItems) :
    ∃ cs, c.clusters ps t = .ok cs := by
  rw [clusters_eq]
  apply exists_mapM_eq_ok
  intro p member
  obtain ⟨score, hscore, -⟩ := exists_scoreOf fits (List.fst_mem_of_mem_zipIdx member)
  exact ⟨summary ps p.1 p.2 score, by rw [hscore, map_ok]⟩

/-- The cohesion of every cluster is a score. -/
theorem upTo_cohesion_of_mem (fits : ps.length < maxItems) {cs : List Cluster}
    (h : c.clusters ps t = .ok cs) {k : Cluster} (member : k ∈ cs) : UpTo 1 k.cohesion := by
  rw [clusters_eq] at h
  obtain ⟨p, hp, made⟩ := exists_step_of_mapM h member
  obtain ⟨score, hscore, rfl⟩ := map_eq_ok_iff.1 made
  obtain ⟨score', hscore', unit⟩ := exists_scoreOf fits (List.fst_mem_of_mem_zipIdx hp)
  obtain rfl := Except.ok.inj (hscore.symm.trans hscore')
  exact unit

/-! ## The report -/

theorem upTo_seven_tenths : UpTo (7 / 10) (ofDecimal 7 1) := by
  have double : ofDecimal 7 1 = finite (6305039478318694 / 2 ^ 53) := by decide +kernel
  rw [double]
  exact upTo_finite ⟨6305039478318694, -53, by norm_num, by norm_num, by norm_num⟩ (by norm_num)
    (by norm_num)

theorem upTo_three_tenths : UpTo (3 / 10) (ofDecimal 3 1) := by
  have double : ofDecimal 3 1 = finite (5404319552844595 / 2 ^ 54) := by decide +kernel
  rw [double]
  exact upTo_finite ⟨5404319552844595, -54, by norm_num, by norm_num, by norm_num⟩ (by norm_num)
    (by norm_num)

/-- A score times a double is at most the double. -/
theorem upTo_mul_unit {b : ℚ} {x y : Binary64} (hx : UpTo b x) (hy : UpTo 1 y) (fits : b < overflow) :
    UpTo b (x * y) := by
  obtain ⟨q, rfl, hq, q0, qb⟩ := hx
  exact (UpTo.mul (upTo_finite hq q0 le_rfl) hy (mul_one q).le hq (qb.trans_lt fits)).mono qb

/-- **The quality of clusters with scores is a score**, where they hold no more ids than there are. -/
theorem exists_quality {cs : List Cluster} {total : ℕ} (scores : ∀ k ∈ cs, UpTo 1 k.cohesion)
    (covered : (cs.flatMap Cluster.propositionIds).length ≤ total) :
    ∃ q, quality cs total = .ok q ∧ UpTo 1 q := by
  rw [quality]
  split_ifs with none
  · exact ⟨_, rfl, upTo_zero⟩
  · rw [Bool.or_eq_true, decide_eq_true_eq, not_or, List.isEmpty_iff] at none
    have mean : UpTo 1 ((cs.map Cluster.cohesion).foldl (· + ·) (finite 0) /
        ofNat (cs.map Cluster.cohesion).length) := by
      refine upTo_mean (fun x hx => ?_) (by simpa using none.1)
      obtain ⟨k, member, rfl⟩ := List.mem_map.1 hx
      exact (scores k member).ofUnit
    rw [List.length_map] at mean
    obtain ⟨coverage, hcoverage, share⟩ := exists_ofRatio covered
    have fits {b : ℚ} (less : b < 1) : b < overflow := less.trans one_lt_overflow
    have cohesive := upTo_mul_unit upTo_seven_tenths mean (fits (by norm_num))
    have covering := upTo_mul_unit upTo_three_tenths share (fits (by norm_num))
    have weighted := cohesive.add covering (by norm_num) representable_one one_lt_overflow
    obtain ⟨q, hq, unit⟩ := roundHalfUp_of_unit weighted
    exact ⟨q, by rw [hcoverage]; exact hq, unit⟩

theorem length_flatten_groups_le (c : Clustering) (ps : List Proposition) (t : Binary64) :
    (c.groups (table ps) t).flatten.length ≤ ps.length := by
  have whole : (agglomerate (table ps) t).groups.flatten.length = ps.length :=
    (Clusters.sound_agglomerate (table ps) t).groups_perm.length_eq.trans
      (List.length_finRange.trans (length_keywordSets ps))
  have part : (c.groups (table ps) t).flatten.Sublist (agglomerate (table ps) t).groups.flatten :=
    List.filter_sublist.flatten
  exact part.length_le.trans whole.le

theorem report_eq_ok_iff {r : ClusterReport} :
    c.report topic ps t = .ok r ↔
      c.clusters ps t = .ok r.clusters ∧ quality r.clusters ps.length = .ok r.quality ∧
        r = { topic
              clusters := r.clusters
              unclustered := (ps.map Proposition.id).filter fun id =>
                !(r.clusters.flatMap Cluster.propositionIds).contains id
              quality := r.quality
              confidence :=
                if !r.clusters.isEmpty && decide (oneHalf < r.quality) then .ofDecimal 7 1
                else oneHalf
              reasoning := reasoningFor r.clusters.length t } := by
  simp only [report, bind_eq_ok_iff, pure_eq_ok, Except.ok.injEq]
  constructor
  · rintro ⟨cs, hcs, q, hq, rfl⟩
    exact ⟨hcs, hq, rfl⟩
  · rintro ⟨hcs, hq, made⟩
    exact ⟨_, hcs, _, hq, made.symm⟩

/-- The rest are the ids that no cluster has, in order. -/
theorem unclustered_eq {r : ClusterReport} (h : c.report topic ps t = .ok r) :
    r.unclustered = (ps.map Proposition.id).filter fun id =>
      !(r.clusters.flatMap Cluster.propositionIds).contains id := by
  obtain ⟨-, -, made⟩ := report_eq_ok_iff.1 h
  exact congrArg ClusterReport.unclustered made

theorem mem_unclustered_iff {r : ClusterReport} (h : c.report topic ps t = .ok r) {id : String} :
    id ∈ r.unclustered ↔
      id ∈ ps.map Proposition.id ∧ id ∉ r.clusters.flatMap Cluster.propositionIds := by
  rw [unclustered_eq h, List.mem_filter, Bool.not_eq_true', ← Bool.not_eq_true,
    List.contains_iff_mem]

theorem covered_of_clusters {cs : List Cluster} (h : c.clusters ps t = .ok cs) :
    (cs.flatMap Cluster.propositionIds).length ≤ ps.length := by
  rw [flatMap_propositionIds h, List.length_map]
  exact length_flatten_groups_le c ps t

/-- **A report on a list of possible length has an answer.** -/
theorem exists_report (c : Clustering) (topic : Value) (t : Binary64)
    (fits : ps.length < maxItems) : ∃ r, c.report topic ps t = .ok r := by
  obtain ⟨cs, hcs⟩ := exists_clusters c t fits
  obtain ⟨q, hq, -⟩ :=
    exists_quality (fun k => upTo_cohesion_of_mem fits hcs) (covered_of_clusters hcs)
  exact ⟨_, by simp only [report, hcs, hq, ok_bind]; rfl⟩

/-- **The scores of a report lie in the unit interval.** -/
theorem scores_of_report (fits : ps.length < maxItems) {r : ClusterReport}
    (h : c.report topic ps t = .ok r) : UpTo 1 r.quality ∧ ∀ k ∈ r.clusters, UpTo 1 k.cohesion := by
  obtain ⟨hcs, hq, -⟩ := report_eq_ok_iff.1 h
  have scores : ∀ k ∈ r.clusters, UpTo 1 k.cohesion := fun k => upTo_cohesion_of_mem fits hcs
  obtain ⟨q, answer, unit⟩ := exists_quality scores (covered_of_clusters hcs)
  obtain rfl := Except.ok.inj (hq.symm.trans answer)
  exact ⟨unit, scores⟩

/-! ## Lists of values -/

/-- The report on a list of values is that on the propositions that they are. -/
theorem run_eq_ok_iff {v given : Value} {r : ClusterReport} (accepted : readPropositions v = .ok ps)
    (within : c.threshold given = .ok t) :
    c.run topic v given = .ok r ↔ c.report topic ps t = .ok r := by
  rw [run, within, accepted]
  cases h : c.report topic ps t <;> simp [liftM, monadLift, MonadLift.monadLift, h]

/-- Every report on a list of values is one on the propositions that they are, at some threshold. -/
theorem exists_report_of_run {v given : Value} {r : ClusterReport}
    (accepted : readPropositions v = .ok ps) (h : c.run topic v given = .ok r) :
    ∃ t, c.threshold given = .ok t ∧ c.report topic ps t = .ok r := by
  cases within : c.threshold given with
  | error fault => simp [run, within, liftM, monadLift, MonadLift.monadLift] at h
  | ok t => exact ⟨t, rfl, (run_eq_ok_iff accepted within).1 h⟩

end Clustering

end Deliberation
