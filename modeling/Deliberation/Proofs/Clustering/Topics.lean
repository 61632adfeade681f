/-
# Proofs.Clustering.Topics -- unrelated topics do not disturb each other

Two lists of propositions that share no keyword, woven into one, are clustered as each is by itself.
Each list is a part of the whole in the sense of `Part`, since statements without a common word are not
alike at all.  So the groups of the whole are those of the parts (`Clusters.interleaving_groups`), and
whatever a cluster says depends on its group only (`described_map`).
-/
import Deliberation.Proofs.Clustering.Placement
import Deliberation.Proofs.Clustering.Parts

set_option autoImplicit false

namespace Deliberation

open Binary64

/-- The keywords of the statement of a record. -/
def keywordsOf (v : Value) : List String :=
  match v.field "statement" with
  | .text s => keywords s
  | _ => []

theorem keywordsOf_eq {v : Value} {p : Proposition} (h : Proposition.ofValue v = .ok p) :
    keywordsOf v = keywords p.statement := by
  rw [keywordsOf, (fields_of_ofValue h).2]

/-- The report on a whole next to those on its two parts. -/
structure Joined (vp vq : List Value) (rp rq r : ClusterReport) : Prop where
  clusters : Interleaving (rp.clusters.map Cluster.unnumbered)
    (rq.clusters.map Cluster.unnumbered) (r.clusters.map Cluster.unnumbered)
  left : ∀ v ∈ vp, ∀ id, v.field "id" = .text id → (id ∈ r.unclustered ↔ id ∈ rp.unclustered)
  right : ∀ v ∈ vq, ∀ id, v.field "id" = .text id → (id ∈ r.unclustered ↔ id ∈ rq.unclustered)

namespace Clustering

variable {c : Clustering} {ps qs ws : List Proposition} {t : Binary64}

/-! ## Items of a part -/

theorem bounded_table (few : ps.length < maxItems) : (table ps).Bounded where
  symmetric := symmetric_similarities _
  unit := upTo_similarities _
  few := (length_keywordSets ps).trans_lt few

/-- Places among propositions as places among their keywords. -/
def itemPlaces (e : Fin ps.length ↪o Fin ws.length) :
    Fin (keywordSets ps).length ↪o Fin (keywordSets ws).length :=
  ((Fin.castOrderIso (length_keywordSets ps)).toOrderEmbedding.trans e).trans
    (Fin.castOrderIso (length_keywordSets ws).symm).toOrderEmbedding

theorem itemAt_itemPlaces {e : Fin ps.length ↪o Fin ws.length} (at_ : ∀ i, ws.get (e i) = ps.get i)
    (i : Fin (keywordSets ps).length) : itemAt ws (itemPlaces e i) = itemAt ps i :=
  at_ (i.cast (length_keywordSets ps))

theorem itemPlaces_eq_iff {e : Fin ps.length ↪o Fin ws.length}
    {i : Fin (keywordSets ps).length} {x : Fin (keywordSets ws).length} :
    itemPlaces e i = x ↔ e (i.cast (length_keywordSets ps)) = x.cast (length_keywordSets ws) := by
  rw [Fin.ext_iff, Fin.ext_iff]
  rfl

theorem complementary_itemPlaces {e : Fin ps.length ↪o Fin ws.length}
    {f : Fin qs.length ↪o Fin ws.length} (h : Interleaving.Complementary e f) :
    Interleaving.Complementary (itemPlaces e) (itemPlaces f) := by
  intro x
  have apart := h (x.cast (length_keywordSets ws))
  constructor
  · rintro ⟨i, hi⟩ j hj
    exact apart.1 ⟨_, itemPlaces_eq_iff.1 hi⟩ _ (itemPlaces_eq_iff.1 hj)
  · intro outside
    obtain ⟨i, hi⟩ := apart.2 fun j hj =>
      outside (j.cast (length_keywordSets qs).symm) (itemPlaces_eq_iff.2 hj)
    exact ⟨i.cast (length_keywordSets ps).symm, itemPlaces_eq_iff.2 hi⟩

/-- Propositions that share no keyword with the others are a part of the whole. -/
def partOf (e : Fin ps.length ↪o Fin ws.length) (at_ : ∀ i, ws.get (e i) = ps.get i)
    (apart : ∀ p ∈ ps, ∀ x, (∀ i, e i ≠ x) →
      ∀ w ∈ keywords p.statement, w ∉ keywords (ws.get x).statement) :
    Part (table ws) (table ps) where
  place := itemPlaces e
  same i k := by
    simp only [similarities_apply, keywordSets_get, itemAt_itemPlaces at_,
      (itemPlaces e).injective.eq_iff]
  apart i x outside := by
    rw [similarities_apply, if_neg (outside i), keywordSets_get, keywordSets_get,
      itemAt_itemPlaces at_]
    refine jaccard_of_disjoint (apart (itemAt ps i) (List.get_mem ps _) _ fun j hj => ?_)
    exact outside (j.cast (length_keywordSets ps).symm) (itemPlaces_eq_iff.2 hj)

/-! ## What a cluster says -/

/-- A cluster in the whole says what it says in its part. -/
theorem described_map {p : Part (table ws) (table ps)}
    (at_ : ∀ i, itemAt ws (p.place i) = itemAt ps i) (g : List (Fin (keywordSets ps).length)) :
    described ws (g.map p.place) = described ps g := by
  have cohesive : cohesion (table ws) (g.map p.place) = cohesion (table ps) g := by
    simp only [cohesion, orderedPairs_map, List.isEmpty_map, List.length_map, List.map_map]
    simp only [Function.comp_def, Prod.map, p.same]
  have words : (g.map p.place).map (fun i => (keywordSets ws)[i]) =
      g.map fun i => (keywordSets ps)[i] := by
    simp only [List.map_map, Function.comp_def, keywordSets_get, at_]
  have ids : (g.map p.place).map (idAt ws) = g.map (idAt ps) := by
    simp only [List.map_map, Function.comp_def, idAt, at_]
    rfl
  simp only [described, summary, scoreOf, cohesive, words, ids]

/-- Two parts that make up the whole: its clusters are theirs. -/
theorem interleaving_clusters {p : Part (table ws) (table ps)} {q : Part (table ws) (table qs)}
    (atP : ∀ i, itemAt ws (p.place i) = itemAt ps i) (atQ : ∀ j, itemAt ws (q.place j) = itemAt qs j)
    (complementary : Interleaving.Complementary p.place q.place) (few : ws.length < maxItems)
    (above : linkageSlack < t) {cs cp cq : List Cluster} (hw : c.clusters ws t = .ok cs)
    (hp : c.clusters ps t = .ok cp) (hq : c.clusters qs t = .ok cq) :
    Interleaving (cp.map Cluster.unnumbered) (cq.map Cluster.unnumbered)
      (cs.map Cluster.unnumbered) := by
  have part {ps : List Proposition} (p : Part (table ws) (table ps))
      (at_ : ∀ i, itemAt ws (p.place i) = itemAt ps i) :
      ((((agglomerate (table ps) t).groups.map (List.map p.place)).filter fun g =>
        decide (c.minSize ≤ g.length)).map (described ws)) =
      (c.groups (table ps) t).map (described ps) := by
    simp only [groups, List.filter_map, Function.comp_def, List.length_map, List.map_map,
      described_map at_]
  have woven := ((Clusters.interleaving_groups p q complementary (bounded_table few) above).filter
    fun g => decide (c.minSize ≤ g.length)).map (described ws)
  rw [part p atP, part q atQ] at woven
  rw [map_unnumbered hw, map_unnumbered hp, map_unnumbered hq]
  exact woven

/-! ## Reports -/

theorem flatMap_unnumbered (cs : List Cluster) :
    (cs.map Cluster.unnumbered).flatMap Cluster.propositionIds =
      cs.flatMap Cluster.propositionIds := by
  rw [List.flatMap_map]
  rfl

/-- An id of one list is left out of the whole where it is left out of its list. -/
theorem mem_unclustered_iff_of_part {topic : Value} {r rp rq : ClusterReport}
    (woven : Interleaving ps qs ws) (nodup : (ws.map Proposition.id).Nodup)
    (hw : c.report topic ws t = .ok r) (hp : c.report topic ps t = .ok rp)
    (hq : c.report topic qs t = .ok rq)
    (clusters : Interleaving (rp.clusters.map Cluster.unnumbered)
      (rq.clusters.map Cluster.unnumbered) (r.clusters.map Cluster.unnumbered))
    {id : String} (member : id ∈ ps.map Proposition.id) :
    id ∈ r.unclustered ↔ id ∈ rp.unclustered := by
  have ids := woven.map Proposition.id
  have apart := List.nodup_append'.1 (ids.perm.nodup_iff.2 nodup)
  have notQ : id ∉ rq.clusters.flatMap Cluster.propositionIds := by
    intro inQ
    have ofQ := (clustered_spec apart.2.1 (report_eq_ok_iff.1 hq).1).2 inQ
    exact apart.2.2 member ofQ
  have clustered : id ∈ r.clusters.flatMap Cluster.propositionIds ↔
      id ∈ rp.clusters.flatMap Cluster.propositionIds := by
    rw [← flatMap_unnumbered] at notQ
    rw [← flatMap_unnumbered r.clusters, ← flatMap_unnumbered rp.clusters]
    simp only [List.mem_flatMap] at notQ ⊢
    constructor
    · rintro ⟨k, hk, inK⟩
      rcases clusters.mem_iff.1 hk with hk | hk
      · exact ⟨k, hk, inK⟩
      · exact absurd ⟨k, hk, inK⟩ notQ
    · rintro ⟨k, hk, inK⟩
      exact ⟨k, clusters.mem_iff.2 (.inl hk), inK⟩
  rw [mem_unclustered_iff hw, mem_unclustered_iff hp, clustered, ids.mem_iff]
  simp [member]

/-- Accepted lists without a common keyword, as propositions. -/
theorem exists_parts {vp vq vs : List Value} (woven : Interleaving vp vq vs)
    (accepted : readPropositions (.list vs) = .ok ws)
    (apart : ∀ v ∈ vp, ∀ v' ∈ vq, ∀ w ∈ keywordsOf v, w ∉ keywordsOf v') :
    ∃ ps qs, readPropositions (.list vp) = .ok ps ∧ readPropositions (.list vq) = .ok qs ∧
      Interleaving ps qs ws ∧
      ∀ p ∈ ps, ∀ q ∈ qs, ∀ w ∈ keywords p.statement, w ∉ keywords q.statement := by
  obtain ⟨records, nodup⟩ := readPropositions_eq_ok_iff.1 accepted
  obtain ⟨ps, qs, answersP, answersQ, wovenItems⟩ :=
    woven.exists_forall₂ (mapM_eq_ok_iff.1 records)
  have hp := mapM_eq_ok_iff.2 answersP
  have hq := mapM_eq_ok_iff.2 answersQ
  have nodups := List.nodup_append'.1 ((wovenItems.map Proposition.id).perm.nodup_iff.2 nodup)
  refine ⟨ps, qs, readPropositions_eq_ok_iff.2 ⟨hp, nodups.1⟩,
    readPropositions_eq_ok_iff.2 ⟨hq, nodups.2.1⟩, wovenItems, ?_⟩
  intro p inP q inQ
  obtain ⟨v, hv, readP⟩ := exists_step_of_mapM hp inP
  obtain ⟨v', hv', readQ⟩ := exists_step_of_mapM hq inQ
  rw [← keywordsOf_eq readP, ← keywordsOf_eq readQ]
  exact apart v hv v' hv'

/-- **Unrelated topics are clustered as each is by itself.**  Two lists that share no keyword, woven into
one that is accepted: each of them is accepted too, and for every threshold above the slack and every
least size the clusters of the whole are, but for their running numbers, those of the two in their
orders, and an id is left out of the whole where it is left out of its list. -/
theorem unrelated_topics (c : Clustering) (topic : Value) {vp vq vs : List Value} {given : Value}
    (woven : Interleaving vp vq vs) (accepted : readPropositions (.list vs) = .ok ws)
    (within : c.threshold given = .ok t) (above : linkageSlack < t) (few : vs.length < maxItems)
    (apart : ∀ v ∈ vp, ∀ v' ∈ vq, ∀ w ∈ keywordsOf v, w ∉ keywordsOf v') :
    ∃ r rp rq, c.run topic (.list vs) given = .ok r ∧ c.run topic (.list vp) given = .ok rp ∧
      c.run topic (.list vq) given = .ok rq ∧ Joined vp vq rp rq r := by
  obtain ⟨ps, qs, acceptedP, acceptedQ, items, apartItems⟩ := exists_parts woven accepted apart
  have nodup := nodup_ids accepted
  have fewW : ws.length < maxItems := by
    rwa [← length_of_accepted accepted]
  have count := items.perm.length_eq
  rw [List.length_append] at count
  obtain ⟨r, hw⟩ := exists_report c topic t fewW
  obtain ⟨rp, hp⟩ := exists_report c topic t (show ps.length < maxItems by omega)
  obtain ⟨rq, hq⟩ := exists_report c topic t (show qs.length < maxItems by omega)
  obtain ⟨e, f, atP, atQ, complementary⟩ := items.exists_places
  have partP : ∀ p ∈ ps, ∀ x, (∀ i, e i ≠ x) →
      ∀ w ∈ keywords p.statement, w ∉ keywords (ws.get x).statement := by
    intro p inP x outside
    exact apartItems p inP _ (Interleaving.get_mem_of_outside atQ complementary outside)
  have partQ : ∀ q ∈ qs, ∀ x, (∀ j, f j ≠ x) →
      ∀ w ∈ keywords q.statement, w ∉ keywords (ws.get x).statement := by
    intro q inQ x outside w inStatement inOther
    exact apartItems _ (Interleaving.get_mem_of_outside atP complementary.symm outside) q inQ w
      inOther inStatement
  have clusters := interleaving_clusters (p := partOf e atP partP) (q := partOf f atQ partQ)
    (itemAt_itemPlaces atP) (itemAt_itemPlaces atQ) (complementary_itemPlaces complementary) fewW
    above (report_eq_ok_iff.1 hw).1 (report_eq_ok_iff.1 hp).1 (report_eq_ok_iff.1 hq).1
  refine ⟨r, rp, rq, (run_eq_ok_iff accepted within).2 hw, (run_eq_ok_iff acceptedP within).2 hp,
    (run_eq_ok_iff acceptedQ within).2 hq, clusters, ?_, ?_⟩
  · intro v hv id hid
    have member := id_mem_of_accepted acceptedP hv hid
    exact mem_unclustered_iff_of_part items nodup hw hp hq clusters member
  · intro v hv id hid
    have member := id_mem_of_accepted acceptedQ hv hid
    exact mem_unclustered_iff_of_part items.symm nodup hw hq hp clusters.symm member

def schoolsLackTeachers : Value := Proposition.toValue ⟨"p4", "Schools lack teachers", none⟩

def treesGrowSlowly : Value := Proposition.toValue ⟨"p5", "Trees grow slowly", none⟩

/-- Statements on taxes, and statements on schools and trees. -/
theorem unrelated_topics_taxes_schools :
    linkageSlack < ofDecimal 2 1 ∧
    (∀ v ∈ [carbonTaxesWork, carbonTaxesFail],
      ∀ v' ∈ [schoolsNeedTeachers, schoolsLackTeachers, treesGrowSlowly],
      ∀ w ∈ keywordsOf v, w ∉ keywordsOf v') ∧
    ∃ r rp rq,
      default.run .null (.list [carbonTaxesWork, schoolsNeedTeachers, carbonTaxesFail,
        schoolsLackTeachers, treesGrowSlowly]) .null = .ok r ∧
      default.run .null (.list [carbonTaxesWork, carbonTaxesFail]) .null = .ok rp ∧
      default.run .null (.list [schoolsNeedTeachers, schoolsLackTeachers, treesGrowSlowly]) .null =
        .ok rq ∧
      division r = ([["p1", "p3"], ["p2", "p4"]], ["p5"]) ∧
      Joined [carbonTaxesWork, carbonTaxesFail]
        [schoolsNeedTeachers, schoolsLackTeachers, treesGrowSlowly] rp rq r := by
  have above : linkageSlack < ofDecimal 2 1 := by decide +kernel
  have apart : ∀ v ∈ [carbonTaxesWork, carbonTaxesFail],
      ∀ v' ∈ [schoolsNeedTeachers, schoolsLackTeachers, treesGrowSlowly],
      ∀ w ∈ keywordsOf v, w ∉ keywordsOf v' := by decide +kernel
  refine ⟨above, apart, ?_⟩
  obtain ⟨r, rp, rq, hw, hp, hq, joined⟩ := unrelated_topics default .null
    (.left (.right (.left (.right (.right .nil)))))
    (show readPropositions (.list [carbonTaxesWork, schoolsNeedTeachers, carbonTaxesFail,
        schoolsLackTeachers, treesGrowSlowly]) =
      .ok [⟨"p1", "Carbon taxes work", none⟩, ⟨"p2", "Schools need teachers", none⟩,
        ⟨"p3", "Carbon taxes fail", none⟩, ⟨"p4", "Schools lack teachers", none⟩,
        ⟨"p5", "Trees grow slowly", none⟩] from rfl)
    (show default.threshold .null = .ok (.ofDecimal 2 1) from rfl) above (by decide) apart
  have divided : (default.run .null (.list [carbonTaxesWork, schoolsNeedTeachers, carbonTaxesFail,
      schoolsLackTeachers, treesGrowSlowly]) .null).toOption.map division =
      some ([["p1", "p3"], ["p2", "p4"]], ["p5"]) := by decide +kernel
  rw [hw] at divided
  exact ⟨r, rp, rq, hw, hp, hq, Option.some.inj divided, joined⟩

end Clustering

end Deliberation
