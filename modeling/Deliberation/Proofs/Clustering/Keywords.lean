/-
# Proofs.Clustering.Keywords -- a cluster reports the words that most of its statements hold

Words are ranked by how often they occur, and among equals by where they occur first.  The order of first
occurrence is that of `distinct` (`pairwise_idxOf_distinct`), so numbering the different words and sorting
them by their counts (`pairwise_ahead`) ranks them (`pairwise_outranks`), and cutting the ranked words off
keeps the top ones (`top_cut`).  A statement holds none of its keywords twice, so that in a cluster the
count of a word is the number of statements that hold it (`count_wordsMet`).
-/
import Deliberation.Proofs.Clustering.Answers
import Deliberation.Proofs.CommonGround.Precedence
import Deliberation.Proofs.Distinct
import Deliberation.Proofs.Proposition.Normal

set_option autoImplicit false

namespace Deliberation

variable {words : List String}

/-- A word comes before another one by a larger score, and among equals by being met first. -/
def Outranks (score : String → ℕ) (words : List String) (a b : String) : Prop :=
  score b < score a ∨ score a = score b ∧ words.idxOf a < words.idxOf b

/-- The words that come first of those met, as many as a limit admits, and in their order. -/
structure AreTop (score : String → ℕ) (words : List String) (limit : ℕ) (ranked : List String) :
    Prop where
  nodup : ranked.Nodup
  met : ranked ⊆ words
  length : ranked.length = min limit words.toFinset.card
  ordered : ranked.Pairwise (Outranks score words)
  /-- Every word that is left out comes after every one that is not. -/
  best : ∀ w ∈ words, w ∉ ranked → ∀ kept ∈ ranked, Outranks score words kept w

/-! ## Ranking -/

/-- The different words by falling score. -/
def rankedBy (score : String → ℕ) (words : List String) : List String :=
  (distinct words).mergeSort fun a b => decide (score b ≤ score a)

theorem rankedBy_perm (score : String → ℕ) (words : List String) :
    (rankedBy score words).Perm (distinct words) :=
  List.mergeSort_perm _ _

theorem mem_rankedBy_iff (score : String → ℕ) {w : String} : w ∈ rankedBy score words ↔ w ∈ words := by
  rw [(rankedBy_perm score words).mem_iff, mem_distinct]

/-- Sorting is stable, so words with one score keep the order in which they were met. -/
theorem pairwise_outranks (score : String → ℕ) (words : List String) :
    (rankedBy score words).Pairwise (Outranks score words) := by
  have numbers : (rankedBy score words) =
      ((distinct words).zipIdx.mergeSort (largerFirst score)).map Prod.fst := by
    have stripped := List.map_mergeSort (r := largerFirst score)
      (s := fun a b => decide (score b ≤ score a)) (f := Prod.fst) (l := (distinct words).zipIdx)
      fun _ _ _ _ => rfl
    rw [stripped, List.zipIdx_map_fst, rankedBy]
  rw [numbers, List.pairwise_map]
  refine (pairwise_ahead score (distinct words)).imp_of_mem fun {a b} ha hb ahead => ?_
  rcases ahead with more | ⟨same, earlier⟩
  · exact .inl more
  · have at_ {x : String × ℕ} (hx : x ∈ (distinct words).zipIdx.mergeSort (largerFirst score)) :=
      List.mem_zipIdx_iff_getElem?.1 (List.mem_mergeSort.1 hx)
    obtain ⟨boundA, atA⟩ := List.getElem?_eq_some_iff.1 (at_ ha)
    obtain ⟨boundB, atB⟩ := List.getElem?_eq_some_iff.1 (at_ hb)
    rw [← atA, ← atB] at same ⊢
    exact .inr ⟨same, List.pairwise_iff_getElem.1 (pairwise_idxOf_distinct words) _ _ _ _ earlier⟩

/-- The ranked words up to a limit are the top ones. -/
theorem top_cut (score : String → ℕ) (words : List String) (limit : ℕ) :
    AreTop score words limit (Text.cut limit (rankedBy score words)) := by
  have nodup : (rankedBy score words).Nodup :=
    (rankedBy_perm score words).nodup_iff.2 (nodup_distinct words)
  have ordered := pairwise_outranks score words
  rw [Text.cut, if_pos (Int.natCast_nonneg limit), Int.toNat_natCast]
  refine ⟨nodup.sublist (List.take_sublist _ _), fun w kept => ?_, ?_,
    ordered.sublist (List.take_sublist _ _), fun w met out kept inside => ?_⟩
  · exact (mem_rankedBy_iff score).1 (List.mem_of_mem_take kept)
  · rw [List.length_take, (rankedBy_perm score words).length_eq, length_distinct]
  · rw [← List.take_append_drop limit (rankedBy score words), List.pairwise_append] at ordered
    have rest : w ∈ (rankedBy score words).drop limit := by
      have all := (mem_rankedBy_iff score).2 met
      rw [← List.take_append_drop limit (rankedBy score words), List.mem_append] at all
      exact all.resolve_left out
    exact ordered.2.2 kept inside w rest

theorem rankKeywords_eq (lists : List (List String)) (limit : ℤ) :
    rankKeywords lists limit = Text.cut limit (rankedBy lists.flatten.count lists.flatten) := rfl

/-! ## Words of statements -/

theorem nodup_keywords (statement : String) : (keywords statement).Nodup := nodup_distinct _

/-- The keywords of some propositions, in the order in which they are met. -/
def wordsMet (members : List Proposition) : List String :=
  members.flatMap fun p => keywords p.statement

/-- The number of statements that hold a word. -/
def statementsWith (members : List Proposition) (w : String) : ℕ :=
  members.countP fun p => decide (w ∈ keywords p.statement)

/-- A statement holds a keyword once, so that occurrences count statements. -/
theorem count_wordsMet (members : List Proposition) (w : String) :
    (wordsMet members).count w = statementsWith members w := by
  induction members with
  | nil => rfl
  | cons p rest ih =>
      have once : (keywords p.statement).count w = if w ∈ keywords p.statement then 1 else 0 :=
        (nodup_keywords p.statement).count
      rw [wordsMet, List.flatMap_cons, List.count_append, once, statementsWith, List.countP_cons]
      rw [wordsMet, statementsWith] at ih
      rw [ih, Nat.add_comm]
      simp only [decide_eq_true_eq]

/-! ## Clusters -/

namespace Clustering

variable {c : Clustering} {topic : Value} {ps : List Proposition} {t : Binary64}

/-- The keywords of a group's items are those of its propositions. -/
theorem flatten_keywordSets (group : List (Fin (keywordSets ps).length)) :
    (group.map (keywordSets ps).get).flatten = wordsMet (group.map (itemAt ps)) := by
  have each : (keywordSets ps).get = fun i => keywords (itemAt ps i).statement :=
    funext (keywordSets_get ps)
  simp only [wordsMet, List.flatMap_def, List.map_map, Function.comp_def, each]

theorem top_summary (group : List (Fin (keywordSets ps).length)) (k : ℕ) (score : Binary64) :
    AreTop (statementsWith (group.map (itemAt ps))) (wordsMet (group.map (itemAt ps))) 5
      (summary ps group k score).keywords := by
  have ranked : (summary ps group k score).keywords = Text.cut (5 : ℕ)
      (rankedBy (wordsMet (group.map (itemAt ps))).count (wordsMet (group.map (itemAt ps)))) := by
    rw [← flatten_keywordSets]
    rfl
  have counted : (wordsMet (group.map (itemAt ps))).count = statementsWith (group.map (itemAt ps)) :=
    funext (count_wordsMet _)
  rw [ranked, counted]
  exact top_cut _ _ 5

/-- The keywords of a cluster are the top ones of its members. -/
theorem keywords_of_clusters {cs : List Cluster} (h : c.clusters ps t = .ok cs) {k : Cluster}
    (member : k ∈ cs) : ∃ members ⊆ ps, members.map Proposition.id = k.propositionIds ∧
      AreTop (statementsWith members) (wordsMet members) 5 k.keywords := by
  obtain ⟨p, -, score, -, rfl⟩ := exists_mem_of_forall₂ (clusters_eq_ok_iff.1 h) member
  refine ⟨p.1.map (itemAt ps), fun x hx => ?_, List.map_map, top_summary p.1 p.2 score⟩
  obtain ⟨i, -, rfl⟩ := List.mem_map.1 hx
  exact List.get_mem ps _

/-- The keywords of a report's clusters are the top ones of their members. -/
theorem keywords_of_run {v given : Value} {r : ClusterReport} (accepted : readPropositions v = .ok ps)
    (h : c.run topic v given = .ok r) {k : Cluster} (member : k ∈ r.clusters) :
    ∃ members ⊆ ps, members.map Proposition.id = k.propositionIds ∧
      AreTop (statementsWith members) (wordsMet members) 5 k.keywords := by
  obtain ⟨t, -, reported⟩ := exists_report_of_run accepted h
  exact keywords_of_clusters (report_eq_ok_iff.1 reported).1 member

/-- **Keywords are the most frequent words.**  Of several lists of words the ranking keeps as many as a limit
admits: those that occur most often, and among equals those that occur first, in that order.  So a cluster
reports the at most five words that most statements of its members hold, among equals those met first when
the members are read in the order in which they were discovered, whether its propositions came as values or
as objects. -/
theorem keywords_are_most_frequent :
    (∀ (lists : List (List String)) (limit : ℕ),
      AreTop lists.flatten.count lists.flatten limit (rankKeywords lists limit)) ∧
    (∀ (c : Clustering) (topic v given : Value) (ps : List Proposition) (r : ClusterReport),
      readPropositions v = .ok ps → c.run topic v given = .ok r →
      ∀ k ∈ r.clusters, ∃ members ⊆ ps, members.map Proposition.id = k.propositionIds ∧
        AreTop (statementsWith members) (wordsMet members) 5 k.keywords) ∧
    (∀ (c : Clustering) (topic : Value) (entries : List Entry) (given : Value) (ps : List Proposition)
      (r : ClusterReport),
      readPropositionEntries entries = .ok ps → c.runOn topic entries given = .ok r →
      ∀ k ∈ r.clusters, ∃ members ⊆ ps, members.map Proposition.id = k.propositionIds ∧
        AreTop (statementsWith members) (wordsMet members) 5 k.keywords) := by
  refine ⟨fun lists limit => ?_, fun c topic v given ps r accepted h k member => ?_,
    fun c topic entries given ps r accepted h k member => ?_⟩
  · rw [rankKeywords_eq]
    exact top_cut _ _ limit
  · exact keywords_of_run accepted h member
  · rw [readPropositionEntries_eq] at accepted
    rw [runOn_eq] at h
    exact keywords_of_run accepted h member

-- each of these words occurs twice, and the fourth one once
example : rankKeywords [["tax", "bus"], ["bus", "park"], ["park", "bike", "tax"]] 3 =
    ["tax", "bus", "park"] := by cbv

/-- Two statements with five words in common and others besides. -/
def wideRoads : List Proposition := [
  ⟨"p1", "Bike lanes and trees calm wide roads", none⟩,
  ⟨"p2", "Wide roads need trees, bike lanes and signs", none⟩]

/-- Both statements make up the one cluster, and its keywords are the top ones of the two. -/
theorem wideRoads_keywords :
    readPropositions (.list (wideRoads.map Proposition.toValue)) = .ok wideRoads ∧
    ∃ r, default.run .null (.list (wideRoads.map Proposition.toValue)) .null = .ok r ∧
      r.clusters.map Cluster.propositionIds = [["p1", "p2"]] ∧
      ∀ k ∈ r.clusters, ∃ members ⊆ wideRoads, members.map Proposition.id = k.propositionIds ∧
        AreTop (statementsWith members) (wordsMet members) 5 k.keywords := by
  have accepted : readPropositions (.list (wideRoads.map Proposition.toValue)) = .ok wideRoads := rfl
  have within : default.threshold .null = .ok (.ofDecimal 2 1) := rfl
  obtain ⟨r, reported⟩ := exists_report default .null (.ofDecimal 2 1)
    (show wideRoads.length < maxItems by decide)
  have h := (run_eq_ok_iff accepted within).2 reported
  have ids : (default.run .null (.list (wideRoads.map Proposition.toValue)) .null).toOption.map
      (fun r => r.clusters.map Cluster.propositionIds) = some [["p1", "p2"]] := by decide +kernel
  rw [h] at ids
  exact ⟨accepted, r, h, Option.some.inj ids,
    keywords_are_most_frequent.2.1 default .null _ .null wideRoads r accepted h⟩

end Clustering

end Deliberation
