/-
# Proofs.Clustering.Renaming -- clustering reads statements, and ids only name what it finds

The clusters of propositions are made from their keyword lists, and their ids are put in at the end
(`clusters_eq_assigned`), so other ids make the same clusters under other names (`assigned_map`).  Only the
ids that are left out are looked up by value; a renaming that keeps different ids apart keeps that too
(`filter_not_contains_map`).  Metadata and the topic are not read at all.
-/
import Deliberation.Proofs.Clustering.Answers
import Deliberation.Proofs.Proposition.Normal

set_option autoImplicit false

namespace Deliberation

open Text

/-- The cluster with the ids of its propositions under other names. -/
def Cluster.renamed (f : String → String) (k : Cluster) : Cluster :=
  { k with propositionIds := k.propositionIds.map f }

/-- The report on another topic, with the ids of propositions under other names. -/
def ClusterReport.renamed (f : String → String) (topic : Value) (r : ClusterReport) : ClusterReport :=
  { r with topic, clusters := r.clusters.map (Cluster.renamed f), unclustered := r.unclustered.map f }

/-- A value states the same as another one under a new id, with metadata of its own if any. -/
structure Reissues (f : String → String) (v v' : Value) : Prop where
  record : v'.IsRecord
  id : ∀ id, v.field "id" = .text id → v'.field "id" = .text (f id)
  statement : v'.field "statement" = v.field "statement"
  metadata : v'.field "metadata" = .null ∨ (v'.field "metadata").IsRecord

/-- Different ids get different names, and each of them a name that is more than white space. -/
structure Renames (f : String → String) (ids : List String) : Prop where
  apart : Set.InjOn f {id | id ∈ ids}
  named : ∀ id ∈ ids, isBlankText (f id) = false

variable {f : String → String}

/-- What is not in a selection is the same under names that tell its items apart. -/
theorem filter_not_contains_map {all selected : List String} (apart : Set.InjOn f {x | x ∈ all})
    (subset : selected ⊆ all) :
    (all.map f).filter (fun x => !(selected.map f).contains x) =
      (all.filter fun x => !selected.contains x).map f := by
  rw [List.filter_map]
  congr 1
  refine List.filter_congr fun x hx => ?_
  have same : f x ∈ selected.map f ↔ x ∈ selected := by
    constructor
    · intro named
      obtain ⟨y, hy, equal⟩ := List.mem_map.1 named
      exact apart (subset hy) hx equal ▸ hy
    · exact List.mem_map_of_mem
  simp [Function.comp, List.contains_eq_mem, same]

/-- A list of steps whose answers are rewritten answers the rewritten list. -/
theorem mapM_map_answer {ε α β γ : Type} (g : β → γ) (step : α → Except ε β) (xs : List α) :
    (xs.mapM fun x => g <$> step x) = List.map g <$> xs.mapM step := by
  induction xs with
  | nil => rfl
  | cons x rest ih =>
      rw [List.mapM_cons, List.mapM_cons, ih]
      cases step x with
      | error e => rfl
      | ok y => cases rest.mapM step <;> rfl

namespace Clustering

variable {c : Clustering} {topic topic' : Value} {ps ps' : List Proposition} {t : Binary64}

/-! ## Clusters -/

/-- The cluster of a group of keyword lists, each list under an id. -/
def labelled {sets : List (List String)} (name : Fin sets.length → String)
    (group : List (Fin sets.length)) (k : ℕ) (score : Binary64) : Cluster :=
  let ranked := rankKeywords (group.map sets.get) maxKeywords
  { id := "cluster-" ++ natDigits (k + 1)
    theme := themeOf ranked
    propositionIds := group.map name
    cohesion := score
    keywords := ranked }

/-- The clusters of keyword lists, each list under an id. -/
def assigned (c : Clustering) (sets : List (List String)) (name : Fin sets.length → String)
    (t : Binary64) : Except NumberFault (List Cluster) :=
  (c.groups (similarities sets) t).zipIdx.mapM fun p =>
    labelled name p.1 p.2 <$> (Number.real (cohesion (similarities sets) p.1)).roundHalfUp 2

theorem clusters_eq_assigned (c : Clustering) (ps : List Proposition) (t : Binary64) :
    c.clusters ps t = c.assigned (keywordSets ps) (idAt ps) t :=
  clusters_eq c ps t

theorem assigned_map (c : Clustering) (sets : List (List String)) (name : Fin sets.length → String)
    (t : Binary64) :
    c.assigned sets (f ∘ name) t = List.map (Cluster.renamed f) <$> c.assigned sets name t := by
  have one (p : List (Fin sets.length) × ℕ) :
      labelled (f ∘ name) p.1 p.2 = Cluster.renamed f ∘ labelled name p.1 p.2 := by
    funext score
    simp only [labelled, Function.comp_apply, Cluster.renamed, List.map_map]
  rw [assigned, assigned, ← mapM_map_answer]
  simp only [one, comp_map]

/-- Lists that are the same make the same clusters, however their ids are looked up. -/
theorem assigned_congr {sets sets' : List (List String)} (same : sets' = sets)
    {name : Fin sets.length → String} {name' : Fin sets'.length → String}
    (names : ∀ i, name' i = name (i.cast (congrArg List.length same))) :
    c.assigned sets' name' t = c.assigned sets name t := by
  subst same
  rw [show name' = name from funext names]

theorem keywordSets_eq (ps : List Proposition) :
    keywordSets ps = (ps.map Proposition.statement).map keywords := by
  simp only [keywordSets, List.map_map, Function.comp_def]

theorem idAt_eq (ps : List Proposition) (i : Fin (keywordSets ps).length) :
    some (idAt ps i) = (ps.map Proposition.id)[i.val]? := by
  have bound : i.val < ps.length := i.isLt.trans_eq (length_keywordSets ps)
  simp [idAt, itemAt, bound]

/-- Propositions that state the same under other ids have the same clusters, with those ids. -/
theorem clusters_renamed (ids : ps'.map Proposition.id = (ps.map Proposition.id).map f)
    (statements : ps'.map Proposition.statement = ps.map Proposition.statement) :
    c.clusters ps' t = List.map (Cluster.renamed f) <$> c.clusters ps t := by
  have sets : keywordSets ps' = keywordSets ps := by
    rw [keywordSets_eq, keywordSets_eq, statements]
  rw [clusters_eq_assigned, clusters_eq_assigned, ← assigned_map]
  refine assigned_congr sets fun i => Option.some.inj ?_
  rw [idAt_eq, ids, List.getElem?_map]
  exact congrArg (Option.map f) (idAt_eq ps (i.cast (congrArg List.length sets))).symm

/-! ## Reports -/

theorem quality_renamed (cs : List Cluster) (total : ℕ) :
    quality (cs.map (Cluster.renamed f)) total = quality cs total := by
  have counted : ((cs.map (Cluster.renamed f)).flatMap Cluster.propositionIds).length =
      (cs.flatMap Cluster.propositionIds).length := by
    simp [List.length_flatMap, Function.comp_def, Cluster.renamed]
  have cohesions : (cs.map (Cluster.renamed f)).map Cluster.cohesion = cs.map Cluster.cohesion := by
    rw [List.map_map]
    rfl
  rw [quality, quality, counted, cohesions, List.isEmpty_map, List.length_map]

/-- The report on propositions under other ids. -/
theorem report_renamed (nodup : (ps.map Proposition.id).Nodup)
    (apart : Set.InjOn f {id | id ∈ ps.map Proposition.id})
    (ids : ps'.map Proposition.id = (ps.map Proposition.id).map f)
    (statements : ps'.map Proposition.statement = ps.map Proposition.statement) :
    c.report topic' ps' t = ClusterReport.renamed f topic' <$> c.report topic ps t := by
  have count : ps'.length = ps.length := by simpa using congrArg List.length statements
  rw [report, report, clusters_renamed ids statements, count]
  cases h : c.clusters ps t with
  | error fault => rfl
  | ok cs =>
      have clustered : (cs.map (Cluster.renamed f)).flatMap Cluster.propositionIds =
          (cs.flatMap Cluster.propositionIds).map f := by
        rw [List.flatMap_map, List.map_flatMap]
        rfl
      have rest := filter_not_contains_map apart (clustered_spec nodup h).2
      rw [map_ok, ok_bind, ok_bind, quality_renamed]
      cases quality cs ps.length with
      | error fault => rfl
      | ok q =>
          simp only [ok_bind, map_ok, pure_eq_ok, clustered, ids, rest, List.isEmpty_map,
            List.length_map, ClusterReport.renamed]

/-! ## Lists of values -/

/-- A value that states the same as an accepted one under a name is accepted. -/
theorem exists_reissued {v v' : Value} {p : Proposition} (read : Proposition.ofValue v = .ok p)
    (reissued : Reissues f v v') (named : isBlankText (f p.id) = false) :
    ∃ p', Proposition.ofValue v' = .ok p' ∧ p'.id = f p.id ∧ p'.statement = p.statement := by
  obtain ⟨-, reads⟩ := Proposition.ofValue_eq_ok_iff_reads.1 read
  have id := reissued.id p.id reads.id
  have statement := reissued.statement.trans reads.statement
  have rules : IsProposition v' :=
    ⟨reissued.record, ⟨f p.id, id, named⟩, ⟨p.statement, statement⟩, reissued.metadata⟩
  obtain ⟨p', reads'⟩ := rules.exists_reads
  exact ⟨p', Proposition.ofValue_eq_ok_iff_reads.2 ⟨rules, reads'⟩,
    Value.text.inj (reads'.id.symm.trans id), Value.text.inj (reads'.statement.symm.trans statement)⟩

/-- A list that states the same as an accepted one under other names is accepted. -/
theorem exists_reissued_list {vs vs' : List Value} (accepted : readPropositions (.list vs) = .ok ps)
    (reissued : List.Forall₂ (Reissues f) vs vs') (names : Renames f (ps.map Proposition.id)) :
    ∃ ps', readPropositions (.list vs') = .ok ps' ∧
      ps'.map Proposition.id = (ps.map Proposition.id).map f ∧
      ps'.map Proposition.statement = ps.map Proposition.statement := by
  obtain ⟨read, nodup⟩ := readPropositions_eq_ok_iff.1 accepted
  have each : ∃ ps', List.Forall₂ (fun v' p' => Proposition.ofValue v' = .ok p') vs' ps' ∧
      List.Forall₂ (fun p p' => p'.id = f p.id ∧ p'.statement = p.statement) ps ps' := by
    have named := names.named
    rw [mapM_eq_ok_iff] at read
    clear accepted names nodup
    induction reissued generalizing ps with
    | nil =>
        cases read
        exact ⟨[], .nil, .nil⟩
    | cons first _ ih =>
        cases read with
        | cons readFirst readRest =>
            rw [List.map_cons, List.forall_mem_cons] at named
            obtain ⟨p', read', same⟩ := exists_reissued readFirst first named.1
            obtain ⟨ps', reads', sames⟩ := ih readRest named.2
            exact ⟨p' :: ps', .cons read' reads', .cons same sames⟩
  obtain ⟨ps', read', same⟩ := each
  have ids : ps'.map Proposition.id = (ps.map Proposition.id).map f := by
    rw [List.map_map]
    exact (map_eq_map_of_forall₂ (same.imp fun _ _ h => h.1.symm)).symm
  have statements : ps'.map Proposition.statement = ps.map Proposition.statement :=
    (map_eq_map_of_forall₂ (same.imp fun _ _ h => h.2.symm)).symm
  refine ⟨ps', readPropositions_eq_ok_iff.2 ⟨mapM_eq_ok_iff.2 read', ?_⟩, ids, statements⟩
  rw [ids]
  exact nodup.map_on fun id hid id' hid' => names.apart hid hid'

theorem liftM_map {α β : Type} (g : α → β) (x : Except NumberFault α) :
    (liftM (g <$> x) : Except Fault β) = g <$> (liftM x : Except Fault α) := by
  cases x <;> rfl

/-- The run on an accepted list is the report on its propositions, with its faults. -/
theorem run_eq_liftM {v given : Value} (accepted : readPropositions v = .ok ps)
    (within : c.threshold given = .ok t) : c.run topic v given = liftM (c.report topic ps t) := by
  rw [run, within, accepted]
  rfl

theorem run_of_threshold_error {v given : Value} {fault : InputFault}
    (outside : c.threshold given = .error fault) : c.run topic v given = .error (.invalidInput fault) := by
  rw [run, outside]
  rfl

theorem run_reissued {vs vs' : List Value} (accepted : readPropositions (.list vs) = .ok ps)
    (reissued : List.Forall₂ (Reissues f) vs vs') (names : Renames f (ps.map Proposition.id))
    (c : Clustering) (topic topic' given : Value) :
    c.run topic' (.list vs') given =
      ClusterReport.renamed f topic' <$> c.run topic (.list vs) given := by
  obtain ⟨ps', accepted', ids, statements⟩ := exists_reissued_list accepted reissued names
  cases within : c.threshold given with
  | error fault => rw [run_of_threshold_error within, run_of_threshold_error within, map_error]
  | ok t =>
      rw [run_eq_liftM accepted within, run_eq_liftM accepted' within, ← liftM_map]
      exact congrArg _ (report_renamed (nodup_ids accepted) names.apart ids statements)

theorem exists_run {vs : List Value} (accepted : readPropositions (.list vs) = .ok ps)
    (fits : ps.length < maxItems) (c : Clustering) (topic : Value) {given : Value}
    (within : c.threshold given = .ok t) : ∃ r, c.run topic (.list vs) given = .ok r := by
  obtain ⟨r, reported⟩ := exists_report c topic t fits
  exact ⟨r, (run_eq_ok_iff accepted within).2 reported⟩

/-- **Clustering depends on the statements only.**  Let every record of an accepted list be replaced by one
with the same statement, under a name that no other record gets, and with any metadata.  The new list is
accepted too, and for every threshold, least size and topic its report is that of the old one, but for the
names in place of the ids and for the topic; where one of the two fails, so does the other, for the same
reason.  A list of a length that there can be has its report under every threshold in the unit interval.
All this whether the records come as values or as objects. -/
theorem statements_decide (names : Renames f (ps.map Proposition.id)) :
    (∀ vs vs' : List Value, readPropositions (.list vs) = .ok ps →
      List.Forall₂ (Reissues f) vs vs' →
      (∃ ps', readPropositions (.list vs') = .ok ps') ∧
      ∀ (c : Clustering) (topic topic' given : Value),
        c.run topic' (.list vs') given =
          ClusterReport.renamed f topic' <$> c.run topic (.list vs) given ∧
        ∀ t, c.threshold given = .ok t → ps.length < maxItems →
          ∃ r, c.run topic (.list vs) given = .ok r) ∧
    (∀ entries entries' : List Entry, readPropositionEntries entries = .ok ps →
      List.Forall₂ (fun e e' => Reissues f (e.shown .proposition) (e'.shown .proposition))
        entries entries' →
      (∃ ps', readPropositionEntries entries' = .ok ps') ∧
      ∀ (c : Clustering) (topic topic' given : Value),
        c.runOn topic' entries' given =
          ClusterReport.renamed f topic' <$> c.runOn topic entries given ∧
        ∀ t, c.threshold given = .ok t → ps.length < maxItems →
          ∃ r, c.runOn topic entries given = .ok r) := by
  refine ⟨fun vs vs' accepted reissued => ?_, fun entries entries' accepted reissued => ?_⟩
  · obtain ⟨ps', accepted', -⟩ := exists_reissued_list accepted reissued names
    exact ⟨⟨ps', accepted'⟩, fun c topic topic' given =>
      ⟨run_reissued accepted reissued names c topic topic' given, fun t within fits =>
        exists_run accepted fits c topic within⟩⟩
  · -- objects are read as the values that show them
    simp only [readPropositionEntries_eq, runOn_eq] at accepted ⊢
    have shown : List.Forall₂ (Reissues f) (entries.map (Entry.shown .proposition))
        (entries'.map (Entry.shown .proposition)) := by
      rw [List.forall₂_map_left_iff, List.forall₂_map_right_iff]
      exact reissued
    obtain ⟨ps', accepted', -⟩ := exists_reissued_list accepted shown names
    exact ⟨⟨ps', accepted'⟩, fun c topic topic' given =>
      ⟨run_reissued accepted shown names c topic topic' given, fun t within fits =>
        exists_run accepted fits c topic within⟩⟩

/-- Two statements on one topic around one on another. -/
def bikesAndTrees : List Proposition := [
  ⟨"p1", "Bike lanes work", none⟩, ⟨"p2", "Plant more trees", none⟩, ⟨"p3", "Bike lanes cost", none⟩]

/-- The same statements with metadata; one of them goes by the former id of another one, and that one by a
keyword of both. -/
def bikesAndTreesAgain : List Proposition := [
  ⟨"p3", "Bike lanes work", some [("author", .text "p1")]⟩, ⟨"p2", "Plant more trees", some []⟩,
  ⟨"lanes", "Bike lanes cost", none⟩]

def otherName : String → String
  | "p1" => "p3"
  | "p3" => "lanes"
  | id => id

theorem bikesAndTrees_reissued :
    readPropositions (.list (bikesAndTrees.map Proposition.toValue)) = .ok bikesAndTrees ∧
    List.Forall₂ (Reissues otherName) (bikesAndTrees.map Proposition.toValue)
      (bikesAndTreesAgain.map Proposition.toValue) ∧
    Renames otherName (bikesAndTrees.map Proposition.id) ∧
    default.run (.text "t2") (.list (bikesAndTreesAgain.map Proposition.toValue)) .null =
      ClusterReport.renamed otherName (.text "t2") <$>
        default.run (.text "t1") (.list (bikesAndTrees.map Proposition.toValue)) .null ∧
    ∃ r, default.run (.text "t1") (.list (bikesAndTrees.map Proposition.toValue)) .null = .ok r ∧
      r.clusters.map Cluster.propositionIds = [["p1", "p3"]] := by
  have accepted : readPropositions (.list (bikesAndTrees.map Proposition.toValue)) =
      .ok bikesAndTrees := rfl
  have reissued : List.Forall₂ (Reissues otherName) (bikesAndTrees.map Proposition.toValue)
      (bikesAndTreesAgain.map Proposition.toValue) :=
    .cons ⟨⟨_, rfl⟩, fun _ named => Value.text.inj named ▸ rfl, rfl, .inr ⟨_, rfl⟩⟩ <|
    .cons ⟨⟨_, rfl⟩, fun _ named => Value.text.inj named ▸ rfl, rfl, .inr ⟨_, rfl⟩⟩ <|
    .cons ⟨⟨_, rfl⟩, fun _ named => Value.text.inj named ▸ rfl, rfl, .inl rfl⟩ .nil
  have names : Renames otherName (bikesAndTrees.map Proposition.id) := by
    have nodup : ((bikesAndTrees.map Proposition.id).map otherName).Nodup := by decide
    exact ⟨fun id hid id' hid' => List.inj_on_of_nodup_map nodup hid hid', by decide +kernel⟩
  obtain ⟨-, runs⟩ := (statements_decide names).1 _ _ accepted reissued
  obtain ⟨same, answered⟩ := runs default (.text "t1") (.text "t2") .null
  obtain ⟨r, h⟩ := answered (.ofDecimal 2 1) rfl (by decide)
  have ids : (default.run (.text "t1") (.list (bikesAndTrees.map Proposition.toValue))
      .null).toOption.map (fun r => r.clusters.map Cluster.propositionIds) = some [["p1", "p3"]] := by
    decide +kernel
  rw [h] at ids
  exact ⟨accepted, reissued, names, same, r, h, Option.some.inj ids⟩

end Clustering

end Deliberation
