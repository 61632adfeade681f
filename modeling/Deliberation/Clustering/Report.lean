/-
# Clustering.Report -- propositions grouped by topic

Propositions are grouped by average linkage over the similarities of their keywords.  A group smaller
than the least size is dissolved.  Every cluster has a theme, its keywords and its cohesion; the whole
has a quality, seven tenths mean cohesion and three tenths coverage.
-/
import Deliberation.Clustering.Linkage
import Deliberation.Number.Rounding
import Deliberation.Proposition.Entry
import Deliberation.Settings

set_option autoImplicit false

namespace Deliberation

/-- A group of propositions, in order of discovery. -/
structure Cluster where
  id : String
  theme : String
  propositionIds : List String
  cohesion : Binary64
  keywords : List String
  deriving DecidableEq

def Cluster.size (c : Cluster) : Nat := c.propositionIds.length

/-- The clusters of a topic and what was left out of them. -/
structure ClusterReport where
  topic : Value
  clusters : List Cluster
  unclustered : List String
  quality : Binary64
  confidence : Binary64
  reasoning : String

/-- How clusters are formed. -/
structure Clustering where
  minSize : Int
  defaultThreshold : Number

namespace Clustering

/-- Pairs and more, at the threshold of the settings. -/
def default : Clustering := ⟨2, Settings.default.similarityThreshold⟩

/-- A threshold given as a value: a number in the unit interval, or null for the default. -/
def threshold (c : Clustering) (given : Value) : Except InputFault Binary64 :=
  let chosen := if given.isNull then .number c.defaultThreshold else given
  match chosen with
  | .number n => if n.inUnit then .ok n.exact else .error .threshold
  | _ => .error .threshold

/-- The groups of at least the least size, in order of their first items. -/
def groups (c : Clustering) {n : Nat} (sim : Grid Binary64 n) (threshold : Binary64) :
    List (List (Fin n)) :=
  (agglomerate sim threshold).groups.filter fun g => decide (c.minSize ≤ g.length)

/-- Seven tenths of the mean cohesion and three tenths of the coverage, to two places; zero without
clusters. -/
def quality (clusters : List Cluster) (total : Nat) : Except NumberFault Binary64 :=
  if clusters.isEmpty || total = 0 then .ok (.finite 0)
  else do
    let cohesions := (clusters.map Cluster.cohesion).foldl (· + ·) (.finite 0)
    let meanCohesion := cohesions / .ofNat clusters.length
    let coverage ← Binary64.ofRatio (clusters.flatMap Cluster.propositionIds).length total
    let weighted := Binary64.ofDecimal 7 1 * meanCohesion + Binary64.ofDecimal 3 1 * coverage
    (Number.real weighted).roundHalfUp 2

/-- The sentence about a number of clusters. -/
def reasoningFor (count : Nat) (threshold : Binary64) : String :=
  if count = 0 then
    "No clear clusters identified using keyword matching. Propositions " ++
    "may be too diverse or too few."
  else
    "Identified " ++ natDigits count ++ " cluster(s) using keyword similarity " ++
    "analysis at threshold " ++ threshold.fixed 2 ++ "."

/-- The clusters of checked propositions. -/
def clusters (c : Clustering) (propositions : List Proposition) (threshold : Binary64) :
    Except NumberFault (List Cluster) :=
  let sets := propositions.map fun p => keywords p.statement
  let sim := similarities sets
  (c.groups sim threshold).zipIdx.mapM fun (group, k) => do
    let ranked := rankKeywords (group.map fun i => sets[i]) maxKeywords
    return {
      id := "cluster-" ++ natDigits (k + 1)
      theme := themeOf ranked
      propositionIds := group.map fun i => (propositions.get (i.cast (by simp [sets]))).id
      cohesion := ← (Number.real (cohesion sim group)).roundHalfUp 2
      keywords := ranked }

/-- The report on checked propositions. -/
def report (c : Clustering) (topic : Value) (propositions : List Proposition)
    (threshold : Binary64) : Except NumberFault ClusterReport := do
  let clusters ← c.clusters propositions threshold
  let clustered := clusters.flatMap Cluster.propositionIds
  let quality ← quality clusters propositions.length
  return {
    topic
    clusters
    unclustered := (propositions.map Proposition.id).filter fun id => !clustered.contains id
    quality
    confidence :=
      if !clusters.isEmpty && decide (oneHalf < quality) then .ofDecimal 7 1 else oneHalf
    reasoning := reasoningFor clusters.length threshold }

/-- The report on a list of values.  The threshold is checked before the propositions. -/
def run (c : Clustering) (topic propositions given : Value) : Except Fault ClusterReport := do
  let threshold ← c.threshold given
  c.report topic (← readPropositions propositions) threshold

/-- The report on a list of entries. -/
def runOn (c : Clustering) (topic : Value) (entries : List Entry) (given : Value) :
    Except Fault ClusterReport := do
  let threshold ← c.threshold given
  c.report topic (← readPropositionEntries entries) threshold

end Clustering

/-! ## As values -/

def Cluster.toValue (c : Cluster) : Value :=
  .record [
    ("id", .text c.id),
    ("theme", .text c.theme),
    ("proposition_ids", .texts c.propositionIds),
    ("size", .whole c.size),
    ("cohesion_score", .real c.cohesion),
    ("keywords", .texts c.keywords)]

def ClusterReport.toValue (r : ClusterReport) : Value :=
  .record [
    ("topic_id", r.topic),
    ("clusters", .list (r.clusters.map Cluster.toValue)),
    ("unclustered_ids", .texts r.unclustered),
    ("quality_score", .real r.quality),
    ("confidence", .real r.confidence),
    ("reasoning", .text r.reasoning),
    ("method", .text "pattern-based")]

end Deliberation
