/-
# CommonGround.Divergence -- where participants understood and still split

A divergence point is a proposition with enough stances, few of them nuanced, on which each side holds
more than a least share.  Its polarization is one for an even split and falls as a side dominates; the
overall polarization weighs the points by their participants.
-/
import Deliberation.CommonGround.Synthesis
import Deliberation.Distinct

set_option autoImplicit false

namespace Deliberation

/-- One side of a divergence point. -/
structure DivergenceViewpoint where
  position : String
  participants : Nat
  percentage : Int
  reasoning : List String
  deriving DecidableEq

/-- A proposition on which participants split. -/
structure DivergencePoint where
  propositionId : String
  proposition : String
  support : DivergenceViewpoint
  oppose : DivergenceViewpoint
  total : Nat
  nuancedPercentage : Int
  polarization : Binary64
  deriving DecidableEq

structure DivergenceReport where
  topic : Value
  points : List DivergencePoint
  polarization : Binary64
  participants : Nat

/-- From which shares a split counts. -/
structure Divergence where
  minParticipation : Number
  nuanceThreshold : Number
  minShare : Number

namespace Divergence

def default : Divergence where
  minParticipation := Settings.default.minParticipation
  nuanceThreshold := .real (.ofDecimal 30 2)
  minShare := .real (.ofDecimal 10 2)

/-- Enough stances, few of them nuanced, and no side too small. -/
def isSplit (d : Divergence) (r : StanceRecord) : Bool :=
  decide (0 < r.total) && !decide (.whole r.total < d.minParticipation) &&
    !decide (d.nuanceThreshold ≤ .real r.shares.nuanced) &&
    !decide (.real r.shares.support ≤ d.minShare) &&
    !decide (.real r.shares.oppose ≤ d.minShare)

/-- The divergence point that a record is, if it is one. -/
def point? (d : Divergence) (r : StanceRecord) : Except NumberFault (Option DivergencePoint) :=
  if d.isSplit r then do
    let percentages ← apportion [.whole r.support, .whole r.oppose, .whole r.nuanced]
    let percentage (k : Nat) : Int := percentages[k]?.getD 0
    return some {
      propositionId := r.id
      proposition := r.statement
      support := ⟨"Support", r.support, percentage 0, r.reasons .support supportStock⟩
      oppose := ⟨"Oppose", r.oppose, percentage 1, r.reasons .oppose opposeStock⟩
      total := r.total
      nuancedPercentage := percentage 2
      polarization := ← polarization (.real r.shares.support) (.real r.shares.oppose) }
  else .ok none

/-- The mean polarization weighted by participants, to two places; zero without points. -/
def overallPolarization (points : List DivergencePoint) : Except NumberFault Binary64 :=
  let weight : Nat := (points.map DivergencePoint.total).foldr (· + ·) 0
  if weight = 0 then .ok (.finite 0)
  else do
    let weighted ← points.foldlM (fun sum p => do
      return sum + p.polarization * (← Binary64.ofWhole p.total)) (.finite 0)
    (Number.real (weighted / (← Binary64.ofWhole weight))).roundHalfUp 2

/-- The report on checked records. -/
def report (d : Divergence) (topic : Value) (records : List StanceRecord) :
    Except NumberFault DivergenceReport := do
  let points := (← records.mapM d.point?).filterMap id
  let users := distinct (records.flatMap fun r => r.alignments.map Alignment.user)
  return {
    topic
    points
    polarization := ← overallPolarization points
    participants := users.length }

/-- The report on a list of values. -/
def run (d : Divergence) (topic propositions : Value) : Except Fault DivergenceReport := do
  d.report topic (← readStanceRecords propositions)

/-- The report on a list of entries. -/
def runOn (d : Divergence) (topic : Value) (entries : List StanceEntry) :
    Except Fault DivergenceReport := do
  d.report topic (← readStanceEntries entries)

end Divergence

/-! ## As values -/

def DivergenceViewpoint.toValue (v : DivergenceViewpoint) : Value :=
  .record [
    ("position", .text v.position),
    ("participant_count", .whole v.participants),
    ("percentage", .whole v.percentage),
    ("reasoning", .texts v.reasoning)]

def DivergencePoint.toValue (p : DivergencePoint) : Value :=
  .record [
    ("proposition_id", .text p.propositionId),
    ("proposition", .text p.proposition),
    ("viewpoints", .list [p.support.toValue, p.oppose.toValue]),
    ("total_participants", .whole p.total),
    ("nuanced_percentage", .whole p.nuancedPercentage),
    ("polarization_score", .real p.polarization)]

def DivergenceReport.toValue (r : DivergenceReport) : Value :=
  .record [
    ("topic_id", r.topic),
    ("divergence_points", .list (r.points.map DivergencePoint.toValue)),
    ("overall_polarization", .real r.polarization),
    ("participant_count", .whole r.participants)]

end Deliberation
