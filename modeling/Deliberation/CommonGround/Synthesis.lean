/-
# CommonGround.Synthesis -- zones of agreement, misunderstandings, disagreements

From the stances on each proposition a synthesis finds where support is strong enough (an agreement
zone), where many nuanced participants read the proposition in different ways (a misunderstanding),
and where both sides are strong and few are nuanced (a genuine disagreement), besides the mean
consensus.  A proposition with too few stances is left out everywhere.  No proposition is both an
agreement zone and a genuine disagreement, since the latter asks for support below the threshold of
the former.
-/
import Deliberation.CommonGround.Notes
import Deliberation.CommonGround.Tally
import Deliberation.Proposition.Entry
import Deliberation.Settings

set_option autoImplicit false

namespace Deliberation

/-- A proposition on which most agree. -/
structure AgreementZone where
  proposition : String
  percentage : Int
  evidence : List String
  participants : Nat
  deriving DecidableEq

/-- A proposition that participants read in different ways. -/
structure Misunderstanding where
  topic : String
  interpretations : List Interpretation
  clarification : String
  deriving DecidableEq

/-- One side of a disagreement. -/
structure Viewpoint where
  position : String
  participants : Nat
  reasoning : List String
  deriving DecidableEq

/-- A proposition on which participants disagree about the same thing. -/
structure GenuineDisagreement where
  proposition : String
  viewpoints : List Viewpoint
  deriving DecidableEq

structure SynthesisReport where
  agreementZones : List AgreementZone
  misunderstandings : List Misunderstanding
  disagreements : List GenuineDisagreement
  consensus : Option Binary64
  deriving DecidableEq

/-- The shares of the three stances among all. -/
structure Shares where
  support : Binary64
  oppose : Binary64
  nuanced : Binary64

/-- The shares of a record with at least one stance. -/
def StanceRecord.shares (r : StanceRecord) : Shares where
  support := .ofQuotient r.support r.total
  oppose := .ofQuotient r.oppose r.total
  nuanced := .ofQuotient r.nuanced r.total

/-- Enough stances were taken, and at least one. -/
def StanceRecord.qualifies (r : StanceRecord) (minParticipation : Number) : Bool :=
  decide (0 < r.total) && decide (minParticipation ≤ .whole r.total)

/-- From which shares a synthesis speaks of agreement, nuance and a side. -/
structure Synthesis where
  minParticipation : Number
  agreementThreshold : Number
  nuanceThreshold : Number
  significantShare : Number

namespace Synthesis

def default : Synthesis where
  minParticipation := Settings.default.minParticipation
  agreementThreshold := .real (.ofDecimal 70 2)
  nuanceThreshold := .real (.ofDecimal 30 2)
  significantShare := .real (.ofDecimal 25 2)

def isAgreement (s : Synthesis) (r : StanceRecord) : Bool :=
  decide (s.agreementThreshold ≤ .real r.shares.support)

def isNuanced (s : Synthesis) (r : StanceRecord) : Bool :=
  !decide (.real r.shares.nuanced < s.nuanceThreshold)

def isDisagreement (s : Synthesis) (r : StanceRecord) : Bool :=
  decide (s.significantShare ≤ .real r.shares.support) &&
    decide (s.significantShare ≤ .real r.shares.oppose) &&
    decide (.real r.shares.nuanced < s.nuanceThreshold) &&
    decide (.real r.shares.support < s.agreementThreshold)

/-- The agreement zone that a record is, if it is one. -/
def agreementZone? (s : Synthesis) (r : StanceRecord) :
    Except NumberFault (Option AgreementZone) :=
  if s.isAgreement r then do
    let percentage ← agreementPercentage (.whole r.support) (.whole r.oppose) (.whole r.nuanced)
    return some {
      proposition := r.statement
      percentage := percentage.getD 0
      evidence := (r.notes [.support, .nuanced]).take 3
      participants := r.support }
  else .ok none

/-- The agreement zones, the highest percentage first; equal ones keep their order. -/
def agreementZones (s : Synthesis) (records : List StanceRecord) :
    Except NumberFault (List AgreementZone) := do
  let zones ← records.mapM s.agreementZone?
  return (zones.filterMap id).mergeSort fun a b => decide (b.percentage ≤ a.percentage)

/-- The misunderstanding that a record is, if it is one. -/
def misunderstanding? (s : Synthesis) (r : StanceRecord) : Option Misunderstanding :=
  if s.isNuanced r && decide (2 ≤ r.interpretations.length) then
    some {
      topic := r.statement
      interpretations := r.interpretations
      clarification := "This proposition has " ++ natDigits r.nuanced ++ " nuanced responses, " ++
        "suggesting participants may interpret key terms differently. " ++
        "Clarifying what the proposition commits to may resolve part of the split." }
  else none

/-- The disagreement that a record is, if it is one. -/
def disagreement? (s : Synthesis) (r : StanceRecord) : Option GenuineDisagreement :=
  if s.isDisagreement r then
    some {
      proposition := r.statement
      viewpoints := [
        ⟨"Support", r.support, r.reasons .support supportStock⟩,
        ⟨"Oppose", r.oppose, r.reasons .oppose opposeStock⟩] }
  else none

/-- The genuine disagreements among records, in order. -/
def disagreements (s : Synthesis) (records : List StanceRecord) : List GenuineDisagreement :=
  records.filterMap s.disagreement?

/-- The consensus on a record: the recorded one, or that derived from its counts. -/
def consensusOf (r : StanceRecord) : Except NumberFault Binary64 :=
  match r.consensus with
  | some score => .ok score
  | none => derivedConsensus (.whole r.support) (.whole r.oppose) (.whole r.nuanced)

/-- The mean consensus, to two places; none without records. -/
def overallConsensus (records : List StanceRecord) : Except NumberFault (Option Binary64) :=
  if records.isEmpty then .ok none
  else do
    let scores ← records.mapM consensusOf
    let mean := scores.foldl (· + ·) (.finite 0) / .ofNat scores.length
    some <$> (Number.real mean).roundHalfUp 2

/-- The records with enough stances. -/
def qualifying (s : Synthesis) (records : List StanceRecord) : List StanceRecord :=
  records.filter fun r => r.qualifies s.minParticipation

/-- The report on checked records. -/
def report (s : Synthesis) (records : List StanceRecord) : Except NumberFault SynthesisReport := do
  let records := s.qualifying records
  return {
    agreementZones := ← s.agreementZones records
    misunderstandings := records.filterMap s.misunderstanding?
    disagreements := s.disagreements records
    consensus := ← overallConsensus records }

/-- The report on a list of values. -/
def run (s : Synthesis) (propositions : Value) : Except Fault SynthesisReport := do
  s.report (← readStanceRecords propositions)

/-- The report on a list of entries. -/
def runOn (s : Synthesis) (entries : List StanceEntry) : Except Fault SynthesisReport := do
  s.report (← readStanceEntries entries)

end Synthesis

/-! ## As values -/

/-- What every disagreement says of the values behind it. -/
def underlyingValuesNote : String :=
  "Underlying values are not inferred by pattern analysis; a moral " ++
  "foundations review is needed to name them."

def AgreementZone.toValue (z : AgreementZone) : Value :=
  .record [
    ("proposition", .text z.proposition),
    ("agreement_percentage", .whole z.percentage),
    ("supporting_evidence", .texts z.evidence),
    ("participant_count", .whole z.participants)]

def Misunderstanding.toValue (m : Misunderstanding) : Value :=
  .record [
    ("topic", .text m.topic),
    ("interpretations", .list (m.interpretations.map Interpretation.toValue)),
    ("clarification", .text m.clarification)]

def Viewpoint.toValue (v : Viewpoint) : Value :=
  .record [
    ("position", .text v.position),
    ("participant_count", .whole v.participants),
    ("reasoning", .texts v.reasoning)]

def GenuineDisagreement.toValue (d : GenuineDisagreement) : Value :=
  .record [
    ("proposition", .text d.proposition),
    ("viewpoints", .list (d.viewpoints.map Viewpoint.toValue)),
    ("underlying_values", .texts [underlyingValuesNote])]

def SynthesisReport.toFields (r : SynthesisReport) : List (String × Value) := [
  ("agreement_zones", .list (r.agreementZones.map AgreementZone.toValue)),
  ("misunderstandings", .list (r.misunderstandings.map Misunderstanding.toValue)),
  ("genuine_disagreements", .list (r.disagreements.map GenuineDisagreement.toValue)),
  ("overall_consensus_score", (r.consensus.map Value.real).getD .null)]

def SynthesisReport.toValue (r : SynthesisReport) : Value := .record r.toFields

end Deliberation
