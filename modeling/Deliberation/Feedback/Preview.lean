/-
# Feedback.Preview -- what the author of a draft sees

For a chosen sensitivity a preview shows the feedback whose confidence reaches the display threshold,
and says whether the draft is ready to post.  Readiness does not depend on the sensitivity: it is lost
as soon as some issue, shown or not, reaches the critical threshold of its kind.
-/
import Deliberation.Feedback.Basic
import Deliberation.Value.Literal

set_option autoImplicit false

namespace Deliberation

/-- How much feedback an author wants to see. -/
inductive Sensitivity where
  | low
  | medium
  | high
  deriving DecidableEq, Repr

namespace Sensitivity

def all : List Sensitivity := [low, medium, high]

def label : Sensitivity → String
  | low => "LOW"
  | medium => "MEDIUM"
  | high => "HIGH"

def ofLabel? (label : String) : Option Sensitivity := all.find? fun s => s.label == label

/-- The sensitivity that a value names. -/
def ofValue (v : Value) : Except Fault Sensitivity :=
  match v with
  | .text s =>
    match ofLabel? s with
    | some sensitivity => .ok sensitivity
    | none => .error (.unknownSensitivity v.literal)
  | _ => .error (.unknownSensitivity v.literal)

/-- The confidence from which feedback is shown. -/
def displayThreshold : Sensitivity → Number
  | low => .real (.ofDecimal 5 1)
  | medium => .real (.ofDecimal 7 1)
  | high => .real (.ofDecimal 85 2)

end Sensitivity

/-- The confidence from which an issue stands against posting. -/
def FeedbackKind.criticalThreshold : FeedbackKind → Option Number
  | affirmation => none
  | inflammatory => some (.real (.ofDecimal 75 2))
  | fallacy | unsourced | bias => some (.real (.ofDecimal 85 2))

/-- An issue sure enough to stand against posting. -/
def Analysis.isCritical (a : Analysis) : Bool :=
  match a.kind.criticalThreshold with
  | some threshold => decide (threshold ≤ a.confidence)
  | none => false

def Analysis.isIssue (a : Analysis) : Bool := a.kind ≠ .affirmation

/-- A piece of feedback and whether the author sees it. -/
structure PreviewItem where
  analysis : Analysis
  shown : Bool
  deriving DecidableEq

/-- What the author of a draft sees. -/
structure Preview where
  feedback : List PreviewItem
  primary : Option PreviewItem
  readyToPost : Bool
  summary : String
  analysisMillis : Int
  sensitivity : Sensitivity
  deriving DecidableEq

namespace Preview

/-- Shown: confident enough, or an affirmation that stands beside no issue. -/
def isShown (sensitivity : Sensitivity) (all : List Analysis) (a : Analysis) : Bool :=
  (all.all (fun b => !b.isIssue) && !a.isIssue) ||
    decide (sensitivity.displayThreshold ≤ a.confidence)

/-- The sentence above the feedback, for a number of shown issues. -/
def summaryFor (ready : Bool) (issues : Nat) : String :=
  if !ready then
    "Consider revising before posting: some feedback flags a significant issue."
  else if issues = 0 then "Looking good! No significant issues were detected."
  else
    natDigits issues ++ (if issues = 1 then " suggestion" else " suggestions") ++
      " to consider before posting."

/-- The preview of ranked feedback. -/
def build (results : List Analysis) (sensitivity : Sensitivity) (elapsed : Number) :
    Except NumberFault Preview := do
  let items := results.map fun a => PreviewItem.mk a (isShown sensitivity results a)
  let issues := items.filter fun item => item.shown && item.analysis.isIssue
  let ready := !results.any fun a => a.isIssue && a.isCritical
  return {
    feedback := items
    primary := issues.head?
    readyToPost := ready
    summary := summaryFor ready issues.length
    analysisMillis := max 0 (← elapsed.truncate)
    sensitivity }

end Preview

/-! ## As values -/

def PreviewItem.toValue (item : PreviewItem) : Value :=
  .record [
    ("type", .text item.analysis.kind.label),
    ("subtype", .optText item.analysis.subtype),
    ("suggestion_text", .text item.analysis.suggestion),
    ("reasoning", .text item.analysis.reasoning),
    ("confidence_score", .number item.analysis.confidence),
    ("should_display", .bool item.shown)]

def Preview.toValue (p : Preview) : Value :=
  .record [
    ("feedback", .list (p.feedback.map PreviewItem.toValue)),
    ("primary", (p.primary.map PreviewItem.toValue).getD .null),
    ("ready_to_post", .bool p.readyToPost),
    ("summary", .text p.summary),
    ("analysis_time_ms", .whole p.analysisMillis),
    ("sensitivity", .text p.sensitivity.label)]

end Deliberation
