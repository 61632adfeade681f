/-
# Feedback.Basic -- detections and analyses

A detector reports at most one `Detection`.  An `Analysis` is what a caller gets: it is made from a
detection only when the confidence lies in the unit interval (`Analysis.ofDetection`).
-/
import Deliberation.Fault
import Deliberation.Value.Basic

set_option autoImplicit false

namespace Deliberation

/-- Reading for the author. -/
structure Resource where
  title : String
  url : String
  deriving DecidableEq

/-- What one detector reports. -/
structure Detection where
  kind : FeedbackKind
  subtype : Option String
  matchCount : Int
  confidence : Number
  reasoning : String
  suggestion : String
  resources : List Resource
  excerpts : List String
  deriving DecidableEq

/-- One piece of feedback on a text. -/
structure Analysis where
  kind : FeedbackKind
  suggestion : String
  reasoning : String
  confidence : Number
  subtype : Option String
  resources : Option (List Resource)
  deriving DecidableEq

namespace Analysis

/-- The feedback that a detection amounts to; an empty list of resources is none. -/
def ofDetection (d : Detection) : Except Fault Analysis :=
  if d.confidence.inUnit then
    .ok ⟨d.kind, d.suggestion, d.reasoning, d.confidence, d.subtype,
      if d.resources.isEmpty then none else some d.resources⟩
  else .error (.confidenceOutOfRange d.confidence)

/-- The feedback on a text in which nothing was found. -/
def affirmation : Analysis where
  kind := .affirmation
  suggestion := "Your response contributes to constructive dialogue. Thank you for " ++
    "engaging thoughtfully."
  reasoning := "No logical fallacies, inflammatory language, or unsourced claims were " ++
    "detected in this response."
  confidence := .real (.ofDecimal 85 2)
  subtype := none
  resources := none

theorem ofDetection_eq_ok_iff (d : Detection) :
    (∃ a, ofDetection d = .ok a) ↔ d.confidence.inUnit = true := by
  unfold ofDetection
  split <;> simp_all

end Analysis

/-! ## As values -/

namespace Resource

def toValue (r : Resource) : Value := .record [("title", .text r.title), ("url", .text r.url)]

end Resource

def Detection.toValue (d : Detection) : Value :=
  .record [
    ("type", .text d.kind.label),
    ("subtype", .optText d.subtype),
    ("match_count", .whole d.matchCount),
    ("confidence_score", .number d.confidence),
    ("reasoning", .text d.reasoning),
    ("suggestion_text", .text d.suggestion),
    ("educational_resources", .list (d.resources.map Resource.toValue)),
    ("excerpts", .texts d.excerpts)]

def Analysis.toValue (a : Analysis) : Value :=
  .record [
    ("type", .text a.kind.label),
    ("suggestion_text", .text a.suggestion),
    ("reasoning", .text a.reasoning),
    ("confidence_score", .number a.confidence),
    ("subtype", .optText a.subtype),
    ("educational_resources",
      match a.resources with
      | some resources => .list (resources.map Resource.toValue)
      | none => .null)]

end Deliberation
