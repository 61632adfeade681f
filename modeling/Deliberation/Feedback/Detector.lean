/-
# Feedback.Detector -- from matches to a detection

What the detectors share.  A text that is blank, or in which no rule of the table matches, gives
nothing (`findings`).  Otherwise the spans give the count, the leading subtype, the confidence and the
excerpts, and the detector adds its words.
-/
import Deliberation.Feedback.Basic
import Deliberation.Feedback.Confidence
import Deliberation.Pattern.Rule

set_option autoImplicit false

namespace Deliberation

open Text

/-- The matches of a table in a text that is not blank. -/
def findings (rules : List Rule) (text : String) : List RuleMatch :=
  if isBlankText text then [] else matchTable text rules

/-- The confidence that a model gives to the matches found. -/
def ConfidenceModel.scoreOf (m : ConfidenceModel) (found : List RuleMatch) :
    Except NumberFault Binary64 := do
  m.score (← weightedMatches found) (.whole (subtypeCounts found).length)

/-- Texts joined with a separator between them. -/
def joinTexts (separator : String) (xs : List String) : String := separator.intercalate xs

/-- The bracketed examples in a reasoning. -/
def examples (excerpts : List String) : String := "(e.g., " ++ joinTexts ", " excerpts ++ ")"

/-- What stands for a subtype under its name, or else a general one. -/
def forSubtype {α : Type} (table : List (String × α)) (subtype : Option String) (general : α) : α :=
  (subtype.bind fun s => table.lookup s).getD general

/-- A detector: a name, and for each text a detection, nothing, or a failure with its reason. -/
structure Detector where
  name : String
  detect : String → Except String (Option Detection)

/-- A detector that fails only where a number does. -/
def Detector.ofAnalysis (name : String) (analyze : String → Except NumberFault (Option Detection)) :
    Detector where
  name := name
  detect text :=
    match analyze text with
    | .ok d => .ok d
    | .error fault => .error (Fault.number fault).message

end Deliberation
