/-
# Feedback.Panel -- three detectors, one ranked answer

A panel asks its three detectors about a text and ranks what they report.  A blank text is affirmed
and no detector is asked.  A failing detector fails the whole panel: the first in the order tone,
fallacy, clarity is named, and nothing that the others found is returned.  Each detector makes the
detection that it reports, so that what different detectors report are different objects, also where they
say the same; `Ranking.rank` ranks them as such.  A `session` also counts the calls; its answer is that of
`analyzeAll`.
-/
import Deliberation.Feedback.Inflammatory
import Deliberation.Feedback.Fallacy
import Deliberation.Feedback.Clarity
import Deliberation.Feedback.Ranking

set_option autoImplicit false

namespace Deliberation

open Text

/-- What an outcome of a detector means to a panel: a failure names the detector. -/
def Detector.report (d : Detector) (outcome : Except String (Option Detection)) :
    Except Fault (Option Detection) :=
  match outcome with
  | .ok found => .ok found
  | .error reason => .error (.analysisUnavailable d.name reason)

/-- Three detectors and the width of the tie window. -/
structure Panel where
  tone : Detector
  fallacy : Detector
  clarity : Detector
  tieEpsilon : Number

namespace Panel

/-- The width of the tie window where none is stated. -/
def defaultTieEpsilon : Number := .real (.ofDecimal 5 2)

/-- The shipped detectors. -/
def shipped : Panel where
  tone := Inflammatory.detector
  fallacy := Fallacy.detector
  clarity := Clarity.detector
  tieEpsilon := defaultTieEpsilon

def detectors (p : Panel) : List Detector := [p.tone, p.fallacy, p.clarity]

/-- What the detectors report, in their order; the first failure fails all. -/
def detections (p : Panel) (text : String) : Except Fault (List Detection) := do
  let outcomes ← p.detectors.mapM fun d => d.report (d.detect text)
  return outcomes.filterMap id

/-- The feedback on what the detectors found, each of them an object of its own, winner first. -/
def answer (p : Panel) (found : List Detection) : Except Fault (List Analysis) := do
  match found with
  | [] => return [Analysis.affirmation]
  | fired => (← Ranking.rank fired p.tieEpsilon).mapM Analysis.ofDetection

/-- Every piece of feedback on a text, winner first. -/
def analyzeAll (p : Panel) (text : String) : Except Fault (List Analysis) := do
  if isBlankText text then return [Analysis.affirmation]
  p.answer (← p.detections text)

/-- The winning piece of feedback on a text. -/
def analyze (p : Panel) (text : String) : Except Fault Analysis := do
  return (← p.analyzeAll text).headD Analysis.affirmation

/-! ## The calls -/

/-- The seats of a panel, in the order of its detectors. -/
inductive Seat where
  | tone
  | fallacy
  | clarity
  deriving DecidableEq

def seats : List Seat := [.tone, .fallacy, .clarity]

def detector (p : Panel) : Seat → Detector
  | .tone => p.tone
  | .fallacy => p.fallacy
  | .clarity => p.clarity

/-- How often the detector in each seat was asked.  They are asked side by side, so that the order of
the calls is of no account. -/
abbrev Calls := Seat → Nat

/-- Ask the detector in a seat.  The call counts, whatever comes of it. -/
def ask (p : Panel) (text : String) (seat : Seat) :
    StateM Calls (Except Fault (Option Detection)) := do
  modify fun calls s => if s = seat then calls s + 1 else calls s
  return (p.detector seat).report ((p.detector seat).detect text)

/-- Every piece of feedback on a text, with the calls that it takes.  All detectors are asked before the
first outcome is looked at, so that a failure spares none of the others its call. -/
def session (p : Panel) (text : String) : StateM Calls (Except Fault (List Analysis)) := do
  if isBlankText text then return .ok [Analysis.affirmation]
  let outcomes ← seats.mapM (p.ask text)
  return do p.answer ((← outcomes.mapM id).filterMap id)

/-- How often each detector is asked about a text, in their order. -/
def calls (p : Panel) (text : String) : List Nat :=
  seats.map (p.session text fun _ => 0).2

end Panel

end Deliberation
