/-
# Feedback.Ranking -- which detection comes first

Detections are ordered by confidence, the more urgent kind first among equals.  When the runner-up
is within the tie window of the top, the most urgent kind among all within the window is put in front
(`Ranking.rankObjects`).  The distance of two confidences is their difference rounded to nine places, so
that 0.78 and 0.73 are exactly 0.05 apart.

What is ranked are objects.  Each of them says a detection, and two objects that say the same are still
two.  The winner is told from the others as an object: whatever in the list is the winner itself leaves
its place when the winner is put in front, so that an object that was listed twice and wins stands in the
ranking once.  Detections of which each is an object of its own are ranked by `Ranking.rank`.
-/
import Deliberation.Feedback.Basic
import Deliberation.Sorting

set_option autoImplicit false

namespace Deliberation

/-- How urgent a kind is: the lower, the more.  What is no issue comes last. -/
def FeedbackKind.urgency : FeedbackKind → Nat
  | fallacy => 0
  | inflammatory => 1
  | unsourced => 2
  | bias => 3
  | affirmation => 4

namespace Ranking

/-- The first detection goes before the second: more confident, or as confident and more urgent. -/
def precedes (a b : Detection) : Bool :=
  decide (b.confidence < a.confidence) ||
    decide (a.confidence ≤ b.confidence) && decide (b.confidence ≤ a.confidence) &&
      decide (a.kind.urgency < b.kind.urgency)

/-- The distance of two confidences, to nine places. -/
def gap (a b : Number) : Except NumberFault Number := do return (← a.sub b).roundPlaces 9

section

variable {Object : Type} (said : Object → Detection)

/-- The objects by the confidence and urgency of what they say; those that neither tells apart keep
their order. -/
def ordered (objects : List Object) : List Object :=
  sortBy (fun a b => precedes (said a) (said b)) objects

/-- The object that says the most urgent; of equally urgent ones, the first. -/
def mostUrgent : List Object → Except Fault Object
  | [] => .error .emptyChoice
  | first :: rest =>
    .ok (rest.foldl (fun leader o =>
      if (said o).kind.urgency < (said leader).kind.urgency then o else leader) first)

variable [DecidableEq Object]

/-- The winner in front of all others. -/
def promote (winner : Object) (objects : List Object) : List Object :=
  winner :: objects.filter (· ≠ winner)

/-- The objects, winner first. -/
def rankObjects (objects : List Object) (tieEpsilon : Number) : Except Fault (List Object) :=
  match ordered said objects with
  | top :: runnerUp :: rest => do
    let all := top :: runnerUp :: rest
    if tieEpsilon < (← gap (said top).confidence (said runnerUp).confidence) then return all
    let tied ← all.filterM fun o =>
      return decide ((← gap (said top).confidence (said o).confidence) ≤ tieEpsilon)
    return promote (← mostUrgent said tied) all
  | few => .ok few

end

/-- The detections, winner first.  Each is an object of its own, that of its place in the list. -/
def rank (detections : List Detection) (tieEpsilon : Number) : Except Fault (List Detection) := do
  let ranked ← rankObjects detections.get (List.finRange detections.length) tieEpsilon
  return ranked.map detections.get

end Ranking

end Deliberation
