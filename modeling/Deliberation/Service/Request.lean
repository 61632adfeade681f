/-
# Service.Request -- what can be asked of the service

Every `Route` has a path, a method and, where a body is expected, the shape of that body.  A path may be
followed by slashes and by a query, which say nothing.  What a route goes by is not the body but what is
taken from it (`Route.read`).
-/
import Deliberation.Feedback.Preview
import Deliberation.Proposition.Basic
import Deliberation.Settings
import Deliberation.Text.Basic
import Deliberation.Value.Shape

set_option autoImplicit false

namespace Deliberation

namespace Shape

/-- A text that is not empty. -/
def name : Shape := text 1 none

/-- A text of any length. -/
def anyText : Shape := text 0 none

/-- At most a thousand items. -/
def thousand (item : Shape) : Shape := list (some 1000) item

/-- A text to be analyzed. -/
def analysisBody : Shape :=
  record [("text", .required, text 0 (some Settings.default.maxTextLength))]

/-- A draft, and the sensitivity of its author. -/
def previewBody : Shape :=
  record [
    ("content", .required, text 20 (some Settings.default.maxTextLength)),
    ("sensitivity", .optional (.text Sensitivity.medium.label),
      label (Sensitivity.all.map Sensitivity.label))]

def proposition : Shape :=
  record [
    ("id", .required, name),
    ("statement", .required, anyText),
    ("metadata", .optional .null, orNull anyRecord)]

/-- The propositions of a topic, to be clustered. -/
def clusterBody : Shape :=
  record [
    ("topic_id", .required, name),
    ("propositions", .required, thousand proposition),
    ("similarity_threshold", .optional .null, orNull share)]

def alignment : Shape :=
  record [
    ("user_id", .required, name),
    ("stance", .required, label (Stance.all.map Stance.label)),
    ("nuance_explanation", .optional .null, orNull anyText)]

def stanceRecord : Shape :=
  record [
    ("id", .required, name),
    ("statement", .required, anyText),
    ("support_count", .required, count),
    ("oppose_count", .required, count),
    ("nuanced_count", .required, count),
    ("consensus_score", .optional .null, orNull share),
    ("alignments", .optional (.list []), list none alignment)]

/-- The propositions of a topic with their stances. -/
def topicBody : Shape :=
  record [
    ("topic_id", .required, name),
    ("propositions", .required, thousand stanceRecord),
    ("participant_count", .optional .null, orNull count)]

end Shape

/-- What the service answers. -/
inductive Route where
  | analyze
  | analyzeAll
  | preview
  | cluster
  | synthesize
  | divergence
  | patterns
  | health
  deriving DecidableEq, Repr

namespace Route

def all : List Route := [
  analyze, analyzeAll, preview, cluster, synthesize, divergence, patterns, health]

def path : Route → String
  | analyze => "/feedback/analyze"
  | analyzeAll => "/feedback/analyze/full"
  | preview => "/feedback/preview"
  | cluster => "/propositions/cluster"
  | synthesize => "/common-ground/synthesize"
  | divergence => "/divergence"
  | patterns => "/patterns"
  | health => "/health"

/-- The shape of the body, where one is expected. -/
def bodyShape? : Route → Option Shape
  | analyze | analyzeAll => some .analysisBody
  | preview => some .previewBody
  | cluster => some .clusterBody
  | synthesize | divergence => some .topicBody
  | patterns | health => none

/-- A route with a body is posted to, and one without is got. -/
def method (r : Route) : String := if r.bodyShape?.isSome then "POST" else "GET"

/-- The path of a request target. -/
def pathOf (target : String) : String :=
  let path := target.toList.takeWhile (· ≠ '?')
  String.ofList (path.reverse.dropWhile (· = '/')).reverse

/-- The route that a request target leads to. -/
def ofTarget? (target : String) : Option Route := all.find? fun r => r.path == pathOf target

/-- What is taken from a body, or the places at which it does not have the shape that the route expects, in
order. -/
def read (readers : Readers) (r : Route) (body : Option Value) : Shape.Reading Value :=
  match r.bodyShape?, body with
  | none, _ => .ok .null
  | some _, none => .error ["body"]
  | some shape, some v =>
    (shape.read readers "body" v).mapError fun places => places.mergeSort fun a b => !decide (b < a)

end Route

/-- A method, a target and a body. -/
structure Request where
  method : String
  target : String
  body : Option Value

end Deliberation
