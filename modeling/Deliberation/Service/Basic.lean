/-
# Service.Basic -- answering requests

The service keeps a cache of previews and nothing else.  `Service.respond` answers one request and
gives the service after it.  A request to no route, with another method than the route's, or with a body
of the wrong form is refused without being looked into; input that an analysis refuses is answered with
the reason, and every other failure is answered alike.  Only an answered preview enters the cache.
-/
import Deliberation.Cache
import Deliberation.Clustering.Report
import Deliberation.CommonGround.Divergence
import Deliberation.Feedback.Panel
import Deliberation.Service.Request

set_option autoImplicit false

namespace Deliberation

/-- The version of the service. -/
def serviceVersion : String := "1.0.0"

/-! ## Responses -/

structure Response where
  status : Nat
  body : Value
  headers : List (String × String)

namespace Response

/-- The headers of every response but that to an unforeseen failure. -/
def standardHeaders : List (String × String) := [
  ("X-ReasonBridge-Version", serviceVersion),
  ("X-Engine-Version", Settings.default.engineVersion),
  ("X-Content-Type-Options", "nosniff"),
  ("X-Frame-Options", "DENY"),
  ("Referrer-Policy", "strict-origin-when-cross-origin")]

/-- A response with one line of detail. -/
def ofDetail (status : Nat) (detail : String) : Response :=
  ⟨status, .record [("detail", .text detail)], standardHeaders⟩

def notFound : Response := ofDetail 404 "Not Found"

def methodNotAllowed : Response := ofDetail 405 "Method Not Allowed"

/-- The response to a body that fails at some places. -/
def invalid (places : List String) : Response :=
  ⟨422, .record [("invalid", .texts places)], standardHeaders⟩

/-- The response that an answer, or the lack of one, amounts to. -/
def ofAnswer : Except Fault Value → Response
  | .ok v => ⟨200, v, standardHeaders⟩
  | .error (.invalidInput fault) => ofDetail 422 fault.message
  | .error (.analysisUnavailable _ _) => ofDetail 503 "Analysis unavailable"
  | .error _ => { ofDetail 503 "Analysis unavailable" with headers := [] }

end Response

/-! ## The service -/

/-- The state between requests. -/
structure Service where
  previews : Cache String Preview

/-- What a request meets: the detectors, the time, how long an analysis takes, the time at which a new
preview enters the cache, and how numbers are read in its body. -/
structure Conditions where
  panel : Panel
  now : Number
  elapsed : Number
  stored : Number := now
  readers : Readers := .typed

/-- A service to which no request has been sent. -/
def Service.fresh : Service :=
  ⟨.empty Settings.default.cacheTtl Settings.default.cacheMaxEntries⟩

/-- The preview as it is answered, and whether it was found in the cache. -/
def Preview.toAnswer (p : Preview) (cached : Bool) : Value :=
  match p.toValue with
  | .record fields => .record (Value.setField "cached" (.bool cached) fields)
  | v => v

/-- A text of a body. -/
def Value.textField (v : Value) (name : String) : String := ((v.field name).label?).getD ""

namespace Service

/-- The preview of a draft, by its detectors. -/
def previewOf (c : Conditions) (content : String) (sensitivity : Sensitivity) :
    Except Fault Preview := do
  return ← Preview.build (← c.panel.analyzeAll content) sensitivity c.elapsed

/-- A preview from the cache or, where there is none, a new one that enters it. -/
def preview (s : Service) (c : Conditions) (content : String) (sensitivity : Sensitivity) :
    Except Fault Value × Service :=
  let key := fingerprint content sensitivity.label
  match s.previews.get c.now key with
  | (.error fault, previews) => (.error fault, ⟨previews⟩)
  | (.ok (some p), previews) => (.ok (p.toAnswer true), ⟨previews⟩)
  | (.ok none, previews) =>
    match previewOf c content sensitivity with
    | .error fault => (.error fault, ⟨previews⟩)
    | .ok p =>
      match previews.put c.stored key p with
      | .error fault => (.error fault, ⟨previews⟩)
      | .ok previews => (.ok (p.toAnswer false), ⟨previews⟩)

/-- The sensitivity that a body asks for. -/
def sensitivityOf (body : Value) : Sensitivity :=
  match body.field? "sensitivity" with
  | some v => (v.label?.bind Sensitivity.ofLabel?).getD .medium
  | none => .medium

/-- A table of rules as it is shown. -/
def tableValue (rules : List Rule) : Value :=
  .list (rules.map fun r =>
    .record [("subtype", .text r.subtype), ("pattern", .text r.written), ("weight", .number r.weight)])

/-- The shipped tables, by what they detect. -/
def shippedTables : List (FeedbackKind × List Rule) := [
  (.inflammatory, Inflammatory.rules),
  (.fallacy, Fallacy.rules),
  (.unsourced, Clarity.unsourcedRules),
  (.bias, Clarity.biasRules)]

/-- All patterns, and how many there are. -/
def patternsValue : Value :=
  .record [
    ("engine_version", .text Settings.default.engineVersion),
    ("total_patterns", .whole (shippedTables.flatMap (·.2)).length),
    ("tables", .record (shippedTables.map fun (kind, rules) => (kind.label, tableValue rules)))]

/-- The state of the service. -/
def healthValue (s : Service) : Value :=
  .record [
    ("status", .text "operational"),
    ("version", .text serviceVersion),
    ("engine_version", .text Settings.default.engineVersion),
    ("cache", s.previews.toValue)]

/-- The winning piece of feedback on the text of a body. -/
def analysisAnswer (c : Conditions) (body : Value) : Except Fault Value := do
  return (← c.panel.analyze (body.textField "text")).toValue

/-- Every piece of feedback on the text of a body, and their number. -/
def analysesAnswer (c : Conditions) (body : Value) : Except Fault Value := do
  let results ← c.panel.analyzeAll (body.textField "text")
  return .record [
    ("results", .list (results.map Analysis.toValue)), ("total", .whole results.length)]

/-- The clusters of the propositions of a body. -/
def clusterAnswer (body : Value) : Except Fault Value := do
  let report ← Clustering.default.run (body.field "topic_id") (body.field "propositions")
    (body.field "similarity_threshold")
  return report.toValue

/-- The common ground of the propositions of a body. -/
def synthesisAnswer (body : Value) : Except Fault Value := do
  let report ← Synthesis.default.run (body.field "propositions")
  return .record (("topic_id", body.field "topic_id") :: report.toFields)

/-- The divergence of the propositions of a body. -/
def divergenceAnswer (body : Value) : Except Fault Value := do
  return (← Divergence.default.run (body.field "topic_id") (body.field "propositions")).toValue

/-- The answer to what was taken from a body, and the service after it. -/
def answer (s : Service) (c : Conditions) (body : Value) : Route → Except Fault Value × Service
  | .preview => s.preview c (body.textField "content") (sensitivityOf body)
  | .analyze => (analysisAnswer c body, s)
  | .analyzeAll => (analysesAnswer c body, s)
  | .cluster => (clusterAnswer body, s)
  | .synthesize => (synthesisAnswer body, s)
  | .divergence => (divergenceAnswer body, s)
  | .patterns => (.ok patternsValue, s)
  | .health => (.ok s.healthValue, s)

/-- The response to a request, and the service after it. -/
def respond (s : Service) (c : Conditions) (r : Request) : Response × Service :=
  match Route.ofTarget? r.target with
  | none => (.notFound, s)
  | some route =>
    if r.method ≠ route.method then (.methodNotAllowed, s)
    else
      match route.read c.readers r.body with
      | .ok body =>
        let (answer, s) := s.answer c body route
        (.ofAnswer answer, s)
      | .error places => (.invalid places, s)

end Service

end Deliberation
