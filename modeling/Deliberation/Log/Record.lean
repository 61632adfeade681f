/-
# Log.Record -- log lines

A log record becomes one line of JSON (`LogRecord.jsonLine`) or a line of text (`LogRecord.textLine`).
Of the fields that are attached to it only those in `contextNames` are written, in that order, unless
they are null.  Kinds of feedback are written as their labels and scores with four places.
-/
import Deliberation.Log.Template
import Deliberation.Value.Printer

set_option autoImplicit false

namespace Deliberation

open Text

/-- A failure that is reported with a record. -/
structure LoggedFailure where
  type : String
  message : String

structure LogRecord where
  level : Number
  name : String
  template : String
  arguments : List Value
  extra : List (String × Value)
  failure : Option LoggedFailure

/-! ## Parts of a line -/

/-- The failure as text: its type, and its message if it has one. -/
def LoggedFailure.text (f : LoggedFailure) : String :=
  if f.message.isEmpty then f.type else f.type ++ ": " ++ f.message

/-- The levels that have names. -/
def namedLevels : List (Int × String) :=
  [(0, "NOTSET"), (10, "DEBUG"), (20, "INFO"), (30, "WARNING"), (40, "ERROR"), (50, "CRITICAL")]

/-- The name of a level. -/
def levelName (level : Number) : String :=
  match namedLevels.find? fun (n, _) => decide (.whole n ≤ level) && decide (level ≤ .whole n) with
  | some (_, name) => name
  | none => "Level " ++ level.text .plain

/-- The fields that are written, in order. -/
def contextNames : List String := [
  "feedback_type", "confidence", "detections", "topic_id", "proposition_count", "cluster_count",
  "duration_ms", "status_code", "method", "path", "error", "error_type"]

/-- The field holds scores. -/
def isScoreField (name : String) : Bool := name == "confidence"

mutual

/-- The value of a field as it is written: kinds by label and scores with four places, also inside
lists. -/
def logged (scores : Bool) : Value → Value
  | .kind k => .text k.label
  | .number (.real x) => .real (if scores then x.roundPlaces 4 else x)
  | .list items => .list (loggedItems scores items)
  | v => v

def loggedItems (scores : Bool) : List Value → List Value
  | [] => []
  | v :: vs => logged scores v :: loggedItems scores vs

end

namespace LogRecord

/-- The fields of a record that are written. -/
def context (r : LogRecord) : List (String × Value) :=
  contextNames.filterMap fun name =>
    match r.extra.lookup name with
    | none => none
    | some v => if v.isNull then none else some (name, logged (isScoreField name) v)

/-- The name of the logger, below that of all. -/
def logger (r : LogRecord) : String := "reasonbridge." ++ r.name

/-- The message; without arguments the template is the message. -/
def message (r : LogRecord) : Except Fault String :=
  if r.arguments.isEmpty then .ok r.template else Template.fill r.template r.arguments

/-! ## Lines -/

/-- The record as a JSON value. -/
def toValue (r : LogRecord) (timestamp : String) : Except Fault Value := do
  let message ← r.message
  return .record <| [
    ("timestamp", .text timestamp),
    ("level", .text (levelName r.level)),
    ("logger", .text r.logger),
    ("message", .text message)] ++ r.context ++
    r.failure.toList.map fun f => ("exception", .text f.text)

/-- The record as a line of JSON. -/
def jsonLine (r : LogRecord) (timestamp : String) : Except Fault String :=
  return (← r.toValue timestamp).toJson

/-- The text before the first line feed, and the text from there on. -/
def atLineFeed (s : String) : String × String :=
  (String.ofList (s.toList.takeWhile (· ≠ '\n')), String.ofList (s.toList.dropWhile (· ≠ '\n')))

/-- A text and another one on a new line. -/
def withNextLine (first second : String) : String :=
  if first.toList.getLast? = some '\n' then first ++ second else first ++ "\n" ++ second

/-- The record as a line of text, with the context at the end of its first line. -/
def textLine (r : LogRecord) (timestamp : String) : Except Fault String := do
  let message ← r.message
  let plain := timestamp ++ " [" ++ padRight 8 (levelName r.level) ++ "] " ++ r.logger ++ ": " ++
    message
  let line :=
    match r.failure with
    | some f => withNextLine plain f.text
    | none => plain
  if r.context.isEmpty then return line
  let pairs := r.context.map fun (name, v) => name ++ "=" ++ v.display
  let (first, rest) := atLineFeed line
  return first ++ " | " ++ " ".intercalate pairs ++ rest

end LogRecord

end Deliberation
