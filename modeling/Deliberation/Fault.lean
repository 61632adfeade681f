/-
# Fault -- why there is no answer

Every way in which an operation can refuse or break off is a cause of its own.  `Fault.message` words
those causes that a caller gets to read.
-/
import Deliberation.Number.Basic
import Deliberation.Text.Quoted

set_option autoImplicit false

namespace Deliberation

open Text

/-- What is wrong with a record, said of the record itself. -/
inductive RecordFault where
  | notProposition
  | notAlignment
  | notStance
  | blankId
  | blankUser
  | statementNotText
  | metadataNotRecord
  | duplicateId (id : String)
  | badCount (name : String)
  | consensusNotNumber
  | consensusOutOfRange
  | stanceUnknown
  | noteNotText
  deriving DecidableEq

/-- The wording of a fault in a record. -/
def RecordFault.message : RecordFault → String
  | notProposition => "expected a proposition record"
  | notAlignment => "expected a proposition alignment record"
  | notStance => "expected an alignment record"
  | blankId => "id must be a non-empty string"
  | blankUser => "user_id must be a non-empty string"
  | statementNotText => "statement must be a string"
  | metadataNotRecord => "metadata must be a mapping"
  | duplicateId id => "duplicate id " ++ quoted id
  | badCount name => name ++ " must be a non-negative integer"
  | consensusNotNumber => "consensus_score must be a number"
  | consensusOutOfRange => "consensus_score must be within [0, 1]"
  | stanceUnknown => "stance must be one of SUPPORT, OPPOSE, NUANCED"
  | noteNotText => "nuance_explanation must be a string"

/-- What is wrong with the input of an analysis, and where. -/
inductive InputFault where
  | notList
  | record (index : Nat) (fault : RecordFault)
  | alignmentsNotList (index : Nat)
  | alignment (index position : Nat) (fault : RecordFault)
  | threshold
  deriving DecidableEq

/-- How a message names the record at an index. -/
def recordPlace (index : Nat) : String := "proposition[" ++ natDigits index ++ "]"

def InputFault.message : InputFault → String
  | notList => "propositions must be a list"
  | record index fault => recordPlace index ++ ": " ++ fault.message
  | alignmentsNotList index => recordPlace index ++ ".alignments must be a list"
  | alignment index position fault =>
    recordPlace index ++ ".alignments[" ++ natDigits position ++ "]: " ++ fault.message
  | threshold => "similarity_threshold must be within [0, 1]"

/-- Why there is no answer. -/
inductive Fault where
  | invalidInput (fault : InputFault)
  /-- A detector failed, for a stated reason. -/
  | analysisUnavailable (detector reason : String)
  | confidenceOutOfRange (score : Number)
  /-- A value, given as it is shown in messages, that names no sensitivity. -/
  | unknownSensitivity (shown : String)
  | unknownStance (shown : String)
  | unknownKind (shown : String)
  | unknownLabel (label : String)
  | noSamples (directory : String)
  | missingFile (path : String)
  /-- A directory stands where a file is read or written. -/
  | isDirectory (path : String)
  /-- A file stands where a path leads on. -/
  | notDirectory (path : String)
  /-- A file stands where a directory is to be made. -/
  | alreadyThere (path : String)
  | number (fault : NumberFault)
  /-- The first or least of nothing was asked for. -/
  | emptyChoice
  | wrongType
  | outOfBounds
  | malformedPattern (written : String)
  /-- A pattern asks for more repetitions than can be counted. -/
  | tooManyRepetitions (written : String)
  | malformedTemplate
  | missingArgument (name : String)
  deriving DecidableEq

namespace Fault

/-- The wording of a fault. -/
def message : Fault → String
  | invalidInput fault => fault.message
  | analysisUnavailable detector reason => detector ++ " failed: " ++ reason
  | confidenceOutOfRange score => "confidence_score out of range: " ++ score.text .plain
  | unknownSensitivity shown => shown ++ " is not a valid Sensitivity"
  | unknownStance shown => shown ++ " is not a valid Stance"
  | unknownKind shown => shown ++ " is not a valid FeedbackType"
  | unknownLabel label => "Unknown expected label: " ++ quoted label
  | noSamples directory => "No samples found in " ++ directory
  | missingFile path => "Corpus file not found: " ++ path
  | isDirectory path => "a directory stands there: " ++ path
  | notDirectory path => "a file stands in the way: " ++ path
  | alreadyThere path => "a file stands there already: " ++ path
  | number .tooLarge => "a whole number is too large for a double"
  | number .undefinedInteger => "cannot convert an undefined value to an integer"
  | number .infiniteInteger => "cannot convert an infinite value to an integer"
  | number .divisionByZero => "division by zero"
  | emptyChoice => "there is nothing to choose from"
  | wrongType => "a value of another type was expected"
  | outOfBounds => "an index is out of bounds"
  | malformedPattern written => "malformed pattern: " ++ written
  | tooManyRepetitions written => "too many repetitions in a pattern: " ++ written
  | malformedTemplate => "a template has a malformed placeholder"
  | missingArgument name => "there is no argument " ++ quoted name

end Fault

/-- A number's fault is a fault of the operation that computes with it. -/
instance : MonadLift (Except NumberFault) (Except Fault) where
  monadLift
    | .ok a => .ok a
    | .error fault => .error (.number fault)

end Deliberation
