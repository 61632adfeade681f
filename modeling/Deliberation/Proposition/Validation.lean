/-
# Proposition.Validation -- checked records from unchecked values

A list of values becomes a list of records of the same length and order, or the first fault in the
first faulty record refuses the whole list; nothing is dropped.  Fields that no record has are
ignored, and a missing field is one that is null.
-/
import Deliberation.Proposition.Basic
import Deliberation.Fault
import Deliberation.Text.Basic

set_option autoImplicit false

namespace Deliberation

open Text

/-! ## Fields -/

/-- A text that is not blank. -/
def requireName (v : Value) (fault : RecordFault) : Except RecordFault String :=
  match v with
  | .text s => if isBlankText s then .error fault else .ok s
  | _ => .error fault

def requireStatement : Value → Except RecordFault String
  | .text s => .ok s
  | _ => .error .statementNotText

/-- A whole number that is not negative. -/
def requireCount (v : Value) (name : String) : Except RecordFault Nat :=
  match v with
  | .number (.whole n) => if 0 ≤ n then .ok n.toNat else .error (.badCount name)
  | _ => .error (.badCount name)

def requireRecord (v : Value) (fault : RecordFault) : Except RecordFault Unit :=
  match v with
  | .record _ => .ok ()
  | _ => .error fault

/-- A record of any fields, or none. -/
def optionalMetadata : Value → Except RecordFault (Option (List (String × Value)))
  | .null => .ok none
  | .record fields => .ok (some fields)
  | _ => .error .metadataNotRecord

/-- A number in the unit interval, as a double, or none. -/
def optionalConsensus : Value → Except RecordFault (Option Binary64)
  | .null => .ok none
  | .number n => if n.inUnit then .ok (some n.exact) else .error .consensusOutOfRange
  | _ => .error .consensusNotNumber

def optionalNote : Value → Except RecordFault (Option String)
  | .null => .ok none
  | .text s => .ok (some s)
  | _ => .error .noteNotText

/-! ## Propositions -/

/-- A proposition from a value. -/
def Proposition.ofValue (v : Value) : Except RecordFault Proposition := do
  requireRecord v .notProposition
  let id ← requireName (v.field "id") .blankId
  let statement ← requireStatement (v.field "statement")
  let metadata ← optionalMetadata (v.field "metadata")
  return ⟨id, statement, metadata⟩

/-- The propositions of values from an index on; no id may be among those already taken. -/
def propositionsFrom (index : Nat) (taken : List String) :
    List Value → Except InputFault (List Proposition)
  | [] => .ok []
  | v :: rest =>
    match Proposition.ofValue v with
    | .error fault => .error (.record index fault)
    | .ok p =>
      if taken.contains p.id then .error (.record index (.duplicateId p.id))
      else (p :: ·) <$> propositionsFrom (index + 1) (p.id :: taken) rest

/-- The propositions of a list of values.  Ids are texts that are not blank, all different. -/
def readPropositions : Value → Except InputFault (List Proposition)
  | .list items => propositionsFrom 0 [] items
  | _ => .error .notList

/-! ## Stances -/

/-- The stance of a participant from a value. -/
def Alignment.ofValue (v : Value) : Except RecordFault Alignment := do
  requireRecord v .notStance
  let user ← requireName (v.field "user_id") .blankUser
  match Stance.ofValue? (v.field "stance") with
  | none => .error .stanceUnknown
  | some stance => return ⟨user, stance, ← optionalNote (v.field "nuance_explanation")⟩

/-- The stances of values from a position on, in the record at an index. -/
def alignmentsFrom (index position : Nat) : List Value → Except InputFault (List Alignment)
  | [] => .ok []
  | v :: rest =>
    match Alignment.ofValue v with
    | .error fault => .error (.alignment index position fault)
    | .ok a => (a :: ·) <$> alignmentsFrom index (position + 1) rest

/-- The stances in a field.  Whatever counts as nothing is an empty list. -/
def readAlignments (index : Nat) (v : Value) : Except InputFault (List Alignment) :=
  if v.isEmpty then .ok []
  else
    match v with
    | .list items => alignmentsFrom index 0 items
    | _ => .error (.alignmentsNotList index)

/-- The fields of a record beside its alignments. -/
def StanceRecord.headOfValue (v : Value) : Except RecordFault StanceRecord := do
  requireRecord v .notAlignment
  let id ← requireName (v.field "id") .blankId
  let statement ← requireStatement (v.field "statement")
  let support ← requireCount (v.field "support_count") "support_count"
  let oppose ← requireCount (v.field "oppose_count") "oppose_count"
  let nuanced ← requireCount (v.field "nuanced_count") "nuanced_count"
  let consensus ← optionalConsensus (v.field "consensus_score")
  return ⟨id, statement, support, oppose, nuanced, consensus, []⟩

/-- The record at an index. -/
def StanceRecord.ofValue (index : Nat) (v : Value) : Except InputFault StanceRecord :=
  match headOfValue v with
  | .error fault => .error (.record index fault)
  | .ok head => do return { head with alignments := ← readAlignments index (v.field "alignments") }

/-- The records of values from an index on. -/
def stanceRecordsFrom (index : Nat) : List Value → Except InputFault (List StanceRecord)
  | [] => .ok []
  | v :: rest => do
    let r ← StanceRecord.ofValue index v
    (r :: ·) <$> stanceRecordsFrom (index + 1) rest

/-- The stance records of a list of values. -/
def readStanceRecords : Value → Except InputFault (List StanceRecord)
  | .list items => stanceRecordsFrom 0 items
  | _ => .error .notList

/-- A fault of the input is a fault of the operation on it. -/
instance : MonadLift (Except InputFault) (Except Fault) where
  monadLift
    | .ok a => .ok a
    | .error fault => .error (.invalidInput fault)

end Deliberation
