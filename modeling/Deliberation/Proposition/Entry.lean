/-
# Proposition.Entry -- records as values and as objects

Where a record is expected, a value may stand or an object of a class of records.  Both are checked alike;
what differs is where a field is looked for: in a value under its name, and in an object among its
attributes.  An object whose class is not the one expected is refused as a value that is no record is.
-/
import Deliberation.Proposition.Validation

set_option autoImplicit false

namespace Deliberation

/-- The classes of records. -/
inductive RecordClass where
  | proposition
  | alignment
  | stanceRecord
  deriving DecidableEq

/-- What may stand for a record: a value, or an object with attributes.  A stance among the attributes is
the text of its label. -/
inductive Entry where
  | value (v : Value)
  | object (owner : RecordClass) (attributes : List (String × Value))

namespace Entry

/-- The field of a record; null where there is none. -/
def field (e : Entry) (name : String) : Value :=
  match e with
  | value v => v.field name
  | object _ attributes => (attributes.lookup name).getD .null

/-- A record of any fields, or an object of the class expected. -/
def require (e : Entry) (expected : RecordClass) (fault : RecordFault) : Except RecordFault Unit :=
  match e with
  | value v => requireRecord v fault
  | object owner _ => if owner = expected then .ok () else .error fault

/-- A record with its fields as the attributes of an object; any other value as it is. -/
def objectOf (owner : RecordClass) : Value → Entry
  | .record fields => object owner fields
  | v => value v

end Entry

/-! ## Propositions -/

/-- A proposition from an entry. -/
def Proposition.ofEntry (e : Entry) : Except RecordFault Proposition := do
  e.require .proposition .notProposition
  let id ← requireName (e.field "id") .blankId
  let statement ← requireStatement (e.field "statement")
  let metadata ← optionalMetadata (e.field "metadata")
  return ⟨id, statement, metadata⟩

/-- The propositions of entries from an index on; no id may be among those already taken. -/
def propositionEntriesFrom (index : Nat) (taken : List String) :
    List Entry → Except InputFault (List Proposition)
  | [] => .ok []
  | e :: rest =>
    match Proposition.ofEntry e with
    | .error fault => .error (.record index fault)
    | .ok p =>
      if taken.contains p.id then .error (.record index (.duplicateId p.id))
      else (p :: ·) <$> propositionEntriesFrom (index + 1) (p.id :: taken) rest

/-- The propositions of a list of entries. -/
def readPropositionEntries (entries : List Entry) : Except InputFault (List Proposition) :=
  propositionEntriesFrom 0 [] entries

def Proposition.toEntry (p : Proposition) : Entry := .objectOf .proposition p.toValue

/-! ## Stances -/

/-- The stance of a participant from an entry. -/
def Alignment.ofEntry (e : Entry) : Except RecordFault Alignment := do
  e.require .alignment .notStance
  let user ← requireName (e.field "user_id") .blankUser
  match Stance.ofValue? (e.field "stance") with
  | none => .error .stanceUnknown
  | some stance => return ⟨user, stance, ← optionalNote (e.field "nuance_explanation")⟩

/-- The stances of entries from a position on, in the record at an index. -/
def alignmentEntriesFrom (index position : Nat) : List Entry → Except InputFault (List Alignment)
  | [] => .ok []
  | e :: rest =>
    match Alignment.ofEntry e with
    | .error fault => .error (.alignment index position fault)
    | .ok a => (a :: ·) <$> alignmentEntriesFrom index (position + 1) rest

/-! ## Stance records -/

/-- What may stand in a field of stances: a value, or a list with objects among its items. -/
inductive AlignmentEntries where
  | value (v : Value)
  | items (entries : List Entry)

/-- The stances in a field.  A value that counts as nothing is an empty list. -/
def AlignmentEntries.read (index : Nat) : AlignmentEntries → Except InputFault (List Alignment)
  | value v => readAlignments index v
  | items entries => alignmentEntriesFrom index 0 entries

/-- What may stand for a stance record.  Its stances are kept apart from its other fields, as there may be
objects among them. -/
structure StanceEntry where
  head : Entry
  alignments : AlignmentEntries

/-- A record and the stances in it as objects. -/
def StanceEntry.objectOf (v : Value) : StanceEntry where
  head := .objectOf .stanceRecord v
  alignments :=
    match v.field "alignments" with
    | .list stances => .items (stances.map (Entry.objectOf .alignment))
    | w => .value w

namespace StanceRecord

/-- The fields of a record beside its alignments. -/
def headOfEntry (e : Entry) : Except RecordFault StanceRecord := do
  e.require .stanceRecord .notAlignment
  let id ← requireName (e.field "id") .blankId
  let statement ← requireStatement (e.field "statement")
  let support ← requireCount (e.field "support_count") "support_count"
  let oppose ← requireCount (e.field "oppose_count") "oppose_count"
  let nuanced ← requireCount (e.field "nuanced_count") "nuanced_count"
  let consensus ← optionalConsensus (e.field "consensus_score")
  return ⟨id, statement, support, oppose, nuanced, consensus, []⟩

/-- The record of the entry at an index. -/
def ofEntry (index : Nat) (e : StanceEntry) : Except InputFault StanceRecord :=
  match headOfEntry e.head with
  | .error fault => .error (.record index fault)
  | .ok head => do return { head with alignments := ← e.alignments.read index }

def toEntry (r : StanceRecord) : StanceEntry := .objectOf r.toValue

end StanceRecord

/-- The records of entries from an index on. -/
def stanceEntriesFrom (index : Nat) : List StanceEntry → Except InputFault (List StanceRecord)
  | [] => .ok []
  | e :: rest => do
    let r ← StanceRecord.ofEntry index e
    (r :: ·) <$> stanceEntriesFrom (index + 1) rest

/-- The stance records of a list of entries. -/
def readStanceEntries (entries : List StanceEntry) : Except InputFault (List StanceRecord) :=
  stanceEntriesFrom 0 entries

end Deliberation
