/-
# Value.Basic -- data as it arrives and leaves

Records come in unchecked, as nested values: null, truth values, numbers, texts, lists and records
with named fields in order.  A kind of feedback may stand among them as a value of its own.
-/
import Deliberation.Kind
import Deliberation.Number.Basic

set_option autoImplicit false

namespace Deliberation

inductive Value where
  | null
  | bool (b : Bool)
  | number (n : Number)
  | text (s : String)
  | kind (k : FeedbackKind)
  | list (items : List Value)
  | record (fields : List (String × Value))

namespace Value

instance : Inhabited Value := ⟨null⟩

def whole (n : Int) : Value := number (.whole n)

def real (x : Binary64) : Value := number (.real x)

/-- A text, or null where there is none. -/
def optText : Option String → Value
  | some s => text s
  | none => null

def texts (xs : List String) : Value := list (xs.map text)

/-- The fields with one given a value: in its place when the name is there, else at the end. -/
def setField (name : String) (v : Value) : List (String × Value) → List (String × Value)
  | [] => [(name, v)]
  | (n, w) :: rest => if n = name then (name, v) :: rest else (n, w) :: setField name v rest

/-- The field of a record, where there is one. -/
def field? : Value → String → Option Value
  | record fields, name => fields.lookup name
  | _, _ => none

/-- The field of a record; null where there is none. -/
def field (v : Value) (name : String) : Value := (v.field? name).getD null

def isNull : Value → Bool
  | null => true
  | _ => false

/-- Null, false, zero, and the empty text, list and record count as nothing. -/
def isEmpty : Value → Bool
  | null => true
  | bool b => !b
  | number n => decide (n.exact.toRat = 0) && n.exact.isFinite
  | text s => s.isEmpty
  | kind _ => false
  | list items => items.isEmpty
  | record fields => fields.isEmpty

/-- The label of a kind, or the text itself. -/
def label? : Value → Option String
  | text s => some s
  | kind k => some k.label
  | _ => none

theorem lookup_setField (name : String) (v : Value) (fields : List (String × Value)) :
    (setField name v fields).lookup name = some v := by
  induction fields with
  | nil => simp [setField]
  | cons f rest ih =>
    obtain ⟨n, w⟩ := f
    by_cases h : n = name
    · simp [setField, h]
    · have hne : (name == n) = false := by simpa using fun e => h e.symm
      simp [setField, h, List.lookup_cons, hne, ih]

theorem lookup_setField_of_ne {name other : String} (ne : other ≠ name) (v : Value)
    (fields : List (String × Value)) :
    (setField name v fields).lookup other = fields.lookup other := by
  have apart : (other == name) = false := by simpa using ne
  induction fields with
  | nil => simp [setField, List.lookup_cons, apart]
  | cons f rest ih =>
    obtain ⟨n, w⟩ := f
    by_cases h : n = name
    · subst h
      simp [setField, List.lookup_cons, apart]
    · simp [setField, h, List.lookup_cons, ih]

end Value

end Deliberation
