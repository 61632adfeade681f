/-
# Value.Shape -- the form of a value, and what is taken from it

A `Shape` says what a value has to be.  `Shape.read` answers with the value that is taken from a given one,
or with the places at which the given one fails: one place for each field or item that is missing, of the
wrong form, too short, too long or out of range.  A list with too many items fails as a whole.  From a record
the fields are taken that the shape names, others are ignored, and a field that may be left out and is has
the value stated for it.

Numbers are converted.  A truth value counts as one or zero.  Where a double is expected, a whole number
stands for the double nearest to it, if it is within the range of doubles.  Which texts stand for numbers,
and which doubles for whole numbers, is left to the `Readers`; nothing is assumed of them.  Nothing is
converted to a text, a list or a record.
-/
import Deliberation.Number.Reading
import Deliberation.Value.Basic

set_option autoImplicit false

namespace Deliberation

/-! ## Conversions -/

/-- What texts and doubles are taken for where a number is expected. -/
structure Readers where
  /-- The whole number that a text stands for. -/
  wholeOfText? : String → Option Int
  /-- The whole number that a double stands for. -/
  wholeOfDouble? : Binary64 → Option Int
  /-- The double that a text stands for. -/
  doubleOfText? : String → Option Binary64

namespace Readers

/-- Numbers in texts as a person may type them, and doubles without a fraction. -/
def typed : Readers where
  wholeOfText? := typedInteger?
  wholeOfDouble? x := if x.isFinite && x.toRat.den == 1 then some x.toRat.num else none
  doubleOfText? := Binary64.ofText?

variable (readers : Readers)

/-- The whole number that a value stands for. -/
def whole? : Value → Option Int
  | .number (.whole n) => some n
  | .number (.real x) => readers.wholeOfDouble? x
  | .bool b => some b.toNat
  | .text s => readers.wholeOfText? s
  | _ => none

/-- The double that a value stands for. -/
def double? : Value → Option Binary64
  | .number n => n.toBinary64.toOption
  | .bool b => some (.finite b.toNat)
  | .text s => readers.doubleOfText? s
  | _ => none

end Readers

/-! ## Shapes -/

/-- Whether a field may be left out, and which value it has then. -/
inductive Presence where
  | required
  | optional (otherwise : Value)

inductive Shape where
  /-- A text of some length in characters. -/
  | text (least : Nat) (most : Option Nat)
  /-- One of some texts. -/
  | label (labels : List String)
  /-- A whole number that is not negative. -/
  | count
  /-- A double that is not outside the unit interval.  The undefined one is not. -/
  | share
  /-- A record of any fields. -/
  | anyRecord
  | orNull (shape : Shape)
  | list (most : Option Nat) (item : Shape)
  | record (fields : List (String × Presence × Shape))

namespace Shape

/-- The length does not exceed a limit, where there is one. -/
def within (limit : Option Nat) (length : Nat) : Bool := limit.all fun most => length ≤ most

/-- A place inside another one. -/
def inside (place name : String) : String := place ++ "." ++ name

/-- What is read at a place: a value, or the places that fail. -/
abbrev Reading (α : Type) := Except (List String) α

/-- The value if something holds of it, else the place. -/
def readIf (holds : Bool) (place : String) (v : Value) : Reading Value :=
  if holds then .ok v else .error [place]

/-- What two readings come to.  The places of both are kept. -/
def both {α β γ : Type} (join : α → β → γ) : Reading α → Reading β → Reading γ
  | .ok a, .ok b => .ok (join a b)
  | .ok _, .error places => .error places
  | .error places, .ok _ => .error places
  | .error places, .error others => .error (places ++ others)

/-- What the readings of a list come to. -/
def each {α β : Type} (read : α → Reading β) : List α → Reading (List β)
  | [] => .ok []
  | a :: rest => both List.cons (read a) (each read rest)

variable (readers : Readers)

mutual

/-- What is taken from the value at a place. -/
def read (place : String) : Shape → Value → Reading Value
  | .text least most, .text s => readIf (least ≤ s.length && within most s.length) place (.text s)
  | .label labels, .text s => readIf (labels.contains s) place (.text s)
  | .count, v =>
    match readers.whole? v with
    | some n => readIf (0 ≤ n) place (.whole n)
    | none => .error [place]
  | .share, v =>
    match readers.double? v with
    | some x => readIf (!(Number.real x).outsideUnit) place (.real x)
    | none => .error [place]
  | .anyRecord, .record fields => .ok (.record fields)
  | .orNull _, .null => .ok .null
  | .orNull shape, v => read place shape v
  | .list most item, .list items =>
    if within most items.length then
      Value.list <$> each (fun (v, i) => read (inside place (natDigits i)) item v) items.zipIdx
    else .error [place]
  | .record fields, .record given => Value.record <$> readFields place given fields
  | _, _ => .error [place]

/-- What is taken from the fields of a record. -/
def readFields (place : String) (given : List (String × Value)) :
    List (String × Presence × Shape) → Reading (List (String × Value))
  | [] => .ok []
  | field :: fields =>
    both (fun v rest => (field.1, v) :: rest) (readField place given field)
      (readFields place given fields)

/-- What is taken from one field of a record. -/
def readField (place : String) (given : List (String × Value)) :
    String × Presence × Shape → Reading Value
  | (name, presence, shape) =>
    match given.lookup name with
    | some v => read (inside place name) shape v
    | none =>
      match presence with
      | .required => .error [inside place name]
      | .optional otherwise => .ok otherwise

end

end Shape

end Deliberation
