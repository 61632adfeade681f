/-
# Value.Printer -- values as JSON text

Written JSON is ASCII: a quote, a backslash and every character outside the printable ASCII range is
escaped, beyond the basic plane as a pair of surrogates.  Numbers are written shortest, and those
without a decimal by the bare words of `NonFiniteNames.json`.  A kind is written as its label.  The
one-line layout has a blank after each comma and colon; the indented one has a line per item.
-/
import Deliberation.Value.Basic
import Deliberation.Text.Quoted

set_option autoImplicit false

namespace Deliberation.Value

open Deliberation.Text

/-! ## Strings -/

/-- A 16-bit unit as an escape. -/
def unitEscape (n : Nat) : List Char := '\\' :: 'u' :: hexDigits 4 n

/-- One character inside a JSON string. -/
def jsonChar (c : Char) : List Char :=
  if c = '"' ∨ c = '\\' then ['\\', c]
  else if 32 ≤ c.toNat ∧ c.toNat < 127 then [c]
  else if c = '\n' then ['\\', 'n']
  else if c = '\r' then ['\\', 'r']
  else if c = '\t' then ['\\', 't']
  else if c.toNat = 8 then ['\\', 'b']
  else if c.toNat = 12 then ['\\', 'f']
  else if c.toNat < 0x10000 then unitEscape c.toNat
  else
    let high := 0xD800 + (c.toNat - 0x10000) / 0x400
    let low := 0xDC00 + (c.toNat - 0x10000) % 0x400
    unitEscape high ++ unitEscape low

/-- A JSON string with its quotes. -/
def jsonString (s : String) : List Char := '"' :: s.toList.flatMap jsonChar ++ ['"']

/-! ## Layouts -/

/-- On one line, or with one item a line at a depth of two blanks per level. -/
inductive Layout where
  | line
  | indented (depth : Nat)

namespace Layout

/-- The layout inside a bracket. -/
def inner : Layout → Layout
  | line => line
  | indented depth => indented (depth + 1)

/-- What stands before an item on a line of its own. -/
def margin : Layout → List Char
  | line => []
  | indented depth => '\n' :: List.replicate (2 * depth) ' '

/-- What stands between two items, given the layout inside the bracket. -/
def between : Layout → List Char
  | line => [',', ' ']
  | inside => ',' :: inside.margin

end Layout

/-! ## Values -/

mutual

/-- The JSON text of a value. -/
def json (layout : Layout) : Value → List Char
  | null => "null".toList
  | bool true => "true".toList
  | bool false => "false".toList
  | number n => (n.text .json).toList
  | text s => jsonString s
  | kind k => jsonString k.label
  | list [] => ['[', ']']
  | list (v :: vs) =>
    '[' :: layout.inner.margin ++ json layout.inner v ++ jsonItems layout.inner vs ++
      layout.margin ++ [']']
  | record [] => ['\x7b', '\x7d']
  | record (f :: fs) =>
    '\x7b' :: layout.inner.margin ++ jsonField layout.inner f ++ jsonFields layout.inner fs ++
      layout.margin ++ ['\x7d']

/-- The items after the first, each after a separator. -/
def jsonItems (inside : Layout) : List Value → List Char
  | [] => []
  | v :: vs => inside.between ++ json inside v ++ jsonItems inside vs

/-- The fields after the first, each after a separator. -/
def jsonFields (inside : Layout) : List (String × Value) → List Char
  | [] => []
  | f :: fs => inside.between ++ jsonField inside f ++ jsonFields inside fs

/-- A name, a colon and a value. -/
def jsonField (inside : Layout) : String × Value → List Char
  | (name, v) => jsonString name ++ ':' :: ' ' :: json inside v

end

/-- The value on one line. -/
def toJson (v : Value) : String := String.ofList (v.json .line)

/-- The value with one item a line. -/
def toIndentedJson (v : Value) : String := String.ofList (v.json (.indented 0))

end Deliberation.Value
