/-
# Number.Reading -- decimal text as a number

A decimal is read exactly and rounded once to a double.  A text of digits alone is a whole number of
any size; a point or an exponent makes it a double.  `Binary64.ofText?` and `typedInteger?` read what a
person may type: white space around the number, digits of any script, digits grouped by underscores, and
for a double the words for the data that are no decimals.
-/
import Deliberation.Number.Basic
import Deliberation.Text.Basic

set_option autoImplicit false

namespace Deliberation

/-- The number that a list of decimal digits stands for; none where another character is met. -/
def digitsValue? (cs : List Char) : Option Nat :=
  cs.foldlM (fun n c => if c.isDigit then some (10 * n + (c.toNat - '0'.toNat)) else none) 0

/-- The decimal number of a non-empty list of digits. -/
def natOfDigits? (cs : List Char) : Option Nat := if cs.isEmpty then none else digitsValue? cs

/-- A whole number after an optional sign. -/
def intOfDigits? : List Char → Option Int
  | '-' :: cs => (natOfDigits? cs).map fun n => -(n : Int)
  | '+' :: cs => (natOfDigits? cs).map fun n => (n : Int)
  | cs => (natOfDigits? cs).map fun n => (n : Int)

/-- The characters without underscores, each of which has to stand between two digits. -/
def ungrouped? (afterDigit : Bool) : List Char → Option (List Char)
  | [] => some []
  | '_' :: rest =>
    if afterDigit && rest.head?.any Char.isDigit then ungrouped? false rest else none
  | c :: rest => (ungrouped? c.isDigit rest).map (c :: ·)

namespace Binary64

/-- The double nearest to `digits · 10 ^ exponent`, with a sign.  Beyond four hundred places to
either side of the point the result is infinite or zero, and no power is computed. -/
def ofScientific (negative : Bool) (digits : Nat) (exponent : Int) : Binary64 :=
  let magnitude :=
    if digits = 0 then finite 0
    else
      let size : Int := (Nat.toDigits 10 digits).length
      if 400 < size + exponent then infinite false
      else if size + exponent < -400 then finite 0
      else if 0 ≤ exponent then ofNat (digits * Nat.pow 10 exponent.toNat)
      else ofDecimal digits (-exponent).toNat
  if negative then magnitude.neg else magnitude

/-- An unsigned decimal: digits, a point with digits after it, and an exponent, each of which may
be missing where a digit is left. -/
def ofUnsigned? (negative : Bool) (cs : List Char) : Option Binary64 :=
  let isMark (c : Char) : Bool := c = 'e' ∨ c = 'E'
  let mantissa := cs.takeWhile fun c => !isMark c
  let whole := mantissa.takeWhile (· ≠ '.')
  let part := (mantissa.dropWhile (· ≠ '.')).drop 1
  let exponent? : Option Int :=
    match cs.dropWhile fun c => !isMark c with
    | [] => some 0
    | _ :: digits => intOfDigits? digits
  match natOfDigits? (whole ++ part), exponent? with
  | some digits, some exponent =>
    if part.isEmpty && mantissa.contains '.' && whole.isEmpty then none
    else some (ofScientific negative digits (exponent - part.length))
  | _, _ => none

/-- An unsigned number or one of the words for the other data, in any case. -/
def ofWordOrUnsigned? (negative : Bool) (cs : List Char) : Option Binary64 :=
  match String.ofList (cs.map Char.toLower) with
  | "nan" => some nan
  | "inf" | "infinity" => some (infinite negative)
  | _ => ofUnsigned? negative cs

end Binary64

/-- White space that may stand around a typed number: all but the four separators of information. -/
def isMargin (c : Char) : Bool := Text.isBlank c && !(0x1c ≤ c.toNat && c.toNat ≤ 0x1f)

/-- A typed number with plain digits, neither grouped nor with white space around it. -/
def typedChars? (s : String) : Option (List Char) :=
  let plain (c : Char) : Char :=
    if Text.isDigit c then Nat.digitChar (Text.digitValue c) else c
  ungrouped? false ((Text.trimWhere isMargin s.toList).map plain)

/-- The double that a typed text stands for. -/
def Binary64.ofText? (s : String) : Option Binary64 := do
  match ← typedChars? s with
  | '-' :: cs => ofWordOrUnsigned? true cs
  | '+' :: cs => ofWordOrUnsigned? false cs
  | cs => ofWordOrUnsigned? false cs

/-- The whole number that a typed text stands for. -/
def typedInteger? (s : String) : Option Int := do intOfDigits? (← typedChars? s)

namespace Number

/-- A number in decimal: whole without a point or an exponent, else a double. -/
def ofChars? (cs : List Char) : Option Number :=
  if cs.any fun c => c = '.' ∨ c = 'e' ∨ c = 'E' then
    match cs with
    | '-' :: rest => (Binary64.ofUnsigned? true rest).map real
    | _ => (Binary64.ofUnsigned? false cs).map real
  else (intOfDigits? cs).map whole

end Number

end Deliberation
