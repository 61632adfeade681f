/-
# Number.Notation -- doubles with a stated number of digits

Beside `Binary64.fixed` two more notations round the exact value, a halfway case going to the even last
digit.  The scientific one has one digit before the point and a stated number after it.  The general
one has a stated number of significant digits: it is positional for moderate exponents and scientific
otherwise, and leaves trailing zeros off unless they are wanted.
-/
import Deliberation.Number.Decimal

set_option autoImplicit false

namespace Deliberation

namespace Decimal

/-- A magnitude rounded to a number of significant digits, at least one. -/
def rounded (count : Nat) (x : Rat) : Decimal :=
  if x.num = 0 then ⟨0, 1 - (count : Int)⟩
  else
    let exponent := decimalExponent x.num.natAbs x.den - (count - 1 : Nat)
    let digits := nearestInteger (x.num.natAbs * Nat.pow 10 (-exponent).toNat)
      (x.den * Nat.pow 10 exponent.toNat)
    if digits < Nat.pow 10 count then ⟨digits, exponent⟩ else ⟨digits / 10, exponent + 1⟩

/-- The exponent of the first of a number of digits. -/
def leadingExponent (count : Nat) (d : Decimal) : Int := d.exponent + (count - 1 : Nat)

end Decimal

/-- A text without the zeros at its end after a point, nor a point at its end. -/
def withoutTrailingZeros (text : String) : String :=
  if text.contains '.' then
    let kept := text.toList.reverse.dropWhile (· = '0')
    String.ofList (if kept.head? = some '.' then kept.drop 1 else kept).reverse
  else text

/-- Whether a notation keeps a point that no digit follows, and zeros that say nothing. -/
inductive Padding where
  | bare
  | full
  deriving DecidableEq

/-- A text that ends in a point where it has none and all places are kept. -/
def Padding.withPoint (p : Padding) (text : String) : String :=
  if p = .full ∧ text.contains '.' = false then text ++ "." else text

namespace Binary64

/-- A magnitude in fixed notation. -/
def fixedNotation (p : Padding) (places : Nat) (x : Rat) : String :=
  p.withPoint (fixedMagnitude places x)

/-- The digits of a scientific notation, with a point after the first. -/
def mantissa (p : Padding) (places : Nat) (d : Decimal) : String :=
  let digits := (natDigits d.digits).toList
  let part := digits.drop 1 ++ List.replicate (places + 1 - digits.length) '0'
  p.withPoint (String.ofList (digits.take 1 ++ if places = 0 then [] else '.' :: part))

/-- An exponent with its sign and at least two digits. -/
def exponentText (e : Int) : String :=
  "e" ++ (if e < 0 then "-" else "+") ++ zeroFill 2 (natDigits e.natAbs)

/-- A magnitude in scientific notation. -/
def scientificNotation (p : Padding) (places : Nat) (x : Rat) : String :=
  let d := Decimal.rounded (places + 1) x
  let lead := if d.digits = 0 then 0 else d.leadingExponent (places + 1)
  mantissa p places d ++ exponentText lead

/-- A magnitude in general notation. -/
def generalNotation (p : Padding) (count : Nat) (x : Rat) : String :=
  let count := max count 1
  let d := Decimal.rounded count x
  let lead := if d.digits = 0 then 0 else d.leadingExponent count
  let trimmed (text : String) : String := if p = .full then text else withoutTrailingZeros text
  if lead < -4 ∨ count ≤ lead then
    trimmed (mantissa p (count - 1) d) ++ exponentText lead
  else trimmed (fixedNotation p ((count - 1 : Nat) - lead).toNat x)

end Binary64

end Deliberation
