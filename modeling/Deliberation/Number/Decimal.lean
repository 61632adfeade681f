/-
# Number.Decimal -- doubles as decimal text

Two ways to write a double.  `Binary64.text` uses the fewest digits that read back as the same
double: of the decimal grids `10 ^ k` it takes the coarsest that meets the interval of rationals
rounding to the datum, and on that grid the point nearest to it.  `Binary64.fixed` writes the exact
value rounded to a number of places, a halfway case going to the even last digit.
-/
import Deliberation.Number.Binary64

set_option autoImplicit false

namespace Deliberation

/-- The digits of a natural number, to base ten. -/
def natDigits (n : Nat) : String := String.ofList (Nat.toDigits 10 n)

/-- The digits of an integer, to base ten, after its sign. -/
def intDigits (n : Int) : String :=
  if n < 0 then "-" ++ natDigits n.natAbs else natDigits n.natAbs

/-- The text with zeros put before it up to a width. -/
def zeroFill (width : Nat) (text : String) : String :=
  String.ofList (List.replicate (width - text.length) '0') ++ text

/-- The decimal number `digits · 10 ^ exponent`. -/
structure Decimal where
  digits : Nat
  exponent : Int
  deriving DecidableEq

namespace Decimal

def toRat (d : Decimal) : Rat :=
  if 0 ≤ d.exponent then ((d.digits * Nat.pow 10 d.exponent.toNat : Nat) : Rat)
  else mkRat d.digits (Nat.pow 10 (-d.exponent).toNat)

/-- The exponent `k` with `10 ^ k ≤ num / den < 10 ^ (k + 1)`, for a positive quotient. -/
def decimalExponent (num den : Nat) : Int :=
  let guess := (binaryExponent num den * 30103).fdiv 100000
  let reaches (k : Int) : Bool := 
    decide (den * Nat.pow 10 k.toNat ≤ num * Nat.pow 10 (-k).toNat)
  if reaches (guess + 1) then guess + 1 else if reaches guess then guess else guess - 1

/-- The rationals that round to a positive double: from `low` to `high`, the ends included when
the significand is even. -/
structure Basin where
  low : Rat
  high : Rat
  closed : Bool

/-- The basin of a positive double. -/
def Basin.of (x : Rat) : Basin :=
  let place := lastPlace x.num.natAbs x.den
  let m := significandAt x.num.natAbs x.den place
  let half := scaled 1 (place - 1)
  let below := if m = Nat.pow 2 52 ∧ -1074 < place then scaled 1 (place - 2) else half
  ⟨x - below, x + half, m % 2 = 0⟩

def Basin.holds (b : Basin) (x : Rat) : Bool :=
  if b.closed then decide (b.low ≤ x ∧ x ≤ b.high) else decide (b.low < x ∧ x < b.high)

/-- The nearest point of the grid `10 ^ exponent` to `x` that lies in the basin: one of the two
neighbours of `x`, and the even one of two that are equally near. -/
def onGrid? (b : Basin) (x : Rat) (exponent : Int) : Option Decimal :=
  let num := x.num.natAbs * Nat.pow 10 (-exponent).toNat
  let den := x.den * Nat.pow 10 exponent.toNat
  let lower : Decimal := ⟨num / den, exponent⟩
  let upper : Decimal := ⟨num / den + 1, exponent⟩
  let nearer : Decimal := ⟨nearestInteger num den, exponent⟩
  match b.holds lower.toRat, b.holds upper.toRat with
  | true, true => some nearer
  | true, false => some lower
  | false, true => some upper
  | false, false => none

/-- The shortest decimal that reads back as a positive double.  Seventeen digits always do. -/
def shortest (x : Rat) : Decimal :=
  let basin := Basin.of x
  let top := decimalExponent x.num.natAbs x.den
  let grids := (List.range 17).map fun (n : Nat) => top - n
  (grids.findSome? (onGrid? basin x)).getD ⟨x.floor.toNat, 0⟩

/-- The digits without trailing zeros, and the exponent of the first of them. -/
def significant (d : Decimal) : List Char × Int :=
  let all := Nat.toDigits 10 d.digits
  ((all.reverse.dropWhile (· = '0')).reverse, d.exponent + all.length - 1)

/-- Positional for a first digit at `10 ^ -4` to `10 ^ 15`, with at least one digit after the
point; else with an exponent of at least two digits. -/
def text (d : Decimal) : String :=
  let (digits, lead) := d.significant
  if lead < -4 ∨ 16 ≤ lead then
    let mantissa :=
      match digits with
      | [] => "0"
      | [c] => String.singleton c
      | c :: rest => String.ofList (c :: '.' :: rest)
    mantissa ++ "e" ++ (if lead < 0 then "-" else "+") ++ zeroFill 2 (natDigits lead.natAbs)
  else if lead < 0 then
    "0." ++ String.ofList (List.replicate (-lead - 1).toNat '0' ++ digits)
  else
    let size := lead.toNat + 1
    let whole := digits.take size
    let part := digits.drop size
    String.ofList (whole ++ List.replicate (size - whole.length) '0' ++
      '.' :: (if part.isEmpty then ['0'] else part))

end Decimal

/-- How a format spells the data that no decimal can write. -/
structure NonFiniteNames where
  undefined : String
  infinity : String

/-- Lower-case names, as in messages and context pairs. -/
def NonFiniteNames.plain : NonFiniteNames := ⟨"nan", "inf"⟩

/-- The bare words of a JSON dialect that admits them. -/
def NonFiniteNames.json : NonFiniteNames := ⟨"NaN", "Infinity"⟩

namespace Binary64

/-- The shortest text that reads back as the datum. -/
def text (names : NonFiniteNames) : Binary64 → String
  | nan => names.undefined
  | infinite negative => (if negative then "-" else "") ++ names.infinity
  | negativeZero => "-0.0"
  | finite x =>
    if x = 0 then "0.0"
    else if x < 0 then "-" ++ (Decimal.shortest (-x)).text
    else (Decimal.shortest x).text

/-- A magnitude with a number of places after the point. -/
def fixedMagnitude (places : Nat) (x : Rat) : String :=
  let digits := zeroFill (places + 1)
    (natDigits (nearestInteger (x.num.natAbs * Nat.pow 10 places) x.den))
  if places = 0 then digits
  else
    let cs := digits.toList
    String.ofList (cs.take (cs.length - places) ++ '.' :: cs.drop (cs.length - places))

/-- The exact value rounded to a number of places; a negative datum keeps its sign, also where
no digit but zero is left. -/
def fixed (places : Nat) : Binary64 → String
  | nan => "nan"
  | infinite negative => if negative then "-inf" else "inf"
  | x => (if x.isNegative then "-" else "") ++ fixedMagnitude places x.toRat

/-- The datum times one hundred, with a number of places and a percent sign. -/
def percent (places : Nat) (x : Binary64) : String := (x * ofNat 100).fixed places ++ "%"

end Binary64

end Deliberation
