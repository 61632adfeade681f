/-
# Number.Rounding -- halves go up, scores stay in the unit interval

`Number.roundHalfUp` scales, adds one half, takes the floor and scales back.  The addition happens
in doubles, so a value just below a half can still go up: the greatest double below `0.5` becomes
`1`.  Places so far to the left of the point that the scale is no double but zero leave nothing to
scale back by (`NumberFault.divisionByZero`).  `Number.clampUnit` puts any number into `[0, 1]`, and an
undefined value at `1`.
-/
import Deliberation.Number.Basic

set_option autoImplicit false

namespace Deliberation

/-- One half. -/
def oneHalf : Binary64 := .finite (1 / 2 : Rat)

namespace Number

/-- The number rounded to a multiple of `1 / factor`, halves upward. -/
def roundBy (value factor : Number) : Except NumberFault Binary64 := do
  let shifted ← (← value.mul factor).add (real oneHalf)
  (whole (← shifted.floor)).div factor

/-- Ten to a power: a whole number, or for a negative power the double nearest to it.  The power itself
has to be in the range of doubles when it is negative. -/
def powerOfTen (power : Int) : Except NumberFault Number :=
  if 0 ≤ power then .ok (whole (Nat.pow 10 power.toNat : Nat))
  else do
    let _ ← Binary64.ofWhole power
    return real (if power < -400 then .finite 0 else .ofDecimal 1 (-power).toNat)

/-- The number rounded to decimal places, halves upward.  Negative places round to tens, hundreds
and so on. -/
def roundHalfUp (value : Number) (places : Int) : Except NumberFault Binary64 := do
  value.roundBy (← powerOfTen places)

/-- The number put into the closed unit interval. -/
def clampUnit (value : Number) : Binary64 :=
  if value < real (.finite 1) then
    if real (.finite 0) < value then value.exact else .finite 0
  else .finite 1

end Number

end Deliberation
