/-
# Number.Binary64 -- double precision as rational arithmetic and one rounding

A finite double is the rational number it stands for.  Every operation is the exact operation on
rationals followed by `Binary64.ofRat`, which rounds once: to the nearest representable number, a
halfway case to the even significand.  The two zeros, the infinities and the undefined value are
constructors, so two doubles are the same datum exactly when they are equal terms.

The comparisons `<` and `≤` are the partial order of the format (false at the undefined value, the
two zeros alike); equality of terms is finer, and tells the zeros apart.
-/

set_option autoImplicit false

namespace Deliberation

/-! ## Rounding a positive quotient -/

/-- The integer nearest to `num / den`; a halfway case goes to the even neighbour. -/
def nearestInteger (num den : Nat) : Nat :=
  let whole := num / den
  let twice := 2 * (num % den)
  if twice < den then whole else if den < twice then whole + 1 else whole + whole % 2

/-- The exponent `e` with `2 ^ e ≤ num / den < 2 ^ (e + 1)`, for a positive quotient. -/
def binaryExponent (num den : Nat) : Int :=
  let e : Int := (num.log2 : Int) - (den.log2 : Int)
  if num * Nat.pow 2 (-e).toNat < den * Nat.pow 2 e.toNat then e - 1 else e

/-- The exponent of the last of 53 binary places of a quotient, never below that of the least
positive double. -/
def lastPlace (num den : Nat) : Int := max (binaryExponent num den - 52) (-1074)

/-- The significand of `num / den` at a given last place, rounded to nearest. -/
def significandAt (num den : Nat) (place : Int) : Nat :=
  nearestInteger (num * Nat.pow 2 (-place).toNat) (den * Nat.pow 2 place.toNat)

/-- The rational `m · 2 ^ e`. -/
def scaled (m : Int) (e : Int) : Rat := 
  mkRat (m * (Nat.pow 2 e.toNat : Nat)) (Nat.pow 2 (-e).toNat)

/-! ## The data -/

/-- A binary64 datum.  `finite 0` is the positive zero. -/
inductive Binary64 where
  | nan
  | infinite (negative : Bool)
  | negativeZero
  | finite (value : Rat)
  deriving DecidableEq

namespace Binary64

instance : Inhabited Binary64 := ⟨finite 0⟩

/-- The double nearest to a rational; a halfway case has an even significand.  A magnitude that
rounds to `2 ^ 1024` or more is infinite, and a negative rational that rounds to zero keeps its
sign. -/
def ofRat (x : Rat) : Binary64 :=
  if x.num = 0 then finite 0
  else
    let num := x.num.natAbs
    let place := lastPlace num x.den
    let m := significandAt num x.den place
    if 971 < place ∨ (place = 971 ∧ Nat.pow 2 53 ≤ m) then infinite (decide (x.num < 0))
    else if x.num < 0 then
      if m = 0 then negativeZero else finite (scaled (-m) place)
    else finite (scaled m place)

/-- The double nearest to an integer. -/
def ofInt (n : Int) : Binary64 := ofRat n

/-- The double nearest to a natural number. -/
def ofNat (n : Nat) : Binary64 := ofInt n

/-- The double nearest to `num / den`. -/
def ofQuotient (num : Int) (den : Nat) : Binary64 := ofRat (mkRat num den)

/-- The double nearest to the decimal `digits · 10 ^ (-places)`. -/
def ofDecimal (digits : Int) (places : Nat) : Binary64 := ofQuotient digits (Nat.pow 10 places)

/-- The rational a datum stands for; zero where it stands for none. -/
def toRat : Binary64 → Rat
  | finite x => x
  | _ => 0

def isFinite : Binary64 → Bool
  | finite _ => true
  | negativeZero => true
  | _ => false

def isNaN : Binary64 → Bool
  | nan => true
  | _ => false

/-- The sign bit. -/
def isNegative : Binary64 → Bool
  | nan => false
  | infinite negative => negative
  | negativeZero => true
  | finite x => decide (x < 0)

/-! ## Order -/

/-- Strictly below, in the order of the extended reals. -/
def lt : Binary64 → Binary64 → Bool
  | nan, _ => false
  | _, nan => false
  | infinite true, infinite true => false
  | infinite true, _ => true
  | infinite false, _ => false
  | _, infinite negative => !negative
  | x, y => decide (x.toRat < y.toRat)

/-- At most, in the order of the extended reals. -/
def le (x y : Binary64) : Bool := !x.isNaN && !y.isNaN && !y.lt x

instance : LT Binary64 := ⟨fun x y => x.lt y = true⟩
instance : LE Binary64 := ⟨fun x y => x.le y = true⟩
instance (x y : Binary64) : Decidable (x < y) := inferInstanceAs (Decidable (x.lt y = true))
instance (x y : Binary64) : Decidable (x ≤ y) := inferInstanceAs (Decidable (x.le y = true))

/-! ## Arithmetic -/

def neg : Binary64 → Binary64
  | nan => nan
  | infinite negative => infinite (!negative)
  | negativeZero => finite 0
  | finite x => if x = 0 then negativeZero else finite (-x)

def abs (x : Binary64) : Binary64 := if x.isNegative then x.neg else x

def add : Binary64 → Binary64 → Binary64
  | nan, _ => nan
  | _, nan => nan
  | infinite a, infinite b => if a = b then infinite a else nan
  | infinite a, _ => infinite a
  | _, infinite b => infinite b
  | negativeZero, negativeZero => negativeZero
  | x, y => ofRat (x.toRat + y.toRat)

def sub (x y : Binary64) : Binary64 := x.add y.neg

/-- A zero that carries the sign of a product or quotient. -/
def zeroOfSign (negative : Bool) : Binary64 := if negative then negativeZero else finite 0

def mul (x y : Binary64) : Binary64 :=
  let negative := x.isNegative != y.isNegative
  match x, y with
  | nan, _ => nan
  | _, nan => nan
  | infinite _, _ => if y.isFinite && y.toRat = 0 then nan else infinite negative
  | _, infinite _ => if x.toRat = 0 then nan else infinite negative
  | _, _ =>
    if x.toRat = 0 ∨ y.toRat = 0 then zeroOfSign negative else ofRat (x.toRat * y.toRat)

def div (x y : Binary64) : Binary64 :=
  let negative := x.isNegative != y.isNegative
  match x, y with
  | nan, _ => nan
  | _, nan => nan
  | infinite _, infinite _ => nan
  | infinite _, _ => infinite negative
  | _, infinite _ => zeroOfSign negative
  | _, _ =>
    if y.toRat = 0 then (if x.toRat = 0 then nan else infinite negative)
    else if x.toRat = 0 then zeroOfSign negative
    else ofRat (x.toRat / y.toRat)

instance : Neg Binary64 := ⟨neg⟩
instance : Add Binary64 := ⟨add⟩
instance : Sub Binary64 := ⟨sub⟩
instance : Mul Binary64 := ⟨mul⟩
instance : Div Binary64 := ⟨div⟩

/-- The greatest integer not above a finite datum. -/
def floor? : Binary64 → Option Int
  | finite x => some x.floor
  | negativeZero => some 0
  | _ => none

/-- The integer part of a finite datum, toward zero. -/
def truncate? (x : Binary64) : Option Int :=
  if x.isFinite then some (x.toRat.num.tdiv x.toRat.den) else none

/-- A finite datum rounded to decimal places, a halfway case of the exact value going to the even
last digit; the result is the double nearest to that decimal. -/
def roundPlaces (x : Binary64) (places : Nat) : Binary64 :=
  match x with
  | finite v =>
    let m := nearestInteger (v.num.natAbs * Nat.pow 10 places) v.den
    if m = 0 then zeroOfSign (decide (v < 0))
    else ofDecimal (if v < 0 then -m else m) places
  | other => other

/-! ## What the comparisons see -/

theorem not_lt_nan (x : Binary64) : ¬x < nan := by
  cases x <;> simp [LT.lt, lt]

end Binary64

end Deliberation
