/-
# Number.Basic -- whole numbers beside doubles

Scores, weights and thresholds arrive either as whole numbers of any size or as doubles, and keep
their kind when they are only passed on.  Comparisons between the kinds are exact.  Arithmetic on
two whole numbers is exact; with a double among the operands both become doubles, which fails for a
whole number beyond the range of doubles (`NumberFault.tooLarge`).
-/
import Deliberation.Number.Decimal

set_option autoImplicit false

namespace Deliberation

/-- Why a number has no answer. -/
inductive NumberFault where
  /-- A whole number, or a quotient of two, beyond the range of doubles. -/
  | tooLarge
  /-- The undefined value was to become an integer. -/
  | undefinedInteger
  /-- An infinite value was to become an integer. -/
  | infiniteInteger
  | divisionByZero
  deriving DecidableEq, Repr

/-- A whole number of any size, or a double. -/
inductive Number where
  | whole (n : Int)
  | real (x : Binary64)
  deriving DecidableEq

namespace Binary64

/-- The double nearest to a whole number, within the range of doubles. -/
def ofWhole (n : Int) : Except NumberFault Binary64 :=
  match ofInt n with
  | infinite _ => .error .tooLarge
  | x => .ok x

/-- The double nearest to the quotient of two whole numbers; the divisor is not zero. -/
def ofRatio (n d : Int) : Except NumberFault Binary64 :=
  match ofRat (n / d : Rat) with
  | infinite _ => .error .tooLarge
  | x => .ok x

/-- One of the two zeros. -/
def isZero (x : Binary64) : Bool := x.isFinite && x.toRat == 0

/-- The greatest integer not above the datum. -/
def floor (x : Binary64) : Except NumberFault Int :=
  match x.floor?, x with
  | some n, _ => .ok n
  | none, nan => .error .undefinedInteger
  | none, _ => .error .infiniteInteger

/-- The integer part of the datum, toward zero. -/
def truncate (x : Binary64) : Except NumberFault Int :=
  match x.truncate?, x with
  | some n, _ => .ok n
  | none, nan => .error .undefinedInteger
  | none, _ => .error .infiniteInteger

end Binary64

namespace Number

instance : Inhabited Number := ⟨whole 0⟩

/-- The number as a double. -/
def toBinary64 : Number → Except NumberFault Binary64
  | whole n => Binary64.ofWhole n
  | real x => .ok x

def isWhole : Number → Bool
  | whole _ => true
  | real _ => false

/-- The double that compares with doubles as the number does, no rounding involved. -/
def exact : Number → Binary64
  | whole n => .finite n
  | real x => x

/-- Strictly below; the kinds compare by their exact values. -/
def lt (a b : Number) : Bool := a.exact.lt b.exact

/-- At most; the kinds compare by their exact values. -/
def le (a b : Number) : Bool := a.exact.le b.exact

instance : LT Number := ⟨fun a b => a.lt b = true⟩
instance : LE Number := ⟨fun a b => a.le b = true⟩
instance (a b : Number) : Decidable (a < b) := inferInstanceAs (Decidable (a.lt b = true))
instance (a b : Number) : Decidable (a ≤ b) := inferInstanceAs (Decidable (a.le b = true))

/-- The second number where it is strictly below the first, else the first. -/
def least (a b : Number) : Number := if b < a then b else a

/-- The second number where it is strictly above the first, else the first. -/
def greatest (a b : Number) : Number := if a < b then b else a

/-- An operation on whole numbers and the one on doubles, as one on numbers. -/
def lift (onWhole : Int → Int → Int) (onReal : Binary64 → Binary64 → Binary64) (a b : Number) :
    Except NumberFault Number :=
  match a, b with
  | whole m, whole n => .ok (whole (onWhole m n))
  | _, _ => do
    let x ← a.toBinary64
    let y ← b.toBinary64
    return real (onReal x y)

def add : Number → Number → Except NumberFault Number := lift (· + ·) (· + ·)

def sub : Number → Number → Except NumberFault Number := lift (· - ·) (· - ·)

def mul : Number → Number → Except NumberFault Number := lift (· * ·) (· * ·)

/-- Zero, of either kind and sign. -/
def isZero : Number → Bool
  | whole n => decide (n = 0)
  | real x => x.isZero

/-- The quotient as a double: that of two whole numbers is rounded once, any other is one of doubles.
Nothing is divided by zero. -/
def div (a b : Number) : Except NumberFault Binary64 :=
  match a, b with
  | whole m, whole n => if n = 0 then .error .divisionByZero else Binary64.ofRatio m n
  | _, _ => do
    let x ← a.toBinary64
    let y ← b.toBinary64
    if y.isZero then throw .divisionByZero
    return x / y

/-- The sum, from whole zero on and from left to right. -/
def sum (numbers : List Number) : Except NumberFault Number := numbers.foldlM add (whole 0)

/-- The magnitude. -/
def abs : Number → Number
  | whole n => whole n.natAbs
  | real x => real x.abs

/-- The greatest integer not above the number. -/
def floor : Number → Except NumberFault Int
  | whole n => .ok n
  | real x => x.floor

/-- The integer part of the number, toward zero. -/
def truncate : Number → Except NumberFault Int
  | whole n => .ok n
  | real x => x.truncate

/-- A number rounded to decimal places, halves of the exact value to even; whole numbers are
already rounded. -/
def roundPlaces (places : Nat) : Number → Number
  | whole n => whole n
  | real x => real (x.roundPlaces places)

/-- Within the closed unit interval. -/
def inUnit (a : Number) : Bool := decide (real (.finite 0) ≤ a) && decide (a ≤ real (.finite 1))

/-- Below zero or above one, which the undefined value is not. -/
def outsideUnit (a : Number) : Bool := decide (a < real (.finite 0)) || decide (real (.finite 1) < a)

/-! ## Whole numbers stay whole -/

@[simp] theorem add_whole (m n : Int) : (whole m).add (whole n) = .ok (whole (m + n)) := rfl

@[simp] theorem sub_whole (m n : Int) : (whole m).sub (whole n) = .ok (whole (m - n)) := rfl

@[simp] theorem mul_whole (m n : Int) : (whole m).mul (whole n) = .ok (whole (m * n)) := rfl

theorem div_whole {m n : Int} (h : n ≠ 0) : (whole m).div (whole n) = Binary64.ofRatio m n :=
  if_neg h

@[simp] theorem isZero_whole (n : Int) : (whole n).isZero = decide (n = 0) := rfl

/-- The shortest text of the number; a double always has a point or an exponent. -/
def text (names : NonFiniteNames) : Number → String
  | whole n => intDigits n
  | real x => x.text names

end Number

end Deliberation
