/-
# Proofs.Number.Scores -- how far two scores are apart

A score is a finite double, or a whole number so small that doubles reckon with it exactly
(`Number.IsScore`).  What lies in the unit interval is a score (`isScore_of_inUnit`).  The difference of two
scores has an answer, and once it is rounded to places it compares as that of the doubles which stand
for them (`exists_sub`).  This difference, the `spread`, grows with the greater score
and with a falling lesser one (`spread_le_spread`), and a score is no distance from itself (`spread_self`).
Doubles from the unit interval are at most one apart (`upTo_abs_sub`).
-/
import Deliberation.Proofs.Number.Operations

set_option autoImplicit false

namespace Deliberation

namespace Binary64

variable {x y : Binary64} {places : ℕ}

/-! ## Rounding to places -/

/-- A representable number is its own double, of either sign. -/
theorem ofRat_eq_finite {r : ℚ} (hr : Representable r) (fits : |r| < overflow) :
    ofRat r = finite r := by
  have value := toRat_ofRat_of_representable hr fits
  have fin := isFinite_ofRat fits
  cases h : ofRat r with
  | nan => rw [h] at fin; exact absurd fin (by decide)
  | infinite negative => rw [h] at fin; exact absurd fin (by simp [isFinite])
  | negativeZero =>
      rw [h] at value
      obtain rfl : (0 : ℚ) = r := value
      exact absurd h (by decide)
  | finite q =>
      rw [h] at value
      exact congrArg finite value

/-- A whole number that a double holds exactly. -/
theorem ofRat_int {k : ℤ} (small : |k| ≤ 2 ^ 53) : ofRat k = finite k := by
  apply ofRat_eq_finite (representable_int small)
  calc |(k : ℚ)| ≤ 2 ^ 53 := by exact_mod_cast small
    _ < overflow := two_pow_lt_overflow (by norm_num)

/-- A small whole number is rounded already. -/
theorem roundPlaces_int {k : ℤ} (small : |k| ≤ 2 ^ 53) (places : ℕ) :
    (finite k).roundPlaces places = finite k := by
  have scale : ((Nat.pow 10 places : ℕ) : ℚ) ≠ 0 := Nat.cast_ne_zero.2 (by simp)
  have restored (n : ℤ) (same : n = k * (Nat.pow 10 places : ℕ)) : ofDecimal n places = finite k := by
    rw [ofDecimal, ofQuotient, Rat.mkRat_eq_div, same, ← ofRat_int small]
    congr 1
    rw [Int.cast_mul, Int.cast_natCast, mul_div_cancel_right₀ _ scale]
  simp only [roundPlaces, Rat.num_intCast, Rat.den_intCast, nearestInteger_one]
  by_cases zero : k = 0
  · subst zero
    simp [zeroOfSign]
  · have digits : ¬k.natAbs * Nat.pow 10 places = 0 := by
      simp [zero]
    rw [if_neg digits]
    split_ifs with negative
    · have below : k < 0 := by exact_mod_cast negative
      apply restored
      push_cast
      rw [abs_of_neg below]
      simp
    · have above : 0 ≤ k := not_lt.1 (by exact_mod_cast negative)
      apply restored
      push_cast
      rw [abs_of_nonneg above]

theorem isNaN_roundPlaces (h : x.isNaN = false) (places : ℕ) :
    (x.roundPlaces places).isNaN = false := by
  cases x with
  | nan => exact absurd h (by decide)
  | infinite negative => rfl
  | negativeZero => rfl
  | finite q =>
      simp only [roundPlaces]
      split_ifs
      · unfold zeroOfSign
        split_ifs <;> rfl
      · exact isNaN_ofRat _
      · exact isNaN_ofRat _

/-- A finite datum is rounded as the rational it stands for. -/
theorem place_roundPlaces (h : x.isFinite = true) (places : ℕ) :
    (x.roundPlaces places).place = ((finite x.toRat).roundPlaces places).place := by
  cases x with
  | nan => exact absurd h (by decide)
  | infinite negative => exact absurd h (by simp [isFinite])
  | negativeZero =>
      have zero := roundPlaces_int (k := 0) (by norm_num) places
      rw [Int.cast_zero] at zero
      change place negativeZero = ((finite 0).roundPlaces places).place
      rw [zero]
      rfl
  | finite q => rfl

/-- **Rounding to places keeps the order** from zero upward. -/
theorem roundPlaces_mono (nonneg : finite 0 ≤ x) (h : x ≤ y) :
    x.roundPlaces places ≤ y.roundPlaces places := by
  rcases le_cases h with rfl | rfl | ⟨finX, finY, le⟩
  · exact absurd nonneg (by decide)
  · exact le_infinite (isNaN_roundPlaces (isNaN_of_le_left h) places)
  · have above : 0 ≤ x.toRat := (le_iff_of_isFinite rfl finX).1 nonneg
    have rounded : (finite x.toRat).roundPlaces places ≤ (finite y.toRat).roundPlaces places :=
      roundPlaces_le_roundPlaces above le
    have ordered := ((le_iff _ _).1 rounded).2.2
    refine (le_iff _ _).2 ⟨isNaN_roundPlaces (isNaN_of_isFinite finX) places,
      isNaN_roundPlaces (isNaN_of_isFinite finY) places, ?_⟩
    rwa [place_roundPlaces finX, place_roundPlaces finY]

/-! ## The spread of two doubles -/

theorem finite_sub_finite (a b : ℚ) : finite a - finite b = ofRat (a - b) := by
  change (finite a).add (finite b).neg = _
  rw [neg]
  split_ifs with zero
  · simp [add, toRat, zero]
  · simp [add, toRat, sub_eq_add_neg]

/-- The distance of two doubles, to decimal places. -/
def spread (places : ℕ) (x y : Binary64) : Binary64 := (x - y).roundPlaces places

variable {x' y' : Binary64}

theorem spread_self (h : x.isFinite = true) (places : ℕ) : spread places x x = finite 0 := by
  have zero := roundPlaces_int (k := 0) (by norm_num) places
  rw [Int.cast_zero] at zero
  have none : x - x = finite 0 := by
    cases x with
    | nan => exact absurd h (by decide)
    | infinite negative => exact absurd h (by simp [isFinite])
    | negativeZero =>
        change ofRat (0 + 0) = finite 0
        rw [add_zero, ofRat_zero]
    | finite q => rw [finite_sub_finite, sub_self, ofRat_zero]
  rw [spread, none, zero]

/-- The distance to the lesser of two doubles grows with the greater and as the lesser falls. -/
theorem spread_le_spread (hx : x.isFinite = true) (hy : y.isFinite = true)
    (hx' : x'.isFinite = true) (hy' : y'.isFinite = true) (lesser : y ≤ x) (greater : x ≤ x')
    (falls : y' ≤ y) : spread places x y ≤ spread places x' y' := by
  have le := (le_iff_of_isFinite hy hx).1 lesser
  refine roundPlaces_mono ?_ (sub_le_sub hx hy hx' hy' ((le_iff_of_isFinite hx hx').1 greater)
    ((le_iff_of_isFinite hy' hy).1 falls))
  obtain ⟨defined, place⟩ := place_sub hx hy
  refine (le_iff _ _).2 ⟨rfl, defined, ?_⟩
  rw [place, ← ofRat_zero]
  exact ((le_iff _ _).1 (ofRat_mono (sub_nonneg.2 le))).2.2

theorem isNaN_spread (hx : x.isFinite = true) (hy : y.isFinite = true) (places : ℕ) :
    (spread places x y).isNaN = false :=
  isNaN_roundPlaces (place_sub hx hy).1 places

/-! ## Distances in the unit interval -/

theorem abs_eq_finite (h : x.isFinite = true) : x.abs = finite |x.toRat| := by
  cases x with
  | nan => exact absurd h (by decide)
  | infinite negative => exact absurd h (by simp [isFinite])
  | negativeZero => simp [abs, isNegative, neg, toRat]
  | finite q =>
      rcases lt_or_ge q 0 with negative | nonneg
      · simp [abs, isNegative, neg, toRat, negative, negative.ne, abs_of_neg]
      · rw [toRat, abs_of_nonneg nonneg]
        simp [abs, isNegative, not_lt.2 nonneg]

/-- Rounding keeps a magnitude of at most one. -/
theorem abs_toRat_ofRat_le_one {q : ℚ} (h : |q| ≤ 1) :
    (ofRat q).isFinite = true ∧ |(ofRat q).toRat| ≤ 1 := by
  obtain ⟨low, high⟩ := abs_le.1 h
  have fits {r : ℚ} (small : |r| ≤ 1) : |r| < overflow := small.trans_lt one_lt_overflow
  have one := toRat_ofRat_of_representable representable_one (fits (by simp))
  have minusOne := toRat_ofRat_of_representable (representable_neg representable_one) (fits (by simp))
  refine ⟨isFinite_ofRat (fits h), abs_le.2 ⟨?_, ?_⟩⟩
  · exact minusOne ▸ toRat_ofRat_mono low (fits (by simp)) (fits h)
  · exact one ▸ toRat_ofRat_mono high (fits h) (fits (by simp))

/-- Two doubles from the unit interval are at most one apart. -/
theorem upTo_abs_sub (hx : UpTo 1 x) (hy : UpTo 1 y) : UpTo 1 (x - y).abs := by
  obtain ⟨a, rfl, -, a0, a1⟩ := hx
  obtain ⟨b, rfl, -, b0, b1⟩ := hy
  have near : |a - b| ≤ 1 := abs_le.2 ⟨by linarith, by linarith⟩
  obtain ⟨finiteDifference, bounded⟩ := abs_toRat_ofRat_le_one near
  rw [finite_sub_finite, abs_eq_finite finiteDifference]
  refine upTo_finite ?_ (abs_nonneg _) bounded
  have held := representable_ofRat (near.trans_lt one_lt_overflow)
  rcases abs_choice (ofRat (a - b)).toRat with same | opposite
  · rwa [same]
  · rw [opposite]
    exact representable_neg held

end Binary64

namespace Number

open Binary64

/-- What is put into the unit interval from there stays a double of it. -/
theorem upTo_clampUnit {x : Binary64} (h : UpTo 1 x) : UpTo 1 (real x).clampUnit := by
  unfold clampUnit
  split_ifs
  · exact h
  · exact upTo_zero
  · exact upTo_one

/-- A finite double, or a whole number so small that the difference of two of them is a double too.
Beyond that, how far two numbers are apart would depend on which of them are whole. -/
def IsScore : Number → Prop
  | whole n => |n| ≤ 2 ^ 52
  | real x => x.isFinite = true

instance : DecidablePred IsScore
  | whole n => inferInstanceAs (Decidable (|n| ≤ 2 ^ 52))
  | real x => inferInstanceAs (Decidable (x.isFinite = true))

variable {a b d : Number}

theorem IsScore.isFinite (h : a.IsScore) : a.exact.isFinite = true := by
  cases a with
  | whole n => rfl
  | real x => exact h

theorem IsScore.toBinary64 (h : a.IsScore) : a.toBinary64 = .ok a.exact := by
  cases a with
  | whole n =>
      have small : |n| ≤ 2 ^ 53 := h.trans (by norm_num)
      simp [Number.toBinary64, ofWhole, ofInt, ofRat_int small, exact]
  | real x => rfl

theorem isScore_of_inUnit (h : a.inUnit = true) : a.IsScore := by
  unfold inUnit at h
  simp only [Bool.and_eq_true, decide_eq_true_eq] at h
  obtain ⟨low, high⟩ := h
  cases a with
  | whole n =>
      have low' : (0 : ℚ) ≤ n := (le_iff_of_isFinite rfl rfl).1 low
      have high' : (n : ℚ) ≤ 1 := (le_iff_of_isFinite rfl rfl).1 high
      have nonneg : 0 ≤ n := by exact_mod_cast low'
      have small : n ≤ 1 := by exact_mod_cast high'
      rw [IsScore, abs_of_nonneg nonneg]
      omega
  | real x =>
      cases x with
      | nan => exact absurd low (by decide)
      | infinite negative => cases negative <;> contradiction
      | negativeZero => rfl
      | finite q => rfl

/-- The difference of two scores has an answer, which stands for the difference of their doubles. -/
theorem exists_sub (ha : a.IsScore) (hb : b.IsScore) (places : ℕ) :
    ∃ d, a.sub b = .ok d ∧ d.exact = a.exact - b.exact ∧
      (d.roundPlaces places).exact = d.exact.roundPlaces places := by
  cases a with
  | whole m =>
      cases b with
      | whole n =>
          have small : |m - n| ≤ 2 ^ 53 := by
            calc |m - n| ≤ |m| + |n| := abs_sub _ _
              _ ≤ 2 ^ 52 + 2 ^ 52 := add_le_add ha hb
              _ = 2 ^ 53 := by norm_num
          have difference : finite m - finite n = finite ((m - n : ℤ) : ℚ) := by
            rw [finite_sub_finite, ← ofRat_int small, Int.cast_sub]
          exact ⟨.whole (m - n), rfl, difference.symm, (roundPlaces_int small places).symm⟩
      | real y => exact ⟨_, bind_eq_ok_iff.2 ⟨_, ha.toBinary64, rfl⟩, rfl, rfl⟩
  | real x =>
      refine ⟨.real (x - b.exact), ?_, rfl, rfl⟩
      cases b with
      | whole n => exact bind_eq_ok_iff.2 ⟨x, rfl, bind_eq_ok_iff.2 ⟨_, hb.toBinary64, rfl⟩⟩
      | real y => rfl

end Number

end Deliberation
