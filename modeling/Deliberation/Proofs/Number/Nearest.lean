/-
# Proofs.Number.Nearest -- a double is the nearest one

`Binary64.ofRat` rounds to a representable number that no other representable number is nearer to
(`ofRat_nearest`).  What arithmetic on doubles needs follows from that alone:

* a representable number is its own double (`ofRat_of_representable`);
* rounding keeps the order (`toRat_ofRat_mono`);
* nothing below the overflow threshold becomes infinite (`isFinite_ofRat`).

A number counts as representable when 53 binary places hold it and its last place is not below that
of the least positive double.  How large it may be is asked for where rounding could overflow.
-/
import Deliberation.Number.Binary64
import Mathlib.Algebra.Order.Field.Rat
import Mathlib.Algebra.Order.Field.Power
import Mathlib.Algebra.Order.Floor.Ring
import Mathlib.Data.Rat.Floor
import Mathlib.Tactic.FieldSimp
import Mathlib.Tactic.Linarith
import Mathlib.Tactic.NormNum
import Mathlib.Tactic.Positivity
import Mathlib.Tactic.Ring

set_option autoImplicit false

namespace Deliberation

/-! ## Rounding a positive quotient -/

theorem nearestInteger_error {num den : ℕ} (positive : 0 < den) :
    |(nearestInteger num den : ℚ) - num / den| ≤ 1 / 2 := by
  have scale : (0 : ℚ) < den := by exact_mod_cast positive
  have split : (num : ℚ) = den * (num / den : ℕ) + (num % den : ℕ) := by
    exact_mod_cast (Nat.div_add_mod num den).symm
  have below : (num % den : ℕ) < den := Nat.mod_lt num positive
  have value : (num : ℚ) / den = (num / den : ℕ) + ((num % den : ℕ) : ℚ) / den := by
    rw [split]; field_simp
  rw [value]
  have share : ((num % den : ℕ) : ℚ) / den * den = (num % den : ℕ) := by field_simp
  unfold nearestInteger
  simp only
  split_ifs with low high
  · have low' : 2 * ((num % den : ℕ) : ℚ) < den := by exact_mod_cast low
    rw [abs_le]
    constructor <;> nlinarith [show (0 : ℚ) ≤ ((num % den : ℕ) : ℚ) / den by positivity]
  · have high' : (den : ℚ) < 2 * ((num % den : ℕ) : ℚ) := by exact_mod_cast high
    have below' : ((num % den : ℕ) : ℚ) < den := by exact_mod_cast below
    push_cast
    rw [abs_le]
    constructor <;> nlinarith
  · -- Halfway: the distance is one half to either side.
    have half : 2 * ((num % den : ℕ) : ℚ) = den := by
      have : 2 * (num % den) = den := by omega
      exact_mod_cast this
    have exact_half : ((num % den : ℕ) : ℚ) / den = 1 / 2 := by
      rw [div_eq_div_iff scale.ne' two_ne_zero]; linarith
    rw [exact_half]
    rcases Nat.mod_two_eq_zero_or_one (num / den) with even | odd
    · rw [even, abs_le]; constructor <;> push_cast <;> linarith
    · rw [odd, abs_le]; constructor <;> push_cast <;> linarith

/-- An integer within one half is as near as any other. -/
theorem near_of_error {x : ℚ} {m : ℤ} (close : |(m : ℚ) - x| ≤ 1 / 2) (k : ℤ) :
    |(m : ℚ) - x| ≤ |(k : ℚ) - x| := by
  rcases eq_or_ne k m with rfl | different
  · exact le_rfl
  · have apart : (1 : ℚ) ≤ |(k : ℚ) - m| := by
      have : (1 : ℤ) ≤ |k - m| := Int.one_le_abs (sub_ne_zero.2 different)
      exact_mod_cast this
    have triangle : |(k : ℚ) - m| ≤ |(k : ℚ) - x| + |(m : ℚ) - x| := by
      rw [abs_sub_comm (m : ℚ) x]
      exact abs_sub_le _ _ _
    linarith

theorem pow_eq_zpow (e : ℤ) (nonneg : 0 ≤ e) : ((Nat.pow 2 e.toNat : ℕ) : ℚ) = 2 ^ e := by
  have : (2 : ℚ) ^ e = 2 ^ ((e.toNat : ℕ) : ℤ) := by rw [Int.toNat_of_nonneg nonneg]
  rw [this, zpow_natCast]
  simp

/-- The two whole factors of a power of two, one of them `1`. -/
theorem zpow_eq_div (e : ℤ) :
    (2 : ℚ) ^ e = (Nat.pow 2 e.toNat : ℕ) / (Nat.pow 2 (-e).toNat : ℕ) := by
  rcases le_total 0 e with nonneg | nonpos
  · rw [pow_eq_zpow e nonneg, show (-e).toNat = 0 by omega]; simp
  · rw [pow_eq_zpow (-e) (by omega), show e.toNat = 0 by omega, zpow_neg]; simp

theorem scaled_eq (m e : ℤ) : scaled m e = m * 2 ^ e := by
  rw [scaled, Rat.mkRat_eq_div, zpow_eq_div]
  push_cast
  ring

theorem two_zpow_pos (e : ℤ) : (0 : ℚ) < 2 ^ e := by positivity

/-- The binary exponent of a positive quotient is exact. -/
theorem binaryExponent_spec {num den : ℕ} (hnum : 0 < num) (hden : 0 < den) :
    (2 : ℚ) ^ binaryExponent num den ≤ num / den ∧
      (num : ℚ) / den < 2 ^ (binaryExponent num den + 1) := by
  have hd : (0 : ℚ) < den := by exact_mod_cast hden
  have numLow : (2 : ℚ) ^ ((num.log2 : ℕ) : ℤ) ≤ num := by
    rw [zpow_natCast]; exact_mod_cast Nat.log2_self_le hnum.ne'
  have numHigh : (num : ℚ) < 2 ^ ((num.log2 : ℕ) + 1 : ℤ) := by
    have : num < 2 ^ (num.log2 + 1) := Nat.lt_log2_self
    exact_mod_cast this
  have denLow : (2 : ℚ) ^ ((den.log2 : ℕ) : ℤ) ≤ den := by
    rw [zpow_natCast]; exact_mod_cast Nat.log2_self_le hden.ne'
  have denHigh : (den : ℚ) < 2 ^ ((den.log2 : ℕ) + 1 : ℤ) := by
    have : den < 2 ^ (den.log2 + 1) := Nat.lt_log2_self
    exact_mod_cast this
  set e : ℤ := (num.log2 : ℤ) - (den.log2 : ℤ) with he
  -- The quotient of the leading bits is off by one place at most.
  have low : (2 : ℚ) ^ (e - 1) < num / den := by
    rw [lt_div_iff₀ hd]
    calc (2 : ℚ) ^ (e - 1) * den < 2 ^ (e - 1) * 2 ^ ((den.log2 : ℕ) + 1 : ℤ) :=
          mul_lt_mul_of_pos_left denHigh (two_zpow_pos _)
      _ = 2 ^ ((num.log2 : ℕ) : ℤ) := by rw [← zpow_add₀ two_ne_zero]; congr 1; omega
      _ ≤ num := numLow
  have high : (num : ℚ) / den < 2 ^ (e + 1) := by
    rw [div_lt_iff₀ hd]
    calc (num : ℚ) < 2 ^ ((num.log2 : ℕ) + 1 : ℤ) := numHigh
      _ = 2 ^ (e + 1) * 2 ^ ((den.log2 : ℕ) : ℤ) := by
          rw [← zpow_add₀ two_ne_zero]; congr 1; omega
      _ ≤ 2 ^ (e + 1) * den := mul_le_mul_of_nonneg_left denLow (two_zpow_pos _).le
  have test : num * Nat.pow 2 (-e).toNat < den * Nat.pow 2 e.toNat ↔ (num : ℚ) / den < 2 ^ e := by
    have hp : (0 : ℚ) < (Nat.pow 2 (-e).toNat : ℕ) := by
      exact_mod_cast Nat.pos_of_ne_zero (by simp)
    rw [zpow_eq_div, div_lt_div_iff₀ hd hp, mul_comm ((Nat.pow 2 e.toNat : ℕ) : ℚ)]
    exact_mod_cast Iff.rfl
  unfold binaryExponent
  simp only [← he]
  split_ifs with less
  · exact ⟨low.le, by rw [sub_add_cancel]; exact test.1 less⟩
  · exact ⟨not_lt.1 fun lt => less (test.2 lt), high⟩

namespace Binary64

/-! ## Representable numbers -/

/-- 53 binary places hold the number, the last of them not below that of the least positive double. -/
def Representable (r : ℚ) : Prop := ∃ m e : ℤ, r = m * 2 ^ e ∧ |m| ≤ 2 ^ 53 ∧ -1074 ≤ e

theorem representable_zero : Representable 0 := ⟨0, 0, by simp, by norm_num, by norm_num⟩

theorem representable_neg {r : ℚ} (h : Representable r) : Representable (-r) := by
  obtain ⟨m, e, rfl, small, fine⟩ := h
  exact ⟨-m, e, by push_cast; ring, by rwa [abs_neg], fine⟩

theorem representable_int {m : ℤ} (small : |m| ≤ 2 ^ 53) : Representable m :=
  ⟨m, 0, by simp, small, by norm_num⟩

theorem representable_natCast {n : ℕ} (small : n ≤ 2 ^ 53) : Representable n := by
  have := representable_int (m := n) (by rw [Nat.abs_cast]; exact_mod_cast small)
  exact_mod_cast this

theorem representable_two_zpow {e : ℤ} (fine : -1074 ≤ e) : Representable (2 ^ e) :=
  ⟨1, e, by simp, by norm_num, fine⟩

/-- The magnitude that a positive quotient is rounded to. -/
def magnitude (num den : ℕ) : ℚ :=
  significandAt num den (lastPlace num den) * 2 ^ lastPlace num den

theorem significandAt_error (num : ℕ) {den : ℕ} (hden : 0 < den) (place : ℤ) :
    |(significandAt num den place : ℚ) - num / den / 2 ^ place| ≤ 1 / 2 := by
  have shift : ((num * Nat.pow 2 (-place).toNat : ℕ) : ℚ) / (den * Nat.pow 2 place.toNat : ℕ) =
      num / den / 2 ^ place := by
    rw [zpow_eq_div]
    push_cast
    field_simp
  rw [← shift]
  exact nearestInteger_error (Nat.mul_pos hden (Nat.pos_of_ne_zero (by simp)))

theorem abs_mul_zpow_sub (k x : ℚ) (place : ℤ) :
    |k * 2 ^ place - x| = |k - x / 2 ^ place| * 2 ^ place := by
  have pos := two_zpow_pos place
  rw [← abs_of_pos pos, ← abs_mul, abs_of_pos pos, sub_mul, div_mul_cancel₀ _ pos.ne']

/-- Of the multiples of the last place, none is nearer than the magnitude. -/
theorem magnitude_near_multiple (num : ℕ) {den : ℕ} (hden : 0 < den) (k : ℤ) :
    |magnitude num den - num / den| ≤ |(k : ℚ) * 2 ^ lastPlace num den - num / den| := by
  have close := significandAt_error num hden (lastPlace num den)
  have near := near_of_error (m := (significandAt num den (lastPlace num den) : ℕ))
    (by exact_mod_cast close) k
  rw [magnitude, abs_mul_zpow_sub, abs_mul_zpow_sub]
  exact mul_le_mul_of_nonneg_right (by exact_mod_cast near) (two_zpow_pos _).le

/-- A number on a grid is on every finer one. -/
theorem multiple_of_coarser {m e place : ℤ} (coarser : place ≤ e) :
    ∃ k : ℤ, (m : ℚ) * 2 ^ e = k * 2 ^ place := by
  refine ⟨m * 2 ^ (e - place).toNat, ?_⟩
  push_cast
  rw [← zpow_natCast, Int.toNat_of_nonneg (by omega), mul_assoc, ← zpow_add₀ two_ne_zero]
  congr 2
  omega

theorem magnitude_nearest {num den : ℕ} (hnum : 0 < num) (hden : 0 < den) {r : ℚ}
    (hr : Representable r) : |magnitude num den - num / den| ≤ |r - num / den| := by
  obtain ⟨m, e, rfl, small, fine⟩ := hr
  obtain ⟨low, -⟩ := binaryExponent_spec hnum hden
  rcases le_or_gt (lastPlace num den) e with coarser | finer
  · obtain ⟨k, hk⟩ := multiple_of_coarser (m := m) coarser
    rw [hk]
    exact magnitude_near_multiple num hden k
  · -- Finer than the last place, so at most the power of two below the quotient.
    have place : lastPlace num den = binaryExponent num den - 52 := by
      unfold lastPlace at finer ⊢; omega
    have leading : ((2 ^ 52 : ℤ) : ℚ) * 2 ^ lastPlace num den = 2 ^ binaryExponent num den := by
      rw [place, zpow_sub₀ two_ne_zero]
      norm_num
      field_simp
    have below : (m : ℚ) * 2 ^ e ≤ 2 ^ binaryExponent num den := by
      have hm : (m : ℚ) ≤ 2 ^ (53 : ℤ) := by exact_mod_cast (le_abs_self m).trans small
      calc (m : ℚ) * 2 ^ e ≤ 2 ^ (53 : ℤ) * 2 ^ e :=
            mul_le_mul_of_nonneg_right hm (two_zpow_pos e).le
        _ = 2 ^ (53 + e) := (zpow_add₀ two_ne_zero _ _).symm
        _ ≤ 2 ^ binaryExponent num den := zpow_le_zpow_right₀ one_le_two (by omega)
    have near := magnitude_near_multiple num hden (2 ^ 52)
    rw [leading] at near
    calc |magnitude num den - num / den| ≤ |(2 : ℚ) ^ binaryExponent num den - num / den| := near
      _ = num / den - 2 ^ binaryExponent num den := by
          rw [abs_sub_comm, abs_of_nonneg (sub_nonneg.2 low)]
      _ ≤ num / den - (m : ℚ) * 2 ^ e := sub_le_sub_left below _
      _ = |(m : ℚ) * 2 ^ e - num / den| := by
          rw [abs_sub_comm, abs_of_nonneg (sub_nonneg.2 (below.trans low))]

theorem significandAt_le {num den : ℕ} (hnum : 0 < num) (hden : 0 < den) :
    significandAt num den (lastPlace num den) ≤ 2 ^ 53 := by
  -- The quotient has at most 53 places before the last one, so half a unit more rounds no further.
  have less : (num : ℚ) / den / 2 ^ lastPlace num den < 2 ^ 53 := by
    rw [div_lt_iff₀ (two_zpow_pos _)]
    calc (num : ℚ) / den < 2 ^ (binaryExponent num den + 1) := (binaryExponent_spec hnum hden).2
      _ ≤ 2 ^ ((53 : ℕ) + lastPlace num den) :=
          zpow_le_zpow_right₀ one_le_two (by unfold lastPlace; omega)
      _ = 2 ^ 53 * 2 ^ lastPlace num den := by rw [zpow_add₀ two_ne_zero, zpow_natCast]
  have close := (abs_le.1 (significandAt_error num hden (lastPlace num den))).2
  have bound : (significandAt num den (lastPlace num den) : ℚ) < (2 ^ 53 + 1 : ℕ) := by
    push_cast; linarith
  exact Nat.lt_succ_iff.1 (by exact_mod_cast bound)

theorem magnitude_representable {num den : ℕ} (hnum : 0 < num) (hden : 0 < den) :
    Representable (magnitude num den) :=
  ⟨significandAt num den (lastPlace num den), lastPlace num den, by simp [magnitude],
    by simpa using mod_cast significandAt_le hnum hden, le_max_right _ _⟩

/-! ## Rounding a rational -/

/-- The magnitude that a rational is rounded to. -/
def roundedAbs (x : ℚ) : ℚ := magnitude x.num.natAbs x.den

theorem natAbs_num_div_den (x : ℚ) : (x.num.natAbs : ℚ) / x.den = |x| := by
  rw [Rat.abs_def, Rat.divInt_eq_div]
  simp

theorem roundedAbs_nearest {x r : ℚ} (nonzero : x ≠ 0) (hr : Representable r) :
    |roundedAbs x - (|x|)| ≤ |r - (|x|)| := by
  rw [← natAbs_num_div_den x]
  exact magnitude_nearest (Int.natAbs_pos.2 (Rat.num_ne_zero.2 nonzero)) x.pos hr

/-- The least magnitude that becomes infinite: half a last place beyond the greatest double. -/
def overflow : ℚ := (2 ^ 54 - 1) * 2 ^ (970 : ℤ)

theorem two_zpow_lt_overflow {e : ℤ} (h : e ≤ 1023) : (2 : ℚ) ^ e < overflow :=
  calc (2 : ℚ) ^ e ≤ 2 ^ (1023 : ℤ) := zpow_le_zpow_right₀ one_le_two h
    _ = 2 ^ 53 * 2 ^ (970 : ℤ) := by rw [← zpow_natCast, ← zpow_add₀ two_ne_zero]; rfl
    _ < overflow := mul_lt_mul_of_pos_right (by norm_num) (two_zpow_pos _)

/-- Below the overflow, the significand and its last place are in range. -/
theorem not_overflowing {x : ℚ} (nonzero : x ≠ 0) (fits : |x| < overflow) :
    ¬(971 < lastPlace x.num.natAbs x.den ∨
      (lastPlace x.num.natAbs x.den = 971 ∧
        Nat.pow 2 53 ≤ significandAt x.num.natAbs x.den (lastPlace x.num.natAbs x.den))) := by
  have hnum : 0 < x.num.natAbs := Int.natAbs_pos.2 (Rat.num_ne_zero.2 nonzero)
  have exponent : binaryExponent x.num.natAbs x.den < 1024 := by
    have low := (binaryExponent_spec hnum x.pos).1
    rw [natAbs_num_div_den] at low
    have less : (2 : ℚ) ^ binaryExponent x.num.natAbs x.den < 2 ^ (1024 : ℤ) :=
      (low.trans_lt fits).trans (by
        rw [overflow, show (1024 : ℤ) = 54 + 970 by norm_num, zpow_add₀ two_ne_zero]
        exact mul_lt_mul_of_pos_right (by norm_num) (two_zpow_pos _))
    exact (zpow_lt_zpow_iff_right₀ one_lt_two).1 less
  rintro (beyond | ⟨last, full⟩)
  · unfold lastPlace at beyond; omega
  · have close := (abs_le.1 (significandAt_error x.num.natAbs x.pos 971)).2
    rw [natAbs_num_div_den] at close
    rw [last] at full
    have full' : (2 ^ 53 : ℚ) ≤ significandAt x.num.natAbs x.den 971 := by exact_mod_cast full
    have scaled : |x| / 2 ^ (971 : ℤ) < 2 ^ 53 - 1 / 2 := by
      rw [div_lt_iff₀ (two_zpow_pos _)]
      refine fits.trans_le (le_of_eq ?_)
      rw [overflow, show (971 : ℤ) = 1 + 970 by norm_num, zpow_add₀ two_ne_zero, zpow_one]
      ring
    linarith

/-- Rounding a magnitude below the overflow, sign by sign. -/
theorem ofRat_eq {x : ℚ} (nonzero : x ≠ 0) (fits : |x| < overflow) :
    ofRat x =
      if x < 0 then (if roundedAbs x = 0 then negativeZero else finite (-roundedAbs x))
      else finite (roundedAbs x) := by
  have zero_iff : significandAt x.num.natAbs x.den (lastPlace x.num.natAbs x.den) = 0 ↔
      roundedAbs x = 0 := by
    rw [roundedAbs, magnitude, mul_eq_zero, or_iff_left (two_zpow_pos _).ne', Nat.cast_eq_zero]
  unfold ofRat
  rw [if_neg (Rat.num_ne_zero.2 nonzero)]
  simp only [if_neg (not_overflowing nonzero fits), zero_iff, scaled_eq]
  rcases lt_or_ge x 0 with neg | nonneg
  · rw [if_pos (Rat.num_neg.2 neg), if_pos neg]
    simp [roundedAbs, magnitude]
  · rw [if_neg (not_lt.2 (Rat.num_nonneg.2 nonneg)), if_neg (not_lt.2 nonneg)]
    simp [roundedAbs, magnitude]

@[simp] theorem ofRat_zero : ofRat 0 = finite 0 := rfl

/-- Below the overflow, a rational rounds to a double with its sign and rounded magnitude. -/
theorem toRat_ofRat {x : ℚ} (nonzero : x ≠ 0) (fits : |x| < overflow) :
    (ofRat x).toRat = if x < 0 then -roundedAbs x else roundedAbs x := by
  rw [ofRat_eq nonzero fits]
  split_ifs with neg zero
  · simp [toRat, zero]
  · rfl
  · rfl

theorem isFinite_ofRat {x : ℚ} (fits : |x| < overflow) : (ofRat x).isFinite = true := by
  rcases eq_or_ne x 0 with rfl | nonzero
  · rfl
  · rw [ofRat_eq nonzero fits]
    split_ifs <;> rfl

/-- **Rounding is to nearest**: no representable number is nearer than the double. -/
theorem ofRat_nearest {x r : ℚ} (fits : |x| < overflow) (hr : Representable r) :
    |(ofRat x).toRat - x| ≤ |r - x| := by
  rcases eq_or_ne x 0 with rfl | nonzero
  · simp [toRat]
  · rw [toRat_ofRat nonzero fits]
    split_ifs with neg
    · have near := roundedAbs_nearest nonzero (representable_neg hr)
      rw [abs_of_neg neg] at near
      rw [← abs_neg, ← abs_neg (r - x)]
      convert near using 2 <;> ring
    · have near := roundedAbs_nearest nonzero hr
      rwa [abs_of_nonneg (not_lt.1 neg)] at near

theorem representable_ofRat {x : ℚ} (fits : |x| < overflow) :
    Representable (ofRat x).toRat := by
  rcases eq_or_ne x 0 with rfl | nonzero
  · exact representable_zero
  · have h : Representable (roundedAbs x) :=
      magnitude_representable (Int.natAbs_pos.2 (Rat.num_ne_zero.2 nonzero)) x.pos
    rw [toRat_ofRat nonzero fits]
    split_ifs
    · exact representable_neg h
    · exact h

/-- **Rounding keeps the order.** -/
theorem toRat_ofRat_mono {x y : ℚ} (h : x ≤ y) (hx : |x| < overflow) (hy : |y| < overflow) :
    (ofRat x).toRat ≤ (ofRat y).toRat := by
  -- Otherwise `x` lies in the upper half of the gap between the two and `y` in the lower half.
  by_contra above
  have nearX := ofRat_nearest hx (representable_ofRat hy)
  have nearY := ofRat_nearest hy (representable_ofRat hx)
  rw [← sq_le_sq] at nearX nearY
  rcases eq_or_lt_of_le h with rfl | less
  · exact above le_rfl
  · have gap : 0 < (ofRat x).toRat - (ofRat y).toRat := sub_pos.2 (not_le.1 above)
    nlinarith

theorem toRat_ofRat_of_representable {r : ℚ} (hr : Representable r) (fits : |r| < overflow) :
    (ofRat r).toRat = r := by
  have near := ofRat_nearest fits hr
  rw [sub_self, abs_zero] at near
  exact sub_eq_zero.1 (abs_nonpos_iff.1 near)

theorem toRat_ofRat_nonneg {x : ℚ} (nonneg : 0 ≤ x) (fits : x < overflow) :
    0 ≤ (ofRat x).toRat := by
  have := toRat_ofRat_mono nonneg (by rw [abs_zero]; exact nonneg.trans_lt fits)
    (by rwa [abs_of_nonneg nonneg])
  simpa [toRat] using this

/-- What is not negative rounds to a number, not to the negative zero. -/
theorem ofRat_of_nonneg {x : ℚ} (nonneg : 0 ≤ x) (fits : x < overflow) :
    ofRat x = finite (ofRat x).toRat := by
  rcases eq_or_ne x 0 with rfl | nonzero
  · rfl
  · rw [toRat_ofRat nonzero (by rwa [abs_of_nonneg nonneg]),
      ofRat_eq nonzero (by rwa [abs_of_nonneg nonneg]), if_neg (not_lt.2 nonneg),
      if_neg (not_lt.2 nonneg)]

/-- A representable number that is not negative is its own double. -/
theorem ofRat_of_representable {r : ℚ} (hr : Representable r) (nonneg : 0 ≤ r)
    (fits : r < overflow) : ofRat r = finite r := by
  rw [ofRat_of_nonneg nonneg fits,
    toRat_ofRat_of_representable hr (by rwa [abs_of_nonneg nonneg])]

end Binary64

end Deliberation
