/-
# Proofs.Number.Bounds -- arithmetic on doubles from zero up to a bound

`UpTo b x` says that the datum `x` is a finite double between zero and `b`.  Sums, quotients by a
count and the rounding of scores stay within such bounds, so none of them overflows and none of them
fails.

A sum of two doubles is at most their exact sum and the smaller of the two (`toRat_add_le`).  Hence
a bound that grows with the square of the number of terms survives any order of additions
(`upTo_add`), even where many small terms round up.
-/
import Deliberation.Number.Rounding
import Deliberation.Proofs.Fallible
import Deliberation.Proofs.Number.Nearest

set_option autoImplicit false

namespace Deliberation

/-- Lengths are signed machine words, so a list has fewer items, and a text fewer
characters, than this. -/
def maxItems : ℕ := 2 ^ 63

namespace Binary64

/-- A finite double from zero up to a bound. -/
def UpTo (b : ℚ) (x : Binary64) : Prop := ∃ q, x = finite q ∧ Representable q ∧ 0 ≤ q ∧ q ≤ b

theorem UpTo.mono {a b : ℚ} {x : Binary64} (h : UpTo a x) (le : a ≤ b) : UpTo b x := by
  obtain ⟨q, rfl, hq, nonneg, bound⟩ := h
  exact ⟨q, rfl, hq, nonneg, bound.trans le⟩

theorem UpTo.isFinite {b : ℚ} {x : Binary64} (h : UpTo b x) : x.isFinite = true := by
  obtain ⟨q, rfl, -⟩ := h; rfl

theorem upTo_finite {b q : ℚ} (hq : Representable q) (nonneg : 0 ≤ q) (bound : q ≤ b) :
    UpTo b (finite q) := ⟨q, rfl, hq, nonneg, bound⟩

/-- Rounding does not go beyond a representable bound. -/
theorem upTo_ofRat {b x : ℚ} (nonneg : 0 ≤ x) (le : x ≤ b) (hb : Representable b)
    (fits : b < overflow) : UpTo b (ofRat x) := by
  have hx : x < overflow := le.trans_lt fits
  have hx' : |x| < overflow := by rwa [abs_of_nonneg nonneg]
  have hb' : |b| < overflow := by rwa [abs_of_nonneg (nonneg.trans le)]
  refine ⟨(ofRat x).toRat, ofRat_of_nonneg nonneg hx, representable_ofRat hx',
    toRat_ofRat_nonneg nonneg hx, ?_⟩
  calc (ofRat x).toRat ≤ (ofRat b).toRat := toRat_ofRat_mono le hx' hb'
    _ = b := toRat_ofRat_of_representable hb hb'

/-! ## Powers of two and the unit interval -/

theorem two_pow_lt_overflow {e : ℕ} (small : e ≤ 1023) : (2 : ℚ) ^ e < overflow := by
  rw [← zpow_natCast]
  exact two_zpow_lt_overflow (by omega)

theorem representable_two_pow (e : ℕ) : Representable (2 ^ e) := by
  rw [← zpow_natCast]
  exact representable_two_zpow (by omega)

theorem representable_one : Representable 1 := by
  exact_mod_cast representable_int (m := 1) (by norm_num)

theorem one_lt_overflow : (1 : ℚ) < overflow := by
  simpa using two_pow_lt_overflow (e := 0) (by norm_num)

theorem upTo_zero : UpTo 1 (finite 0) := upTo_finite representable_zero le_rfl zero_le_one

theorem upTo_one : UpTo 1 (finite 1) := upTo_finite representable_one zero_le_one le_rfl

/-- A share of a whole. -/
theorem upTo_share {part whole : ℕ} (le : part ≤ whole) : UpTo 1 (ofRat ((part : ℚ) / whole)) := by
  have unit : (part : ℚ) / whole ≤ 1 :=
    div_le_one_of_le₀ (by exact_mod_cast le) (Nat.cast_nonneg whole)
  exact upTo_ofRat (by positivity) unit representable_one one_lt_overflow

/-- A share of a whole is a double from the unit interval. -/
theorem exists_ofRatio {part whole : ℕ} (le : part ≤ whole) :
    ∃ share, ofRatio part whole = .ok share ∧ UpTo 1 share := by
  have bounded := upTo_share le
  refine ⟨_, ?_, bounded⟩
  obtain ⟨q, hq, -⟩ := bounded
  simp [ofRatio, hq]

theorem upTo_ofQuotient {part whole : ℕ} (le : part ≤ whole) : UpTo 1 (ofQuotient part whole) := by
  rw [ofQuotient, Rat.mkRat_eq_div]
  exact upTo_share le

/-- A decimal from the unit interval. -/
theorem upTo_ofDecimal {digits places : ℕ} (le : digits ≤ 10 ^ places) :
    UpTo 1 (ofDecimal digits places) :=
  upTo_ofQuotient le

/-! ## Operations on finite data -/

theorem finite_add_finite (a b : ℚ) : finite a + finite b = ofRat (a + b) := rfl

theorem finite_mul_finite {a b : ℚ} (ha : 0 ≤ a) (hb : 0 ≤ b) :
    finite a * finite b = ofRat (a * b) := by
  have signs : ((finite a).isNegative != (finite b).isNegative) = false := by
    simp [isNegative, not_lt.2 ha, not_lt.2 hb]
  change (if a = 0 ∨ b = 0 then zeroOfSign _ else ofRat (a * b)) = _
  split_ifs with zero
  · rw [signs, mul_eq_zero.2 zero]; rfl
  · rfl

theorem finite_div_finite {a b : ℚ} (ha : 0 ≤ a) (hb : 0 < b) :
    finite a / finite b = ofRat (a / b) := by
  have signs : ((finite a).isNegative != (finite b).isNegative) = false := by
    simp [isNegative, not_lt.2 ha, not_lt.2 hb.le]
  change (if b = 0 then _ else if a = 0 then zeroOfSign _ else ofRat (a / b)) = _
  rw [if_neg hb.ne']
  split_ifs with zero
  · rw [signs, zero, zero_div]; rfl
  · rfl

/-- The rounding error of a sum is at most the smaller term, since the greater one is representable. -/
theorem toRat_add_le {a b : ℚ} (ha : Representable a) (hb : Representable b) (a0 : 0 ≤ a)
    (b0 : 0 ≤ b) (fits : a + b < overflow) :
    (ofRat (a + b)).toRat ≤ a + b + min a b := by
  have fits' : |a + b| < overflow := by rwa [abs_of_nonneg (add_nonneg a0 b0)]
  have nearA := (abs_le.1 (ofRat_nearest fits' ha)).2
  have nearB := (abs_le.1 (ofRat_nearest fits' hb)).2
  rw [show a - (a + b) = -b by ring, abs_neg, abs_of_nonneg b0] at nearA
  rw [show b - (a + b) = -a by ring, abs_neg, abs_of_nonneg a0] at nearB
  rcases min_cases a b with ⟨h, -⟩ | ⟨h, -⟩ <;> rw [h] <;> linarith

/-- Sums of `m` and of `k` terms, each within the square of its number of terms. -/
theorem upTo_add {m k : ℕ} {x y : Binary64} {unit : ℚ} (hx : UpTo (m ^ 2 * unit) x)
    (hy : UpTo (k ^ 2 * unit) y) (nonneg : 0 ≤ unit)
    (fits : ((m + k : ℕ) : ℚ) ^ 2 * unit < overflow) :
    UpTo (((m + k : ℕ) : ℚ) ^ 2 * unit) (x + y) := by
  obtain ⟨a, rfl, ha, a0, aBound⟩ := hx
  obtain ⟨b, rfl, hb, b0, bBound⟩ := hy
  have squares : ((m + k : ℕ) : ℚ) ^ 2 * unit =
      m ^ 2 * unit + k ^ 2 * unit + 2 * (m * k * unit) := by push_cast; ring
  have cross : 0 ≤ (m : ℚ) * k * unit := by positivity
  -- The smaller of the two terms is below the geometric mean of the bounds.
  have small : min a b ≤ m * k * unit := by
    rcases le_total (m : ℚ) k with h | h
    · calc min a b ≤ a := min_le_left a b
        _ ≤ m * m * unit := by rw [← sq]; exact aBound
        _ ≤ m * k * unit := by gcongr
    · calc min a b ≤ b := min_le_right a b
        _ ≤ k * k * unit := by rw [← sq]; exact bBound
        _ ≤ m * k * unit := by gcongr
  have sum_le : a + b + min a b ≤ ((m + k : ℕ) : ℚ) ^ 2 * unit := by rw [squares]; linarith
  have sumFits : a + b < overflow := by
    have := le_min a0 b0
    linarith
  have sum0 : 0 ≤ a + b := add_nonneg a0 b0
  rw [finite_add_finite]
  exact ⟨(ofRat (a + b)).toRat, ofRat_of_nonneg sum0 sumFits,
    representable_ofRat (by rwa [abs_of_nonneg sum0]), toRat_ofRat_nonneg sum0 sumFits,
    (toRat_add_le ha hb a0 b0 sumFits).trans sum_le⟩

/-- A positive count is a double of at least one. -/
theorem ofNat_eq_finite {n : ℕ} (positive : 0 < n) (fits : (n : ℚ) < overflow) :
    ∃ q : ℚ, 1 ≤ q ∧ ofNat n = finite q := by
  have one_le : (1 : ℚ) ≤ n := by exact_mod_cast positive
  have oneFits : |(1 : ℚ)| < overflow := by
    rw [abs_one]
    exact one_le.trans_lt fits
  refine ⟨(ofRat n).toRat, ?_, ?_⟩
  · calc (1 : ℚ) = (ofRat 1).toRat := (toRat_ofRat_of_representable representable_one oneFits).symm
      _ ≤ (ofRat n).toRat := toRat_ofRat_mono one_le oneFits (by rwa [Nat.abs_cast])
  · rw [← ofRat_of_nonneg (Nat.cast_nonneg n) fits]
    simp [ofNat, ofInt]

/-- A quotient by a positive count stays within the bound. -/
theorem UpTo.div_ofNat {b : ℚ} {x : Binary64} {n : ℕ} (h : UpTo b x) (hb : b < overflow)
    (positive : 0 < n) (fits : (n : ℚ) < overflow) : UpTo b (x / ofNat n) := by
  obtain ⟨q, rfl, hq, nonneg, bound⟩ := h
  obtain ⟨d, one_le, hd⟩ := ofNat_eq_finite positive fits
  have d0 : 0 < d := one_pos.trans_le one_le
  rw [hd, finite_div_finite nonneg d0]
  exact (upTo_ofRat (div_nonneg nonneg d0.le) (div_le_self nonneg one_le) hq
    (bound.trans_lt hb)).mono bound

theorem UpTo.mul {a b c : ℚ} {x y : Binary64} (hx : UpTo a x) (hy : UpTo b y) (le : a * b ≤ c)
    (hc : Representable c) (fits : c < overflow) : UpTo c (x * y) := by
  obtain ⟨q, rfl, -, q0, qa⟩ := hx
  obtain ⟨r, rfl, -, r0, rb⟩ := hy
  rw [finite_mul_finite q0 r0]
  exact upTo_ofRat (mul_nonneg q0 r0)
    ((mul_le_mul qa rb r0 (q0.trans qa)).trans le) hc fits

theorem UpTo.add {a b c : ℚ} {x y : Binary64} (hx : UpTo a x) (hy : UpTo b y) (le : a + b ≤ c)
    (hc : Representable c) (fits : c < overflow) : UpTo c (x + y) := by
  obtain ⟨q, rfl, -, q0, qa⟩ := hx
  obtain ⟨r, rfl, -, r0, rb⟩ := hy
  rw [finite_add_finite]
  exact upTo_ofRat (add_nonneg q0 r0) ((add_le_add qa rb).trans le) hc fits

end Binary64

/-! ## Rounding scores -/

open Binary64

/-- A small whole number is its own double. -/
theorem ofWhole_of_le {n : ℕ} (small : n ≤ 2 ^ 53) : Binary64.ofWhole n = .ok (finite n) := by
  have hn : Representable (n : ℚ) := by
    have := representable_int (m := (n : ℤ)) (by rw [Nat.abs_cast]; exact_mod_cast small)
    exact_mod_cast this
  have fits : (n : ℚ) < overflow := by
    have : (n : ℚ) ≤ 2 ^ 53 := by exact_mod_cast small
    exact this.trans_lt (two_pow_lt_overflow (by norm_num))
  have : Binary64.ofInt n = finite n := by
    simpa [Binary64.ofInt] using ofRat_of_representable hn (Nat.cast_nonneg n) fits
  simp [Binary64.ofWhole, this]

/-- A double rounded to a few places: scaled, one half added, rounded down and scaled back. -/
theorem Number.roundHalfUp_eq (x : Binary64) (places : ℕ) (few : 10 ^ places ≤ 2 ^ 53) :
    (Number.real x).roundHalfUp places = (do
      let n ← (x * finite (10 ^ places : ℕ) + oneHalf).floor
      Binary64.ofRatio n (10 ^ places : ℕ)) := by
  have factor : powerOfTen places = .ok (whole (10 ^ places : ℕ)) := by simp [powerOfTen]
  have scaled : (real x).mul (whole (10 ^ places : ℕ)) =
      .ok (real (x * finite (10 ^ places : ℕ))) :=
    bind_eq_ok_iff.2 ⟨x, rfl, bind_eq_ok_iff.2 ⟨_, ofWhole_of_le few, rfl⟩⟩
  have shifted : (real (x * finite (10 ^ places : ℕ))).add (real oneHalf) =
      .ok (real (x * finite (10 ^ places : ℕ) + oneHalf)) := rfl
  have nonzero : ((10 ^ places : ℕ) : ℤ) ≠ 0 := by positivity
  rw [roundHalfUp, factor, ok_bind, roundBy, scaled, ok_bind, shifted, ok_bind]
  simp only [div, if_neg nonzero, floor]

theorem roundHalfUp_hundredths (x : Binary64) : (Number.real x).roundHalfUp 2 = (do
    let n ← (x * finite 100 + oneHalf).floor
    Binary64.ofRatio n 100) := by
  simpa using Number.roundHalfUp_eq x 2 (by norm_num)

/-- A score within a power of two rounds to hundredths without a fault. -/
theorem roundHalfUp_two {e : ℕ} {x : Binary64} (h : UpTo (2 ^ e) x) (small : e ≤ 1000) :
    ∃ y, (Number.real x).roundHalfUp 2 = .ok y ∧ UpTo (2 ^ (e + 8)) y := by
  have hundred : UpTo (2 ^ 7) (finite 100) :=
    upTo_finite (by exact_mod_cast representable_int (m := 100) (by norm_num)) (by norm_num)
      (by norm_num)
  have scaled : UpTo (2 ^ (e + 7)) (x * finite 100) :=
    h.mul hundred (by rw [pow_add]) (representable_two_pow _) (two_pow_lt_overflow (by omega))
  have half : UpTo 1 oneHalf :=
    upTo_finite ⟨1, -1, by norm_num, by norm_num, by norm_num⟩ (by norm_num) (by norm_num)
  have shifted : UpTo (2 ^ (e + 8)) (x * finite 100 + oneHalf) :=
    scaled.add half (by rw [pow_succ' 2 (e + 7), two_mul]; gcongr; exact one_le_pow₀ one_le_two)
      (representable_two_pow _) (two_pow_lt_overflow (by omega))
  obtain ⟨q, hq, -, q0, bound⟩ := shifted
  have floor0 : (0 : ℤ) ≤ q.floor := Rat.le_floor_iff.2 (by exact_mod_cast q0)
  have floorLe : (q.floor : ℚ) ≤ 2 ^ (e + 8) := (Rat.floor_le q).trans bound
  have quotient : UpTo (2 ^ (e + 8)) (ofRat ((q.floor : ℚ) / 100)) :=
    upTo_ofRat (div_nonneg (by exact_mod_cast floor0) (by norm_num))
      ((div_le_self (by exact_mod_cast floor0) (by norm_num)).trans floorLe)
      (representable_two_pow _) (two_pow_lt_overflow (by omega))
  refine ⟨_, ?_, quotient⟩
  obtain ⟨r, hr, -⟩ := quotient
  have rounded : Binary64.ofRatio q.floor 100 = .ok (finite r) := by simp [Binary64.ofRatio, hr]
  rw [roundHalfUp_hundredths, hq, hr]
  exact rounded

end Deliberation
