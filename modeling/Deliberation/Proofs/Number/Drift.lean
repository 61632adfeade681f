/-
# Proofs.Number.Drift -- how far a long sum of doubles strays

From zero upward, doubles stay there under sums, products and quotients, or become infinite (`Upward`).
Rounding moves a number from one upward by the factor `drift` at most, since the nearest double is within
half a unit of the 53rd binary place (`ofRat_error_relative`).  So a sum of bounded doubles is bounded by the
sum of the bounds times that factor, or infinite (`AtMost.add`), and what adds up to a count, but for a
number of such factors, has a mean of nearly one.  A score in hundredths does not show it, for up to 2 ^ 45
factors, which together are less than half a hundredth (`upTo_of_mean`).
-/
import Deliberation.Proofs.Number.Means
import Deliberation.Proofs.Number.Places
import Mathlib.Algebra.Order.Archimedean.Basic
import Mathlib.Algebra.Order.Ring.Pow

set_option autoImplicit false

namespace Deliberation

/-! ## Doubles from zero upward -/

namespace Binary64

/-- A double from zero upward, or the infinite one above all. -/
def Upward (x : Binary64) : Prop := x = infinite false ∨ ∃ q, x = finite q ∧ 0 ≤ q

variable {x y : Binary64} {b : ℚ}

theorem UpTo.upward (h : UpTo b x) : Upward x := by
  obtain ⟨q, rfl, -, nonneg, -⟩ := h
  exact .inr ⟨q, rfl, nonneg⟩

/-- From zero upward a number is rounded to a double, or overflows. -/
theorem ofRat_cases {q : ℚ} (nonneg : 0 ≤ q) : ofRat q = infinite false ∨
    q < overflow ∧ ofRat q = finite (ofRat q).toRat ∧ 0 ≤ (ofRat q).toRat := by
  rcases lt_or_ge q overflow with fits | large
  · exact .inr ⟨fits, ofRat_of_nonneg nonneg fits, toRat_ofRat_nonneg nonneg fits⟩
  · left
    rw [ofRat_of_overflow (by rwa [abs_of_nonneg nonneg]), decide_eq_false (not_lt.2 nonneg)]

theorem upward_ofRat {q : ℚ} (nonneg : 0 ≤ q) : Upward (ofRat q) :=
  (ofRat_cases nonneg).imp_right fun ⟨_, double, double0⟩ => ⟨_, double, double0⟩

theorem infinite_div_finite {r : ℚ} (positive : 0 < r) :
    infinite false / finite r = infinite false := by
  change infinite (false != (finite r).isNegative) = infinite false
  simp [isNegative, positive.le]

theorem Upward.add (hx : Upward x) (hy : Upward y) : Upward (x + y) := by
  rcases hx with rfl | ⟨q, rfl, q0⟩
  · rcases hy with rfl | ⟨r, rfl, r0⟩ <;> exact .inl rfl
  · rcases hy with rfl | ⟨r, rfl, r0⟩
    · exact .inl rfl
    · exact upward_ofRat (add_nonneg q0 r0)

theorem Upward.mul_finite (hx : Upward x) {r : ℚ} (positive : 0 < r) : Upward (x * finite r) := by
  rcases hx with rfl | ⟨q, rfl, q0⟩
  · left
    change (if (finite r).isFinite && (finite r).toRat = 0 then nan
      else infinite (false != (finite r).isNegative)) = infinite false
    simp [toRat, isFinite, isNegative, positive.ne', positive.le]
  · rw [finite_mul_finite q0 positive.le]
    exact upward_ofRat (mul_nonneg q0 positive.le)

theorem Upward.div_finite (hx : Upward x) {r : ℚ} (positive : 0 < r) : Upward (x / finite r) := by
  rcases hx with rfl | ⟨q, rfl, q0⟩
  · exact .inl (infinite_div_finite positive)
  · rw [finite_div_finite q0 positive]
    exact upward_ofRat (div_nonneg q0 positive.le)

/-- Zero up to a bound, or infinite. -/
def AtMost (b : ℚ) (x : Binary64) : Prop := x = infinite false ∨ ∃ q, x = finite q ∧ 0 ≤ q ∧ q ≤ b

theorem UpTo.atMost (h : UpTo b x) : AtMost b x := by
  obtain ⟨q, rfl, -, nonneg, bound⟩ := h
  exact .inr ⟨q, rfl, nonneg, bound⟩

theorem AtMost.mono {c : ℚ} (h : AtMost b x) (le : b ≤ c) : AtMost c x := by
  rcases h with infinite | ⟨q, rfl, nonneg, bound⟩
  · exact .inl infinite
  · exact .inr ⟨q, rfl, nonneg, bound.trans le⟩

/-! ## One rounding -/

/-- The nearest double is within half a unit of the 53rd binary place. -/
theorem ofRat_error_relative {q : ℚ} (one_le : 1 ≤ q) (fits : q < overflow) :
    |(ofRat q).toRat - q| ≤ q / 2 ^ 53 := by
  -- a power of two just below, 52 binary places before the last one of doubles from there on
  obtain ⟨e, low, high⟩ := exists_nat_pow_near one_le one_lt_two
  have unit : (2 : ℚ) ^ (e - 52 : ℤ) = 2 ^ e / 2 ^ 52 := by
    rw [zpow_sub₀ two_ne_zero, zpow_natCast]
    rfl
  have places : q ≤ 2 ^ 53 * 2 ^ (e - 52 : ℤ) := by
    rw [unit]
    calc q ≤ 2 ^ (e + 1) := high.le
      _ = 2 ^ 53 * (2 ^ e / 2 ^ 52) := by ring
  calc |(ofRat q).toRat - q| ≤ 2 ^ (e - 52 : ℤ) / 2 :=
        ofRat_error_of_unit (by omega) (zero_le_one.trans one_le) places fits
    _ = 2 ^ e / 2 ^ 53 := by rw [unit]; ring
    _ ≤ q / 2 ^ 53 := by gcongr

/-- By this factor rounding raises a number at most. -/
def drift : ℚ := 1 + 1 / 2 ^ 53

theorem one_le_drift : 1 ≤ drift := by norm_num [drift]

theorem toRat_ofRat_le {q : ℚ} (one_le : 1 ≤ q) (fits : q < overflow) :
    (ofRat q).toRat ≤ q * drift := by
  have above := (abs_le.1 (ofRat_error_relative one_le fits)).2
  unfold drift
  linarith

theorem le_toRat_ofRat {q : ℚ} (one_le : 1 ≤ q) (fits : q < overflow) :
    q ≤ (ofRat q).toRat * drift ^ 2 := by
  have below := (abs_le.1 (ofRat_error_relative one_le fits)).1
  have enough : (1 : ℚ) ≤ (1 - 1 / 2 ^ 53) * drift ^ 2 := by norm_num [drift]
  have q0 : 0 ≤ q := zero_le_one.trans one_le
  calc q ≤ q * ((1 - 1 / 2 ^ 53) * drift ^ 2) := le_mul_of_one_le_right q0 enough
    _ = (q - q / 2 ^ 53) * drift ^ 2 := by ring
    _ ≤ (ofRat q).toRat * drift ^ 2 := by
      have : q - q / 2 ^ 53 ≤ (ofRat q).toRat := by linarith
      gcongr

/-- What is at most a number from one upward is rounded to that and the factor, or overflows. -/
theorem atMost_ofRat {q : ℚ} (nonneg : 0 ≤ q) (le : q ≤ b) (one_le : 1 ≤ b) :
    AtMost (b * drift) (ofRat q) := by
  rcases ofRat_cases nonneg with infinite | ⟨fits, double, double0⟩
  · exact .inl infinite
  refine .inr ⟨_, double, double0, ?_⟩
  rcases le_total q 1 with small | large
  · obtain ⟨r, hr, -, -, unit⟩ := upTo_ofRat nonneg small representable_one one_lt_overflow
    rw [hr]
    exact unit.trans (one_le_mul_of_one_le_of_one_le one_le one_le_drift)
  · calc (ofRat q).toRat ≤ q * drift := toRat_ofRat_le large fits
      _ ≤ b * drift := mul_le_mul_of_nonneg_right le (zero_le_one.trans one_le_drift)

/-- A score times a double is at most the double, or infinite. -/
theorem UpTo.atMost_mul {q : ℚ} (unit : UpTo 1 x) (hq : Representable q) (q0 : 0 ≤ q) :
    AtMost q (x * finite q) := by
  obtain ⟨p, rfl, -, p0, p1⟩ := unit
  have nonneg := mul_nonneg p0 q0
  have le : p * q ≤ q := mul_le_of_le_one_left q0 p1
  rw [finite_mul_finite p0 q0]
  rcases ofRat_cases nonneg with infinite | ⟨fits, double, double0⟩
  · exact .inl infinite
  -- the double itself is no nearer than what is rounded to
  have near := (abs_le.1 (ofRat_nearest (by rwa [abs_of_nonneg nonneg]) hq)).2
  rw [abs_of_nonneg (sub_nonneg.2 le)] at near
  exact .inr ⟨_, double, double0, by linarith⟩

/-- A sum of two doubles is at most the sum of their bounds and the factor, or infinite. -/
theorem AtMost.add {c : ℚ} (hx : AtMost b x) (hy : AtMost c y) (one_le : 1 ≤ b + c) :
    AtMost ((b + c) * drift) (x + y) := by
  rcases hx with rfl | ⟨q, rfl, q0, qb⟩
  · rcases hy with rfl | ⟨r, rfl, -⟩ <;> exact .inl rfl
  · rcases hy with rfl | ⟨r, rfl, r0, rc⟩
    · exact .inl rfl
    · exact atMost_ofRat (add_nonneg q0 r0) (add_le_add qb rc) one_le

/-! ## Many roundings -/

/-- Few enough factors stay nearly one. -/
theorem drift_pow_le {m : ℕ} (few : m ≤ 2 ^ 45 + 3) : drift ^ m ≤ nearlyOne := by
  have count : (m : ℚ) ≤ 2 ^ 45 + 3 := by exact_mod_cast few
  have most : nearlyOne⁻¹ ≤ (1 - 1 / 2 ^ 53) ^ m := by
    have bernoulli := one_add_mul_le_pow (a := (-(1 / 2 ^ 53) : ℚ)) (by norm_num) m
    rw [← sub_eq_add_neg] at bernoulli
    have least : nearlyOne⁻¹ ≤ 1 + m * -(1 / 2 ^ 53) :=
      calc nearlyOne⁻¹ ≤ 1 + (2 ^ 45 + 3) * -(1 / 2 ^ 53) := by norm_num [nearlyOne]
        _ ≤ 1 + m * -(1 / 2 ^ 53) := by linarith
    exact least.trans bernoulli
  have less : (drift * (1 - 1 / 2 ^ 53)) ^ m ≤ 1 :=
    pow_le_one₀ (by norm_num [drift]) (by norm_num [drift])
  have positive : 0 < nearlyOne := by norm_num [nearlyOne]
  have factors : 0 ≤ drift ^ m := pow_nonneg (zero_le_one.trans one_le_drift) m
  calc drift ^ m = drift ^ m * nearlyOne⁻¹ * nearlyOne := by
        rw [mul_assoc, inv_mul_cancel₀ positive.ne', mul_one]
    _ ≤ drift ^ m * (1 - 1 / 2 ^ 53) ^ m * nearlyOne := by gcongr
    _ = (drift * (1 - 1 / 2 ^ 53)) ^ m * nearlyOne := by rw [mul_pow]
    _ ≤ 1 * nearlyOne := by gcongr
    _ = nearlyOne := one_mul _

/-- No infinite number is rounded. -/
theorem roundHalfUp_infinite : (Number.real (infinite false)).roundHalfUp 2 = .error .infiniteInteger := by
  rw [roundHalfUp_hundredths]
  rfl

/-- **A mean that strays by few roundings is a score in hundredths**: what is at most a count, but for so
many factors, over the count. -/
theorem upTo_of_mean {n m : ℕ} (positive : 0 < n) (fits : (n : ℚ) < overflow)
    (hx : AtMost (n * drift ^ m) x) (few : m ≤ 2 ^ 45 + 1)
    (h : (Number.real (x / ofRat n)).roundHalfUp 2 = .ok y) : UpTo 1 y := by
  have one_le : (1 : ℚ) ≤ n := by exact_mod_cast positive
  have count := le_toRat_ofRat one_le fits
  have factor : 0 < drift ^ 2 := pow_pos (zero_lt_one.trans_le one_le_drift) 2
  rw [ofRat_of_nonneg (Nat.cast_nonneg n) fits] at h
  generalize (ofRat n).toRat = d at count h
  have d0 : 0 < d := pos_of_mul_pos_left (zero_lt_one.trans_le (one_le.trans count)) factor.le
  rcases hx with rfl | ⟨a, rfl, a0, bound⟩
  · rw [infinite_div_finite d0, roundHalfUp_infinite] at h
    cases h
  · have mean : a / d ≤ nearlyOne := by
      rw [div_le_iff₀ d0]
      calc a ≤ n * drift ^ m := bound
        _ ≤ d * drift ^ 2 * drift ^ m := by
          have := zero_le_one.trans one_le_drift
          gcongr
        _ = drift ^ (m + 2) * d := by ring
        _ ≤ nearlyOne * d := by
          have := drift_pow_le (m := m + 2) (by omega)
          gcongr
    have close : UpTo nearlyOne (finite a / finite d) := by
      rw [finite_div_finite a0 d0]
      exact upTo_ofRat (div_nonneg a0 d0.le) mean
        ⟨1029, -10, by norm_num [nearlyOne], by norm_num, by norm_num⟩
        (calc nearlyOne < 2 ^ 1 := by norm_num [nearlyOne]
          _ < overflow := two_pow_lt_overflow (by norm_num))
    obtain ⟨y', rounded, unit⟩ := roundHalfUp_of_nearlyOne close
    obtain rfl := Except.ok.inj (h.symm.trans rounded)
    exact unit

end Binary64

end Deliberation
