/-
# Proofs.Number.Places -- how far rounding to places moves a share

A share of a whole lies in the unit interval.  The nearest double is within half a unit of its 53rd binary
place (`ofRat_error`, up to any power of two `ofRat_error_within`), and rounding to decimal places moves it by
half a unit of the last place and as much again (`roundPlaces_error`).  A number that is further away than
that compares alike with the share and with what it was rounded to (`lt_iff_of_error`).  A share that has no
more places than it is rounded to is not moved at all (`roundPlaces_of_digits`).
-/
import Deliberation.Proofs.Number.Operations
import Mathlib.Algebra.Order.Round

set_option autoImplicit false

namespace Deliberation

namespace Binary64

variable {x y m : Binary64} {q δ : ℚ} {places : ℕ}

theorem abs_lt_overflow (nonneg : 0 ≤ q) (le : q ≤ 1) : |q| < overflow := by
  rw [abs_of_nonneg nonneg]
  exact le.trans_lt one_lt_overflow

/-- The nearest double is within half a unit of a binary place, where 53 places from there on are enough. -/
theorem ofRat_error_of_unit {e : ℤ} (fine : -1074 ≤ e) (nonneg : 0 ≤ q) (le : q ≤ 2 ^ 53 * 2 ^ e)
    (fits : q < overflow) : |(ofRat q).toRat - q| ≤ 2 ^ e / 2 := by
  have unit : (0 : ℚ) < 2 ^ e := two_zpow_pos e
  -- the nearest multiple of the unit, which is a double
  obtain ⟨k, close⟩ : ∃ k : ℤ, |(k : ℚ) - q / 2 ^ e| ≤ 1 / 2 :=
    ⟨round (q / 2 ^ e), by rw [abs_sub_comm]; exact abs_sub_round _⟩
  have small : |k| ≤ 2 ^ 53 := by
    obtain ⟨low, high⟩ := abs_le.1 close
    have above : (-1 : ℚ) < k := by linarith [div_nonneg nonneg unit.le]
    have below : (k : ℚ) < 2 ^ 53 + 1 := by linarith [(div_le_iff₀ unit).2 le]
    have above' : -1 < k := by exact_mod_cast above
    have below' : k < 2 ^ 53 + 1 := by exact_mod_cast below
    rw [abs_le]
    omega
  calc |(ofRat q).toRat - q| ≤ |(k : ℚ) * 2 ^ e - q| :=
        ofRat_nearest (by rwa [abs_of_nonneg nonneg]) ⟨k, e, rfl, small, fine⟩
    _ = |(k : ℚ) - q / 2 ^ e| * 2 ^ e := abs_mul_zpow_sub _ _ _
    _ ≤ 1 / 2 * 2 ^ e := by gcongr
    _ = 2 ^ e / 2 := by ring

/-- Up to a power of two the nearest double is within half a unit of the 53rd binary place. -/
theorem ofRat_error_within {s t : ℕ} (digits : s + t = 53) (nonneg : 0 ≤ q) (le : q ≤ 2 ^ t) :
    |(ofRat q).toRat - q| ≤ 1 / 2 ^ (s + 1) := by
  have unit : (2 : ℚ) ^ (-s : ℤ) = 1 / 2 ^ s := by rw [zpow_neg, zpow_natCast, one_div]
  have whole : (2 : ℚ) ^ 53 * 2 ^ (-s : ℤ) = 2 ^ t := by
    rw [unit, ← digits, pow_add]
    field_simp
  have error := ofRat_error_of_unit (e := -s) (by omega) nonneg (by rwa [whole])
    (le.trans_lt (two_pow_lt_overflow (by omega)))
  rwa [unit, div_div, ← pow_succ] at error

/-- In the unit interval the nearest double is within half a unit of the 53rd binary place. -/
theorem ofRat_error (nonneg : 0 ≤ q) (le : q ≤ 1) : |(ofRat q).toRat - q| ≤ 1 / 2 ^ 54 :=
  ofRat_error_within (s := 53) (t := 0) rfl nonneg (by simpa using le)

theorem ofDecimal_eq_ofRat (d places : ℕ) : ofDecimal d places = ofRat (d / 10 ^ places) := by
  rw [ofDecimal, ofQuotient, Rat.mkRat_eq_div]
  congr 2
  exact_mod_cast rfl

/-- What a rational from the unit interval is rounded to: the double nearest to a decimal that is nearest
to it. -/
theorem exists_roundPlaces (nonneg : 0 ≤ q) (le : q ≤ 1) (places : ℕ) :
    ∃ d : ℕ, d ≤ 10 ^ places ∧ |(d : ℚ) - q * 10 ^ places| ≤ 1 / 2 ∧
      (finite q).roundPlaces places = ofRat (d / 10 ^ places) := by
  have close : |(nearestInteger (q.num.natAbs * Nat.pow 10 places) q.den : ℚ) - q * 10 ^ places| ≤
      1 / 2 := by
    rw [← natAbs_mul_pow_div_den nonneg]
    exact nearestInteger_error q.pos
  refine ⟨_, ?_, close, ?_⟩
  · have unit : q * 10 ^ places ≤ 10 ^ places := mul_le_of_le_one_left (by positivity) le
    have below : (nearestInteger (q.num.natAbs * Nat.pow 10 places) q.den : ℚ) <
        (10 ^ places + 1 : ℕ) := by
      push_cast
      linarith [(abs_le.1 close).2]
    exact Nat.lt_succ_iff.1 (by exact_mod_cast below)
  · rw [roundPlaces_finite nonneg, ofDecimal_eq_ofRat]

theorem roundPlaces_error (nonneg : 0 ≤ q) (le : q ≤ 1) (places : ℕ) :
    |((finite q).roundPlaces places).toRat - q| ≤ 1 / (2 * 10 ^ places) + 1 / 2 ^ 54 := by
  obtain ⟨d, small, close, rounded⟩ := exists_roundPlaces nonneg le places
  have scale : (0 : ℚ) < 10 ^ places := by positivity
  have decimal : (d : ℚ) / 10 ^ places ≤ 1 := by
    rw [div_le_one scale]
    exact_mod_cast small
  have moved : |(d : ℚ) / 10 ^ places - q| ≤ 1 / (2 * 10 ^ places) := by
    have factor : (d : ℚ) / 10 ^ places - q = (d - q * 10 ^ places) / 10 ^ places := by
      field_simp
    calc |(d : ℚ) / 10 ^ places - q| = |(d : ℚ) - q * 10 ^ places| / 10 ^ places := by
          rw [factor, abs_div, abs_of_pos scale]
      _ ≤ 1 / 2 / 10 ^ places := by gcongr
      _ = 1 / (2 * 10 ^ places) := div_div _ _ _
  rw [rounded]
  calc |(ofRat (d / 10 ^ places)).toRat - q|
      ≤ |(ofRat (d / 10 ^ places)).toRat - d / 10 ^ places| + |(d : ℚ) / 10 ^ places - q| :=
        abs_sub_le _ _ _
    _ ≤ 1 / 2 ^ 54 + 1 / (2 * 10 ^ places) :=
        add_le_add (ofRat_error (by positivity) decimal) moved
    _ = 1 / (2 * 10 ^ places) + 1 / 2 ^ 54 := add_comm _ _

/-- The double nearest to a rational from the unit interval. -/
theorem exists_ofRat_unit (nonneg : 0 ≤ q) (le : q ≤ 1) :
    ∃ r, ofRat q = finite r ∧ 0 ≤ r ∧ r ≤ 1 ∧ |r - q| ≤ 1 / 2 ^ 54 := by
  obtain ⟨r, double, -, r0, r1⟩ := upTo_ofRat nonneg le representable_one one_lt_overflow
  have close := ofRat_error nonneg le
  rw [double] at close
  exact ⟨r, double, r0, r1, close⟩

/-- The distance of a share from what the nearest double is rounded to. -/
theorem roundPlaces_ofRat_error (nonneg : 0 ≤ q) (le : q ≤ 1) (places : ℕ) :
    |((ofRat q).roundPlaces places).toRat - q| ≤ 1 / (2 * 10 ^ places) + 1 / 2 ^ 53 := by
  obtain ⟨r, double, r0, r1, close⟩ := exists_ofRat_unit nonneg le
  rw [double]
  calc |((finite r).roundPlaces places).toRat - q|
      ≤ |((finite r).roundPlaces places).toRat - r| + |r - q| := abs_sub_le _ _ _
    _ ≤ 1 / (2 * 10 ^ places) + 1 / 2 ^ 54 + 1 / 2 ^ 54 :=
        add_le_add (roundPlaces_error r0 r1 places) close
    _ = 1 / (2 * 10 ^ places) + 1 / 2 ^ 53 := by ring

/-- **A share with no more places than it is rounded to stays the double that it is.** -/
theorem roundPlaces_of_digits {k : ℤ} (nonneg : 0 ≤ q) (le : q ≤ 1) (few : 10 ^ places ≤ 2 ^ 52)
    (digits : q * 10 ^ places = k) : (ofRat q).roundPlaces places = ofRat q := by
  obtain ⟨r, double, r0, r1, close⟩ := exists_ofRat_unit nonneg le
  obtain ⟨d, -, near, rounded⟩ := exists_roundPlaces r0 r1 places
  have scale : (10 : ℚ) ^ places ≤ 2 ^ 52 := by exact_mod_cast few
  have positive : (0 : ℚ) < 10 ^ places := by positivity
  have shifted : |r * 10 ^ places - k| ≤ 1 / 4 := by
    rw [← digits, ← sub_mul, abs_mul, abs_of_pos positive]
    calc |r - q| * 10 ^ places ≤ 1 / 2 ^ 54 * 2 ^ 52 := by gcongr
      _ = 1 / 4 := by norm_num
  have apart : |((d : ℤ) : ℚ) - k| < 1 := by
    calc |((d : ℤ) : ℚ) - k| ≤ |((d : ℤ) : ℚ) - r * 10 ^ places| + |r * 10 ^ places - k| :=
          abs_sub_le _ _ _
      _ ≤ 1 / 2 + 1 / 4 := add_le_add (by exact_mod_cast near) shifted
      _ < 1 := by norm_num
  have same : (d : ℤ) = k := by
    have : |(d : ℤ) - k| < 1 := by exact_mod_cast apart
    rwa [Int.abs_lt_one_iff, sub_eq_zero] at this
  have restored : (d : ℚ) / 10 ^ places = q := by
    rw [div_eq_iff positive.ne', digits, ← same]
    norm_cast
  rw [double, rounded, restored, double]

/-- A decimal from the unit interval is rounded to its places already. -/
theorem exists_ofDecimal {d : ℕ} (small : d ≤ 10 ^ places) (few : 10 ^ places ≤ 2 ^ 52) :
    ∃ r, ofDecimal d places = finite r ∧ 0 ≤ r ∧ (finite r).roundPlaces places = finite r := by
  have scale : (0 : ℚ) < 10 ^ places := by positivity
  have nonneg : (0 : ℚ) ≤ d / 10 ^ places := by positivity
  have le : (d : ℚ) / 10 ^ places ≤ 1 := by
    rw [div_le_one scale]
    exact_mod_cast small
  have digits : (d : ℚ) / 10 ^ places * 10 ^ places = (d : ℤ) := by
    rw [div_mul_cancel₀ _ scale.ne', Int.cast_natCast]
  obtain ⟨r, value, r0, -, -⟩ := exists_ofRat_unit nonneg le
  have fixed := roundPlaces_of_digits nonneg le few digits
  rw [value] at fixed
  exact ⟨r, (ofDecimal_eq_ofRat d places).trans value, r0, fixed⟩

/-- A number further away than two doubles are from each other compares alike with both. -/
theorem lt_iff_of_error (hx : x.isFinite = true) (hy : y.isFinite = true)
    (near : |x.toRat - y.toRat| ≤ δ) (apart : m.isFinite = true → δ < |y.toRat - m.toRat|) :
    x < m ↔ y < m := by
  cases defined : m.isFinite with
  | true =>
      rw [lt_iff_of_isFinite hx defined, lt_iff_of_isFinite hy defined]
      have far := apart defined
      obtain ⟨low, high⟩ := abs_le.1 near
      rcases lt_abs.1 far with above | below
      · constructor <;> intro less <;> linarith
      · constructor <;> intro less <;> linarith
  | false =>
      rw [lt_iff, lt_iff, place_of_isFinite hx, place_of_isFinite hy, isNaN_of_isFinite hx,
        isNaN_of_isFinite hy]
      -- an infinite number is on one side of both, an undefined one on none
      rcases m with _ | (_ | _) | _ | _
      · simp [isNaN]
      · simp [place, Prod.Lex.toLex_lt_toLex]
      · simp [place, Prod.Lex.toLex_lt_toLex]
      · exact absurd defined (by decide)
      · exact absurd defined (by simp [isFinite])

end Binary64

end Deliberation
