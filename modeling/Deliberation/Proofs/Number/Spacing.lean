/-
# Proofs.Number.Spacing -- where doubles lie, and on which side of a double a rational goes

From a power of two up to the next, doubles are the multiples of one unit (`exists_multiple`), so between two
neighbouring multiples there is none (`succ_le_of_lt`).  A rational is rounded below a double exactly if it
lies below the midpoint to the double before it, the midpoint itself apart (`toRat_ofRat_lt`,
`lt_toRat_ofRat`).

Three things are exact or nearly so.  The part of a double behind the point is a double
(`representable_fract`).  Adding one half to a double from one to `2 ^ 52` never reaches the next whole number
too early (`toRat_ofRat_add_half_lt`).  And a fraction with a moderate denominator is rounded by the same
amount behind all whole numbers with the same number of binary digits (`toRat_ofRat_sub_eq`).
-/
import Deliberation.Proofs.Number.Places
import Mathlib.Data.Nat.Prime.Basic
import Mathlib.Data.Nat.Size

set_option autoImplicit false

namespace Deliberation

namespace Binary64

variable {q r x y : ℚ}

/-! ## Multiples of a unit -/

theorem two_zpow_neg (s : ℕ) : (2 : ℚ) ^ (-(s : ℤ)) = 1 / 2 ^ s := by
  rw [zpow_neg, zpow_natCast, one_div]

theorem representable_div {m : ℤ} {s : ℕ} (small : |m| ≤ 2 ^ 53) (fine : s ≤ 1074) :
    Representable (m / 2 ^ s) :=
  ⟨m, -s, by rw [two_zpow_neg, mul_one_div], small, by omega⟩

/-- From the least double with 53 places before the unit on, doubles are multiples of the unit. -/
theorem exists_multiple {s : ℕ} (hr : Representable r) (large : 2 ^ 52 / 2 ^ s ≤ r) :
    ∃ k : ℤ, r = k / 2 ^ s := by
  obtain ⟨m, e, rfl, small, -⟩ := hr
  rcases le_or_gt (-(s : ℤ)) e with coarser | finer
  · obtain ⟨k, hk⟩ := multiple_of_coarser (m := m) coarser
    exact ⟨k, by rw [hk, two_zpow_neg, mul_one_div]⟩
  · -- A finer double is no more than the least one, which is a multiple.
    have bound : (m : ℚ) * 2 ^ e ≤ 2 ^ 52 / 2 ^ s := by
      have digits : (m : ℚ) ≤ 2 ^ 53 := by exact_mod_cast (le_abs_self m).trans small
      calc (m : ℚ) * 2 ^ e ≤ 2 ^ 53 * 2 ^ e := mul_le_mul_of_nonneg_right digits (two_zpow_pos e).le
        _ ≤ 2 ^ 53 * 2 ^ (-(s : ℤ) - 1) := by
          have : (2 : ℚ) ^ e ≤ 2 ^ (-(s : ℤ) - 1) := zpow_le_zpow_right₀ one_le_two (by omega)
          linarith
        _ = 2 ^ 52 / 2 ^ s := by
          rw [zpow_sub₀ two_ne_zero, two_zpow_neg]
          ring
    exact ⟨2 ^ 52, by push_cast; exact le_antisymm bound large⟩

/-- No double lies between two neighbouring multiples of the unit. -/
theorem succ_le_of_lt {s : ℕ} {k : ℤ} (hr : Representable r) (large : 2 ^ 52 ≤ k)
    (above : (k : ℚ) / 2 ^ s < r) : ((k + 1 : ℤ) : ℚ) / 2 ^ s ≤ r := by
  have unit : (0 : ℚ) < 2 ^ s := by positivity
  have least : (2 : ℚ) ^ 52 / 2 ^ s ≤ k / 2 ^ s := by
    have : (2 : ℚ) ^ 52 ≤ k := by exact_mod_cast large
    gcongr
  obtain ⟨n, rfl⟩ := exists_multiple hr (least.trans above.le)
  have less : (k : ℚ) < n := (div_lt_div_iff_of_pos_right unit).1 above
  have next : ((k + 1 : ℤ) : ℚ) ≤ n := by exact_mod_cast less
  gcongr

/-! ## Midpoints -/

/-- What lies below the midpoint of a double and another number stays below that number. -/
theorem toRat_ofRat_lt (hr : Representable r) (less : r < y) (fits : |x| < overflow)
    (fits' : |r| < overflow) (below : x < (r + y) / 2) : (ofRat x).toRat < y := by
  rcases le_or_gt x r with before | behind
  · calc (ofRat x).toRat ≤ (ofRat r).toRat := toRat_ofRat_mono before fits fits'
      _ = r := toRat_ofRat_of_representable hr fits'
      _ < y := less
  · have near := (abs_le.1 (ofRat_nearest fits hr)).2
    rw [abs_of_neg (by linarith)] at near
    linarith

/-- What lies above the midpoint of a number and a double behind it stays above that number. -/
theorem lt_toRat_ofRat (hr : Representable r) (less : y < r) (fits : |x| < overflow)
    (fits' : |r| < overflow) (above : (y + r) / 2 < x) : y < (ofRat x).toRat := by
  rcases le_or_gt r x with behind | before
  · calc y < r := less
      _ = (ofRat r).toRat := (toRat_ofRat_of_representable hr fits').symm
      _ ≤ (ofRat x).toRat := toRat_ofRat_mono behind fits' fits
  · have near := (abs_le.1 (ofRat_nearest fits hr)).1
    rw [abs_of_pos (by linarith)] at near
    linarith

/-- Where the midpoint before a double is rounded up to it, the double is reached from there on. -/
theorem le_toRat_ofRat_iff (hy : Representable y) (less : y < r) (fits : |x| < overflow)
    (fitsY : |y| < overflow) (fitsMiddle : |(y + r) / 2| < overflow)
    (up : (ofRat ((y + r) / 2)).toRat = r) : r ≤ (ofRat x).toRat ↔ (y + r) / 2 ≤ x := by
  refine ⟨fun reached => ?_, fun above => ?_⟩
  · by_contra below
    exact absurd reached (not_le.2 (toRat_ofRat_lt hy less fits fitsY (not_le.1 below)))
  · calc r = (ofRat ((y + r) / 2)).toRat := up.symm
      _ ≤ (ofRat x).toRat := toRat_ofRat_mono above fitsMiddle fits

/-- Where the midpoint behind a double is rounded down to it, the double is exceeded from there on. -/
theorem lt_toRat_ofRat_iff (hr : Representable r) (less : y < r) (fits : |x| < overflow)
    (fitsR : |r| < overflow) (fitsMiddle : |(y + r) / 2| < overflow)
    (down : (ofRat ((y + r) / 2)).toRat = y) : y < (ofRat x).toRat ↔ (y + r) / 2 < x := by
  refine ⟨fun exceeded => ?_, lt_toRat_ofRat hr less fits fitsR⟩
  by_contra below
  have : (ofRat x).toRat ≤ y :=
    calc (ofRat x).toRat ≤ (ofRat ((y + r) / 2)).toRat := toRat_ofRat_mono (not_lt.1 below) fits fitsMiddle
      _ = y := down
  exact absurd exceeded (not_lt.2 this)

/-! ## Behind the point -/

/-- The part of a double behind the point is a double. -/
theorem representable_fract (hq : Representable q) (nonneg : 0 ≤ q) :
    Representable (q - q.floor) := by
  obtain ⟨m, e, rfl, small, fine⟩ := hq
  rcases le_or_gt 0 e with whole | broken
  · obtain ⟨k, hk⟩ := multiple_of_coarser (m := m) whole
    rw [hk, zpow_zero, mul_one, Rat.floor_intCast, sub_self]
    exact representable_zero
  · set n := ((m : ℚ) * 2 ^ e).floor with hn
    obtain ⟨s, rfl⟩ : ∃ s : ℕ, e = -s := ⟨e.natAbs, by omega⟩
    have unit : (0 : ℚ) < 2 ^ s := by positivity
    have floorLe : (n : ℚ) ≤ m / 2 ^ s := by
      rw [hn, two_zpow_neg, mul_one_div]
      exact Rat.floor_le _
    have floorNonneg : 0 ≤ n := Rat.le_floor_iff.2 (by exact_mod_cast nonneg)
    have above : n * 2 ^ s ≤ m := by
      rw [le_div_iff₀ unit] at floorLe
      exact_mod_cast floorLe
    have below : 0 ≤ n * 2 ^ s := by positivity
    have digits := (abs_le.1 small).2
    refine ⟨m - n * 2 ^ s, -s, ?_, by rw [abs_of_nonneg] <;> omega, fine⟩
    rw [two_zpow_neg]
    push_cast
    field_simp

/-! ## Whole numbers with as many binary digits -/

section Digits

variable {k s : ℕ}

theorem pow_le_mul_pow (positive : 0 < k) (digits : k.size + s = 53) : 2 ^ 52 ≤ k * 2 ^ s := by
  obtain ⟨t, ht⟩ : ∃ t, k.size = t + 1 := ⟨k.size - 1, by have := Nat.size_pos.2 positive; omega⟩
  have leading : 2 ^ t ≤ k := Nat.lt_size.1 (by omega)
  calc 2 ^ 52 = 2 ^ t * 2 ^ s := by rw [← pow_add]; congr 1; omega
    _ ≤ k * 2 ^ s := Nat.mul_le_mul_right _ leading

theorem succ_mul_pow_le (digits : k.size + s = 53) : (k + 1) * 2 ^ s ≤ 2 ^ 53 :=
  calc (k + 1) * 2 ^ s ≤ 2 ^ k.size * 2 ^ s := Nat.mul_le_mul_right _ (Nat.lt_size_self k)
    _ = 2 ^ 53 := by rw [← pow_add, digits]

theorem succ_le_two_pow (digits : k.size ≤ 53) : (k : ℚ) + 1 ≤ 2 ^ 53 := by
  have : k + 1 ≤ 2 ^ 53 :=
    calc k + 1 ≤ 2 ^ k.size := Nat.lt_size_self k
      _ ≤ 2 ^ 53 := Nat.pow_le_pow_right two_pos digits
  exact_mod_cast this

/-- **Adding one half reaches the next whole number only from half way on.** -/
theorem toRat_ofRat_add_half_lt (positive : 0 < k) (few : k.size ≤ 52) (hx : Representable x)
    (nonneg : 0 ≤ x) (less : x < k + 1 / 2) : (ofRat (x + 1 / 2)).toRat < k + 1 := by
  obtain ⟨s, digits⟩ : ∃ s, k.size + (s + 1) = 53 := ⟨52 - k.size, by omega⟩
  have unit : (0 : ℚ) < 2 ^ (s + 1) := by positivity
  have large := pow_le_mul_pow positive digits
  have small := succ_mul_pow_le digits
  have one : 1 ≤ 2 ^ s := Nat.one_le_two_pow
  have double : 2 ^ (s + 1) = 2 * 2 ^ s := pow_succ' 2 s
  -- The double before the point half way is a unit before it.
  have before : x ≤ (((2 * k + 1) * 2 ^ s - 1 : ℤ) : ℚ) / 2 ^ (s + 1) := by
    by_contra above
    have reached := succ_le_of_lt (k := (2 * k + 1) * 2 ^ s - 1) hx (by
      zify at large one double
      rw [double] at large
      linarith) (not_le.1 above)
    rw [sub_add_cancel, div_le_iff₀ unit] at reached
    push_cast at reached
    rw [pow_succ] at reached
    have positive' : (0 : ℚ) < 2 ^ s := by positivity
    nlinarith
  have held : Representable ((((k + 1) * 2 ^ (s + 1) - 1 : ℤ) : ℚ) / 2 ^ (s + 1)) := by
    apply representable_div _ (by omega)
    zify at small one double
    rw [abs_of_nonneg] <;> nlinarith
  have bound : x + 1 / 2 ≤ (((k + 1) * 2 ^ (s + 1) - 1 : ℤ) : ℚ) / 2 ^ (s + 1) := by
    refine (add_le_add_left before (1 / 2)).trans (le_of_eq ?_)
    push_cast
    rw [pow_succ]
    field_simp
    ring
  have next : (((k + 1) * 2 ^ (s + 1) - 1 : ℤ) : ℚ) / 2 ^ (s + 1) < k + 1 := by
    rw [div_lt_iff₀ unit]
    push_cast
    linarith
  have fits : (((k + 1) * 2 ^ (s + 1) - 1 : ℤ) : ℚ) / 2 ^ (s + 1) < overflow :=
    (next.trans_le (succ_le_two_pow (by omega))).trans (two_pow_lt_overflow (by norm_num))
  obtain ⟨z, same, -, -, le⟩ := upTo_ofRat (by linarith) bound held fits
  rw [same]
  exact le.trans_lt next

/-- Behind a whole number, a fraction is rounded to a nearest multiple of the unit. -/
theorem exists_offset (positive : 0 < k) (digits : k.size + s = 53) (nonneg : 0 ≤ q) (le : q ≤ 1) :
    ∃ a : ℕ, a ≤ 2 ^ s ∧ (ofRat (k + q)).toRat = k + a / 2 ^ s ∧
      ∀ c : ℕ, c ≤ 2 ^ s → |(a : ℚ) / 2 ^ s - q| ≤ |(c : ℚ) / 2 ^ s - q| := by
  have unit : (0 : ℚ) < 2 ^ s := by positivity
  have large : (2 : ℚ) ^ 52 ≤ k * 2 ^ s := by exact_mod_cast pow_le_mul_pow positive digits
  have small := succ_mul_pow_le digits
  have held (c : ℕ) (hc : c ≤ 2 ^ s) : Representable (k + c / 2 ^ s) := by
    have := representable_div (m := (k * 2 ^ s + c : ℕ)) (s := s) (by
      rw [Nat.abs_cast]
      exact_mod_cast (by linarith : k * 2 ^ s + c ≤ 2 ^ 53)) (by omega)
    convert this using 1
    push_cast
    field_simp
  have few : (k : ℚ) + 1 ≤ 2 ^ 53 := succ_le_two_pow (by omega)
  have fits {z : ℚ} (z0 : 0 ≤ z) (z1 : z ≤ k + 1) : |z| < overflow := by
    rw [abs_of_nonneg z0]
    exact (z1.trans few).trans_lt (two_pow_lt_overflow (by norm_num))
  have k0 : (0 : ℚ) ≤ k := Nat.cast_nonneg k
  have inside := fits (z := k + q) (by linarith) (by linarith)
  have low : (k : ℚ) ≤ (ofRat (k + q)).toRat := by
    have own := held 0 (Nat.zero_le _)
    rw [Nat.cast_zero, zero_div, add_zero] at own
    calc (k : ℚ) = (ofRat k).toRat :=
          (toRat_ofRat_of_representable own (fits k0 (by linarith))).symm
      _ ≤ (ofRat (k + q)).toRat := toRat_ofRat_mono (by linarith) (fits k0 (by linarith)) inside
  have high : (ofRat (k + q)).toRat ≤ k + 1 := by
    have next := held (2 ^ s) le_rfl
    rw [Nat.cast_pow, Nat.cast_ofNat, div_self unit.ne'] at next
    calc (ofRat (k + q)).toRat ≤ (ofRat (k + 1)).toRat :=
          toRat_ofRat_mono (by linarith) inside (fits (by linarith) le_rfl)
      _ = k + 1 := toRat_ofRat_of_representable next (fits (by linarith) le_rfl)
  obtain ⟨n, hn⟩ := exists_multiple (s := s) (representable_ofRat inside)
    ((div_le_iff₀ unit).2 large |>.trans low)
  rw [hn, le_div_iff₀ unit] at low
  rw [hn, div_le_iff₀ unit] at high
  have low' : (k : ℤ) * 2 ^ s ≤ n := by exact_mod_cast low
  have high' : n ≤ (k + 1 : ℤ) * 2 ^ s := by exact_mod_cast high
  obtain ⟨a, ha⟩ := Int.eq_ofNat_of_zero_le (sub_nonneg.2 low')
  have value : (ofRat (k + q)).toRat = k + a / 2 ^ s := by
    have : (n : ℚ) = k * 2 ^ s + a := by
      have : n = k * 2 ^ s + a := by omega
      exact_mod_cast this
    rw [hn, this]
    field_simp
  refine ⟨a, by zify; linarith, value, ?_⟩
  intro c hc
  have near := ofRat_nearest inside (held c hc)
  rw [value] at near
  simpa [add_sub_add_left_eq_sub] using near

/-- The nearest multiple to a fraction with a moderate denominator is unique: half way between two of them
are only fractions with a greater denominator. -/
theorem eq_of_nearest {a b n total : ℕ} (fine : 46 ≤ s) (lt : n < total) (few : total < 2 ^ 46)
    (ha : a ≤ 2 ^ s) (hb : b ≤ 2 ^ s)
    (nearA : ∀ c : ℕ, c ≤ 2 ^ s → |(a : ℚ) / 2 ^ s - n / total| ≤ |(c : ℚ) / 2 ^ s - n / total|)
    (nearB : ∀ c : ℕ, c ≤ 2 ^ s → |(b : ℚ) / 2 ^ s - n / total| ≤ |(c : ℚ) / 2 ^ s - n / total|) :
    a = b := by
  have unit : (0 : ℚ) < 2 ^ s := by positivity
  have positive : (0 : ℚ) < total := by exact_mod_cast (by omega : 0 < total)
  rcases abs_eq_abs.1 (le_antisymm (nearA b hb) (nearB a ha)) with same | opposite
  · have : (a : ℚ) / 2 ^ s = b / 2 ^ s := by linarith
    rw [div_left_inj' unit.ne'] at this
    exact_mod_cast this
  · have sum : (a + b) * total = n * 2 ^ (s + 1) := by
      have : ((a : ℚ) + b) * total = n * 2 ^ (s + 1) := by
        rw [pow_succ]
        field_simp at opposite
        linarith
      exact_mod_cast this
    rcases Nat.even_or_odd (a + b) with ⟨c, hc⟩ | odd
    · -- The fraction is a multiple itself.
      have own : (c : ℚ) / 2 ^ s = n / total := by
        rw [hc, pow_succ] at sum
        have : (c : ℚ) * total = n * 2 ^ s := by exact_mod_cast (by linarith : c * total = n * 2 ^ s)
        rw [div_eq_div_iff unit.ne' positive.ne']
        exact this
      have toC {d : ℕ} (near : ∀ c : ℕ, c ≤ 2 ^ s →
          |(d : ℚ) / 2 ^ s - n / total| ≤ |(c : ℚ) / 2 ^ s - n / total|) : d = c := by
        have zero := near c (by omega)
        rw [own, sub_self, abs_zero, abs_nonpos_iff, sub_eq_zero, ← own,
          div_left_inj' unit.ne'] at zero
        exact_mod_cast zero
      rw [toC nearA, toC nearB]
    · have coprime : Nat.Coprime (2 ^ (s + 1)) (a + b) := (Nat.coprime_two_left.2 odd).pow_left _
      have divides : 2 ^ (s + 1) ∣ total :=
        coprime.dvd_of_dvd_mul_left ⟨n, by rw [sum, Nat.mul_comm]⟩
      have large : 2 ^ (s + 1) ≤ total := Nat.le_of_dvd (by omega) divides
      have : 2 ^ 47 ≤ 2 ^ (s + 1) := Nat.pow_le_pow_right two_pos (by omega)
      omega

/-- **A fraction with a moderate denominator is rounded by the same amount behind whole numbers with as
many binary digits.** -/
theorem toRat_ofRat_sub_eq {k' n total : ℕ} (same : k.size = k'.size) (digits : k.size ≤ 7)
    (lt : n < total) (few : total < 2 ^ 46) :
    (ofRat (k + n / total)).toRat - k = (ofRat (k' + n / total)).toRat - k' := by
  rcases Nat.eq_zero_or_pos k with zero | positive
  · have none : k' = 0 := Nat.size_eq_zero.1 (by rw [← same, zero, Nat.size_zero])
    rw [zero, none]
  · have positive' : 0 < k' := Nat.size_pos.1 (by rw [← same]; exact Nat.size_pos.2 positive)
    obtain ⟨s, hs⟩ : ∃ s, k.size + s = 53 := ⟨53 - k.size, by omega⟩
    have nonneg : (0 : ℚ) ≤ n / total := by positivity
    have le : (n : ℚ) / total ≤ 1 :=
      div_le_one_of_le₀ (by exact_mod_cast lt.le) (Nat.cast_nonneg total)
    obtain ⟨a, ha, value, near⟩ := exists_offset positive hs nonneg le
    obtain ⟨b, hb, value', near'⟩ := exists_offset positive' (same ▸ hs) nonneg le
    rw [value, value', eq_of_nearest (by omega) lt few ha hb near near']
    ring

end Digits

end Binary64

end Deliberation
