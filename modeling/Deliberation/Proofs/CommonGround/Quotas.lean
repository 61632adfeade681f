/-
# Proofs.CommonGround.Quotas -- how far a percentage is from the share

A percentage is the double nearest to a share in points.  Doubles up to 128 are at most `2 ^ -46` apart, so
rounding moves the share by half of that (`percentOf_error`), and not at all where the share is a multiple of
`2 ^ -46` (`percentOf_of_dvd`).  Whole numbers are doubles, so rounding never passes one: the whole part of
the percentage is that of the share, or the next whole number is reached and nothing is left behind the point
(`wholePercent_cases`).  The latter takes a total of `2 ^ 46` or more (`wholePercent_of_lt`), and up to there
different remainders stay in their order (`restPercent_lt`).
-/
import Deliberation.Proofs.CommonGround.Tally

set_option autoImplicit false

namespace Deliberation

open Binary64

/-- The whole points in the share of a count. -/
def wholeShare (total count : ℕ) : ℕ := 100 * count / total

/-- What is left of the share of a count behind its whole points, in parts of the total. -/
def restShare (total count : ℕ) : ℕ := 100 * count % total

variable {count count' total n : ℕ}

/-! ## Shares -/

/-- The share of a count in points, split at the point. -/
theorem share_eq (count : ℕ) (positive : 0 < total) :
    (100 * count : ℚ) / total = wholeShare total count + (restShare total count : ℚ) / total := by
  have total0 : (total : ℚ) ≠ 0 := by exact_mod_cast positive.ne'
  have split : (total : ℚ) * wholeShare total count + restShare total count = 100 * count := by
    exact_mod_cast Nat.div_add_mod (100 * count) total
  rw [← split, add_div, mul_div_cancel_left₀ _ total0]

theorem restShare_lt (count : ℕ) (positive : 0 < total) : restShare total count < total :=
  Nat.mod_lt _ positive

theorem restShare_eq_zero (whole : total ∣ 100 * count) : restShare total count = 0 :=
  Nat.mod_eq_zero_of_dvd whole

theorem wholeShare_le (le : count ≤ total) : wholeShare total count ≤ 100 :=
  Nat.div_le_of_le_mul (by rw [Nat.mul_comm total]; exact Nat.mul_le_mul_left 100 le)

theorem wholeShare_le_share (count : ℕ) (positive : 0 < total) :
    (wholeShare total count : ℚ) ≤ 100 * count / total := by
  rw [share_eq count positive]
  exact le_add_of_nonneg_right (by positivity)

/-- The share is at least one part of the total below the next whole point. -/
theorem share_add_le (count : ℕ) (positive : 0 < total) :
    (100 * count : ℚ) / total + 1 / total ≤ wholeShare total count + 1 := by
  have total0 : (0 : ℚ) < total := by exact_mod_cast positive
  have rest : ((restShare total count : ℚ) + 1) / total ≤ 1 := by
    rw [div_le_one total0]
    exact_mod_cast restShare_lt count positive
  rw [share_eq count positive, add_assoc, ← add_div]
  linarith

theorem share_lt (count : ℕ) (positive : 0 < total) :
    (100 * count : ℚ) / total < wholeShare total count + 1 := by
  have part : (0 : ℚ) < 1 / total := by positivity
  linarith [share_add_le count positive]

/-! ## Rounding -/

theorem share_fits (le : count ≤ total) : |(100 * count : ℚ) / total| < overflow := by
  rw [abs_of_nonneg (by positivity)]
  exact (percent_le le).trans_lt hundred_lt_overflow

theorem natCast_fits (small : n ≤ 2 ^ 53) : |(n : ℚ)| < overflow := by
  have bound : (n : ℚ) ≤ 2 ^ 53 := by exact_mod_cast small
  rw [Nat.abs_cast]
  exact bound.trans_lt (two_pow_lt_overflow (by norm_num))

theorem toRat_ofRat_natCast (small : n ≤ 2 ^ 53) : (ofRat (n : ℚ)).toRat = n :=
  toRat_ofRat_of_representable (representable_natCast small) (natCast_fits small)

section

variable {r : ℚ} (le : count ≤ total) (held : Representable r) (fits : |r| < overflow)
include le held fits

/-- Rounding passes no double. -/
theorem le_percentOf (below : r ≤ 100 * count / total) : r ≤ percentOf total count := by
  rw [← toRat_ofRat_of_representable held fits]
  exact toRat_ofRat_mono below fits (share_fits le)

theorem percentOf_le (above : (100 * count : ℚ) / total ≤ r) : percentOf total count ≤ r := by
  rw [← toRat_ofRat_of_representable held fits]
  exact toRat_ofRat_mono above (share_fits le) fits

end

theorem percentOf_error (le : count ≤ total) :
    |percentOf total count - 100 * count / total| ≤ 1 / 2 ^ 47 :=
  ofRat_error_within (s := 46) (t := 7) rfl (by positivity) ((percent_le le).trans (by norm_num))

/-- A share that is a multiple of the unit is not rounded. -/
theorem percentOf_of_dvd (le : count ≤ total) (positive : 0 < total)
    (divides : total ∣ 2 ^ 46 * restShare total count) : percentOf total count = 100 * count / total := by
  obtain ⟨k, hk⟩ := divides
  have total0 : (total : ℚ) ≠ 0 := by exact_mod_cast positive.ne'
  have rest : (restShare total count : ℚ) / total = k / 2 ^ 46 := by
    rw [div_eq_div_iff total0 (by norm_num)]
    exact_mod_cast (by linarith : restShare total count * 2 ^ 46 = k * total)
  have multiple : (100 * count : ℚ) / total =
      ((wholeShare total count * 2 ^ 46 + k : ℕ) : ℤ) / 2 ^ 46 := by
    rw [share_eq count positive, rest]
    push_cast
    ring
  have small : wholeShare total count * 2 ^ 46 + k ≤ 2 ^ 53 := by
    have bound := percent_le le
    rw [multiple, div_le_iff₀ (by norm_num)] at bound
    have : wholeShare total count * 2 ^ 46 + k ≤ 100 * 2 ^ 46 := by exact_mod_cast bound
    omega
  have held : Representable (100 * count / total) := by
    rw [multiple]
    exact representable_div (by rw [Nat.abs_cast]; exact_mod_cast small) (by norm_num)
  exact toRat_ofRat_of_representable held (share_fits le)

/-! ## The whole part and what is left -/

theorem percentOf_eq (total count : ℕ) :
    percentOf total count = wholePercent total count + restPercent total count := by
  rw [restPercent, add_sub_cancel]

theorem restPercent_nonneg (total count : ℕ) : 0 ≤ restPercent total count :=
  sub_nonneg.2 (Rat.floor_le _)

theorem wholePercent_eq {n : ℤ} (low : n ≤ percentOf total count) (high : percentOf total count < n + 1) :
    wholePercent total count = n :=
  le_antisymm (Int.le_of_lt_add_one (Rat.floor_lt_iff.2 (by exact_mod_cast high))) (Rat.le_floor_iff.2 low)

/-- A share that is whole is not rounded. -/
theorem wholePercent_of_dvd (le : count ≤ total) (positive : 0 < total) (whole : total ∣ 100 * count) :
    wholePercent total count = wholeShare total count ∧ restPercent total count = 0 := by
  have none := restShare_eq_zero whole
  have exactly : percentOf total count = wholeShare total count := by
    rw [percentOf_of_dvd le positive (by simp [none]), share_eq count positive, none]
    simp
  have floor : wholePercent total count = wholeShare total count :=
    wholePercent_eq (by simp [exactly]) (by simp [exactly])
  exact ⟨floor, by rw [restPercent, exactly, floor, Int.cast_natCast, sub_self]⟩

/-- **The whole part of a percentage is that of the share, or rounding has reached the next whole number.** -/
theorem wholePercent_cases (le : count ≤ total) (positive : 0 < total) :
    wholePercent total count = wholeShare total count ∨
      wholePercent total count = wholeShare total count + 1 ∧ restPercent total count = 0 ∧
        ¬total ∣ 100 * count := by
  have few : wholeShare total count + 1 ≤ 2 ^ 53 := by have := wholeShare_le le; omega
  have low := le_percentOf le (representable_natCast (by omega)) (natCast_fits (by omega))
    (wholeShare_le_share count positive)
  have high := percentOf_le le (representable_natCast few) (natCast_fits few) (by
    push_cast
    exact (share_lt count positive).le)
  push_cast at high
  rcases high.lt_or_eq with less | reached
  · exact .inl (wholePercent_eq (by exact_mod_cast low) (by exact_mod_cast less))
  · have floor : wholePercent total count = wholeShare total count + 1 :=
      wholePercent_eq (by rw [reached]; push_cast; rfl) (by rw [reached]; push_cast; linarith)
    refine .inr ⟨floor, by rw [restPercent, reached, floor]; push_cast; ring, fun whole => ?_⟩
    have := (wholePercent_of_dvd le positive whole).1
    omega

/-- Where something is left of a percentage, something is left of the share. -/
theorem wholePercent_of_rest (le : count ≤ total) (positive : 0 < total)
    (left : 0 < restPercent total count) :
    wholePercent total count = wholeShare total count ∧ ¬total ∣ 100 * count := by
  refine ⟨?_, fun whole => left.ne' (wholePercent_of_dvd le positive whole).2⟩
  rcases wholePercent_cases le positive with floor | ⟨-, none, -⟩
  · exact floor
  · exact absurd none left.ne'

/-! ## Moderate totals -/

theorem unit_lt_part (positive : 0 < total) (few : total < 2 ^ 46) : (1 : ℚ) / 2 ^ 46 < 1 / total :=
  one_div_lt_one_div_of_lt (by exact_mod_cast positive) (by exact_mod_cast few)

section

variable (le : count ≤ total) (le' : count' ≤ total) (positive : 0 < total) (few : total < 2 ^ 46)
include le positive few

/-- Rounding does not reach the next whole number. -/
theorem wholePercent_of_lt : wholePercent total count = wholeShare total count := by
  rcases wholePercent_cases le positive with floor | ⟨floor, none, -⟩
  · exact floor
  · have near := (abs_le.1 (percentOf_error le)).2
    have gap := share_add_le count positive
    have wide := unit_lt_part positive few
    rw [percentOf_eq, floor, none] at near
    push_cast at near
    linarith

theorem restPercent_error :
    |restPercent total count - (restShare total count : ℚ) / total| ≤ 1 / 2 ^ 47 := by
  have near := percentOf_error le
  rw [share_eq count positive, percentOf_eq, wholePercent_of_lt le positive few, Int.cast_natCast,
    add_sub_add_left_eq_sub] at near
  exact near

include le'

/-- **Different remainders stay in their order.** -/
theorem restPercent_lt (less : restShare total count < restShare total count') :
    restPercent total count < restPercent total count' := by
  have total0 : (0 : ℚ) < total := by exact_mod_cast positive
  have apart : (restShare total count : ℚ) / total + 1 / total ≤ restShare total count' / total := by
    rw [← add_div, div_le_div_iff_of_pos_right total0]
    exact_mod_cast less
  have wide := unit_lt_part positive few
  have near := abs_le.1 (restPercent_error le positive few)
  have near' := abs_le.1 (restPercent_error le' positive few)
  linarith

/-- **Equal remainders stay equal behind whole points with as many binary digits.** -/
theorem restPercent_of_size (same : restShare total count = restShare total count')
    (digits : (wholeShare total count).size = (wholeShare total count').size) :
    restPercent total count = restPercent total count' := by
  have bits : (wholeShare total count).size ≤ 7 :=
    Nat.size_le.2 ((wholeShare_le le).trans_lt (by norm_num))
  have moved := toRat_ofRat_sub_eq digits bits (restShare_lt count positive) few
  rw [← share_eq count positive, same, ← share_eq count' positive] at moved
  rw [restPercent, restPercent, wholePercent_of_lt le positive few, wholePercent_of_lt le' positive few]
  exact moved

/-- Equal remainders stay equal where they are multiples of the unit. -/
theorem restPercent_of_dvd (same : restShare total count = restShare total count')
    (divides : total ∣ 2 ^ 46 * restShare total count) :
    restPercent total count = restPercent total count' := by
  have kept {c : ℕ} (hc : c ≤ total) (h : total ∣ 2 ^ 46 * restShare total c) :
      restPercent total c = (restShare total c : ℚ) / total := by
    rw [restPercent, percentOf_of_dvd hc positive h, wholePercent_of_lt hc positive few,
      share_eq c positive, Int.cast_natCast, add_sub_cancel_left]
  rw [kept le divides, kept le' (same ▸ divides), same]

end

end Deliberation
