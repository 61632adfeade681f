/-
# Proofs.Number.Basins -- the rationals that round to a double

A rational is rounded at the last place of its own magnitude.  In the basin of a double this is the last place
of the double (`nearest_of_holds`), except right below a power of two, where it is one place further down
(`nearest_of_holds_below`).  Counted in that place the double is nearest, and an edge of the basin belongs to it
only where its significand is even.  So every rational in the basin of a double rounds to it (`ofRat_of_holds`).
-/
import Deliberation.Number.Decimal
import Deliberation.Proofs.Number.Nearest

set_option autoImplicit false

namespace Deliberation

/-- An integer within one half of a quotient, and even if it is just so far away, is the nearest one. -/
theorem nearestInteger_eq {num den m : ℕ} (positive : 0 < den)
    (below : 2 * m * den ≤ 2 * num + den) (above : 2 * num ≤ 2 * m * den + den)
    (ties : 2 * m * den = 2 * num + den ∨ 2 * num = 2 * m * den + den → m % 2 = 0) :
    nearestInteger num den = m := by
  have split : den * (num / den) + num % den = num := Nat.div_add_mod num den
  have less : num % den < den := Nat.mod_lt num positive
  unfold nearestInteger
  simp only
  generalize num / den = q at *
  generalize num % den = r at *
  subst split
  have lower : q ≤ m := by
    by_contra behind
    have : den * (m + 1) ≤ den * q := Nat.mul_le_mul_left den (by omega)
    nlinarith
  have upper : m ≤ q + 1 := by
    by_contra beyond
    have : den * (q + 2) ≤ den * m := Nat.mul_le_mul_left den (by omega)
    nlinarith
  rcases eq_or_lt_of_le lower with rfl | further
  · have half : 2 * r ≤ den := by nlinarith
    split_ifs with low high
    · rfl
    · omega
    · have even := ties (.inr (by nlinarith))
      omega
  · obtain rfl : m = q + 1 := by omega
    have half : den ≤ 2 * r := by nlinarith
    split_ifs with low high
    · omega
    · rfl
    · have even := ties (.inl (by nlinarith))
      omega

namespace Binary64

variable {x y : ℚ} {place : ℤ} {m : ℕ}

/-! ## Places and significands -/

/-- The last place of a magnitude. -/
def placeOf (x : ℚ) : ℤ := lastPlace x.num.natAbs x.den

/-- The significand of a magnitude, counted in its last place. -/
def significandOf (x : ℚ) : ℕ := significandAt x.num.natAbs x.den (placeOf x)

theorem num_pos_of_pos (positive : 0 < x) : 0 < x.num.natAbs :=
  Int.natAbs_pos.2 (Rat.num_ne_zero.2 positive.ne')

theorem num_div_den_of_pos (positive : 0 < x) : (x.num.natAbs : ℚ) / x.den = x := by
  rw [natAbs_num_div_den, abs_of_pos positive]

/-- At the last place a magnitude has 53 places, and less only where there is no finer place. -/
theorem placeOf_spec (positive : 0 < x) :
    -1074 ≤ placeOf x ∧ x < 2 ^ 53 * 2 ^ placeOf x ∧
      (placeOf x = -1074 ∨ 2 ^ 52 * 2 ^ placeOf x ≤ x) := by
  obtain ⟨low, high⟩ := binaryExponent_spec (num_pos_of_pos positive) x.pos
  rw [num_div_den_of_pos positive] at low high
  unfold placeOf lastPlace
  set e := binaryExponent x.num.natAbs x.den
  refine ⟨le_max_right _ _, high.trans_le ?_, ?_⟩
  · rw [← zpow_natCast, ← zpow_add₀ two_ne_zero]
    exact zpow_le_zpow_right₀ one_le_two (by omega)
  · rcases le_total (e - 52) (-1074) with fine | coarse
    · exact .inl (max_eq_right fine)
    · refine .inr (le_trans (le_of_eq ?_) low)
      rw [max_eq_left coarse, ← zpow_natCast, ← zpow_add₀ two_ne_zero]
      congr 1
      omega

/-- Only one place is the last one. -/
theorem placeOf_eq (positive : 0 < x) (fine : -1074 ≤ place) (high : x < 2 ^ 53 * 2 ^ place)
    (low : place = -1074 ∨ 2 ^ 52 * 2 ^ place ≤ x) : placeOf x = place := by
  obtain ⟨fine', high', low'⟩ := placeOf_spec positive
  have order {p q : ℤ} (least : 2 ^ 52 * 2 ^ p ≤ x) (most : x < 2 ^ 53 * 2 ^ q) : p ≤ q := by
    have less := least.trans_lt most
    rw [← zpow_natCast, ← zpow_natCast, ← zpow_add₀ two_ne_zero, ← zpow_add₀ two_ne_zero] at less
    have := (zpow_lt_zpow_iff_right₀ (one_lt_two (α := ℚ))).1 less
    push_cast at this
    omega
  apply le_antisymm
  · rcases low' with least | least
    · omega
    · exact order least high
  · rcases low with least | least
    · omega
    · exact order least high'

/-- The significand of what is nearer to a multiple of the last place than half a place, or just so far away
from an even one. -/
theorem significandOf_eq (positive : 0 < x) (low : (m - 1 / 2 : ℚ) * 2 ^ placeOf x ≤ x)
    (high : x ≤ (m + 1 / 2 : ℚ) * 2 ^ placeOf x)
    (ties : x = (m - 1 / 2 : ℚ) * 2 ^ placeOf x ∨ x = (m + 1 / 2 : ℚ) * 2 ^ placeOf x → m % 2 = 0) :
    significandOf x = m := by
  -- both sides of the quotient are scaled by one factor
  obtain ⟨factor, hfactor, hnum, hden⟩ : ∃ k : ℚ, 0 < k ∧
      ((x.num.natAbs * Nat.pow 2 (-placeOf x).toNat : ℕ) : ℚ) = x * k ∧
      ((x.den * Nat.pow 2 (placeOf x).toNat : ℕ) : ℚ) = 2 ^ placeOf x * k := by
    have positiveDen : (0 : ℚ) < x.den := by exact_mod_cast x.pos
    have positivePow : (0 : ℚ) < (Nat.pow 2 (-placeOf x).toNat : ℕ) := by
      exact_mod_cast Nat.pos_of_ne_zero (by simp)
    refine ⟨x.den * (Nat.pow 2 (-placeOf x).toNat : ℕ), mul_pos positiveDen positivePow, ?_, ?_⟩
    · nth_rewrite 3 [← num_div_den_of_pos positive]
      push_cast
      field_simp
    · rw [zpow_eq_div]
      push_cast
      field_simp
  have scaledLow := mul_le_mul_of_nonneg_right low hfactor.le
  have scaledHigh := mul_le_mul_of_nonneg_right high hfactor.le
  rw [significandOf, significandAt]
  generalize x.num.natAbs * Nat.pow 2 (-placeOf x).toNat = num at *
  apply nearestInteger_eq (Nat.mul_pos x.pos (Nat.pos_of_ne_zero (by simp)))
  all_goals
    generalize x.den * Nat.pow 2 (placeOf x).toNat = den at *
  · have : (2 * m * den : ℚ) ≤ 2 * num + den := by
      rw [hnum, hden]
      linarith
    exact_mod_cast this
  · have : (2 * num : ℚ) ≤ 2 * m * den + den := by
      rw [hnum, hden]
      linarith
    exact_mod_cast this
  · rintro (tie | tie)
    · have : (2 * m * den : ℚ) = 2 * num + den := by exact_mod_cast tie
      rw [hnum, hden] at this
      exact ties (.inl (mul_right_cancel₀ hfactor.ne' (by linarith)))
    · have : (2 * num : ℚ) = 2 * m * den + den := by exact_mod_cast tie
      rw [hnum, hden] at this
      exact ties (.inr (mul_right_cancel₀ hfactor.ne' (by linarith)))

/-- A positive rational with a last place and a significand in range rounds to their product. -/
theorem ofRat_of_significand (positive : 0 < x)
    (fits : ¬(971 < placeOf x ∨ (placeOf x = 971 ∧ Nat.pow 2 53 ≤ significandOf x))) :
    ofRat x = finite (significandOf x * 2 ^ placeOf x) := by
  have sign : ¬x.num < 0 := not_lt.2 (Rat.num_nonneg.2 positive.le)
  unfold ofRat
  rw [if_neg (Rat.num_ne_zero.2 positive.ne')]
  unfold placeOf significandOf placeOf at fits
  simp only [if_neg fits, if_neg sign, scaled_eq]
  rfl

/-! ## Around a double -/

section Double

variable (positive : 0 < x) (hx : Representable x)

include positive hx

/-- A double is its significand in its last place. -/
theorem significandOf_mul : (significandOf x : ℚ) * 2 ^ placeOf x = x := by
  have near := roundedAbs_nearest positive.ne' hx
  rw [abs_of_pos positive, sub_self, abs_zero] at near
  exact sub_eq_zero.1 (abs_nonpos_iff.1 near)

theorem significandOf_pos : 0 < significandOf x := by
  have product := significandOf_mul positive hx
  rcases Nat.eq_zero_or_pos (significandOf x) with none | some
  · rw [none, Nat.cast_zero, zero_mul] at product
    exact absurd product positive.ne
  · exact some

theorem significandOf_lt : significandOf x < 2 ^ 53 := by
  have high := (placeOf_spec positive).2.1
  nth_rewrite 1 [← significandOf_mul positive hx] at high
  exact_mod_cast lt_of_mul_lt_mul_right high (two_zpow_pos _).le

/-- Above the finest place the significand has all its 53 places. -/
theorem le_significandOf (coarse : -1074 < placeOf x) : 2 ^ 52 ≤ significandOf x := by
  have low := (placeOf_spec positive).2.2.resolve_left coarse.ne'
  nth_rewrite 2 [← significandOf_mul positive hx] at low
  exact_mod_cast le_of_mul_le_mul_right low (two_zpow_pos _)

end Double

/-! ## The basin -/

/-- How far the basin reaches up: half of the last place. -/
def halfAbove (x : ℚ) : ℚ := 2 ^ (placeOf x - 1)

/-- How far the basin reaches down: as far as up, but half of that at a power of two, since below it the last
place is a finer one. -/
def halfBelow (x : ℚ) : ℚ :=
  if significandOf x = 2 ^ 52 ∧ -1074 < placeOf x then 2 ^ (placeOf x - 2) else halfAbove x

theorem holds_iff : (Decimal.Basin.of x).holds y = true ↔
    if significandOf x % 2 = 0 then x - halfBelow x ≤ y ∧ y ≤ x + halfAbove x
    else x - halfBelow x < y ∧ y < x + halfAbove x := by
  have ends : Decimal.Basin.of x =
      ⟨x - halfBelow x, x + halfAbove x, decide (significandOf x % 2 = 0)⟩ := by
    simp only [Decimal.Basin.of, halfBelow, halfAbove, scaled_eq, Int.cast_one, one_mul]
    rfl
  rw [ends, Decimal.Basin.holds]
  simp only [decide_eq_true_eq]
  split_ifs <;> simp

theorem two_mul_halfAbove (x : ℚ) : 2 * halfAbove x = 2 ^ placeOf x := by
  rw [halfAbove, zpow_sub_one₀ two_ne_zero]
  ring

theorem halfBelow_le (x : ℚ) : halfBelow x ≤ halfAbove x := by
  unfold halfBelow
  split_ifs
  · exact zpow_le_zpow_right₀ one_le_two (by omega)
  · exact le_rfl

theorem halfBelow_pos (x : ℚ) : 0 < halfBelow x := by
  unfold halfBelow halfAbove
  split_ifs <;> exact two_zpow_pos _

section Holds

variable (positive : 0 < x) (hx : Representable x) (holds : (Decimal.Basin.of x).holds y = true)

include holds in
theorem within_of_holds : x - halfBelow x ≤ y ∧ y ≤ x + halfAbove x := by
  rw [holds_iff] at holds
  split_ifs at holds
  · exact holds
  · exact ⟨holds.1.le, holds.2.le⟩

include holds in
/-- Only an even significand has the edges of its basin. -/
theorem even_of_edge (edge : y = x - halfBelow x ∨ y = x + halfAbove x) : significandOf x % 2 = 0 := by
  rw [holds_iff] at holds
  split_ifs at holds with even
  · exact even
  · rcases edge with rfl | rfl
    · exact absurd holds.1 (lt_irrefl _)
    · exact absurd holds.2 (lt_irrefl _)

include positive hx holds

theorem pos_of_holds : 0 < y := by
  have one : (1 : ℚ) ≤ significandOf x := by exact_mod_cast significandOf_pos positive hx
  have unit := two_zpow_pos (placeOf x)
  have product := significandOf_mul positive hx
  nlinarith [(within_of_holds holds).1, halfBelow_le x, two_mul_halfAbove x]

/-- At or above the double, and all around one that is no power of two, the last place is that of the
double. -/
theorem nearest_of_holds
    (level : x ≤ y ∨ ¬(significandOf x = 2 ^ 52 ∧ -1074 < placeOf x)) :
    placeOf y = placeOf x ∧ significandOf y = significandOf x := by
  have positiveY := pos_of_holds positive hx holds
  obtain ⟨fine, -, -⟩ := placeOf_spec positive
  have unit := two_zpow_pos (placeOf x)
  have half := two_mul_halfAbove x
  have product := significandOf_mul positive hx
  obtain ⟨low, high⟩ := within_of_holds holds
  have most : (significandOf x : ℚ) + 1 ≤ 2 ^ 53 := by exact_mod_cast significandOf_lt positive hx
  have place : placeOf y = placeOf x := by
    apply placeOf_eq positiveY fine
    · nlinarith
    · rcases eq_or_lt_of_le fine with finest | coarse
      · exact .inl finest.symm
      right
      have least := le_significandOf positive hx coarse
      rcases level with above | plain
      · have := (placeOf_spec positive).2.2.resolve_left coarse.ne'
        exact this.trans above
      · have more : (2 ^ 52 + 1 : ℚ) ≤ significandOf x := by
          exact_mod_cast Nat.succ_le_of_lt (lt_of_le_of_ne least fun same => plain ⟨same.symm, coarse⟩)
        nlinarith [halfBelow_le x]
  refine ⟨place, significandOf_eq positiveY ?_ ?_ ?_⟩
  all_goals rw [place]
  · nlinarith [halfBelow_le x]
  · nlinarith
  · rintro (edge | edge)
    · have le := halfBelow_le x
      exact even_of_edge holds (.inl (by nlinarith))
    · exact even_of_edge holds (.inr (by nlinarith))

/-- Right below a power of two the last place is a finer one, and the significand is the least that has one
place too many. -/
theorem nearest_of_holds_below (below : y < x)
    (power : significandOf x = 2 ^ 52 ∧ -1074 < placeOf x) :
    placeOf y = placeOf x - 1 ∧ significandOf y = 2 ^ 53 := by
  have positiveY := pos_of_holds positive hx holds
  have finer : (2 : ℚ) ^ placeOf x = 2 * 2 ^ (placeOf x - 1) := (two_mul_halfAbove x).symm
  have unit := two_zpow_pos (placeOf x - 1)
  have product := significandOf_mul positive hx
  rw [power.1, finer] at product
  push_cast at product
  have quarter : 2 * halfBelow x = 2 ^ (placeOf x - 1) := by
    rw [halfBelow, if_pos power, show placeOf x - 2 = placeOf x - 1 - 1 by ring,
      zpow_sub_one₀ two_ne_zero]
    ring
  have low := (within_of_holds holds).1
  have place : placeOf y = placeOf x - 1 :=
    placeOf_eq positiveY (by omega) (by nlinarith) (.inr (by nlinarith))
  refine ⟨place, significandOf_eq positiveY ?_ ?_ fun _ => rfl⟩
  all_goals
    rw [place]
    push_cast
    nlinarith

/-- **All of a basin rounds to its double.** -/
theorem ofRat_of_holds (fits : x < overflow) : ofRat y = finite x := by
  have positiveY := pos_of_holds positive hx holds
  have product := significandOf_mul positive hx
  have inRange := not_overflowing positive.ne' (by rwa [abs_of_pos positive])
  change ¬(971 < placeOf x ∨ (placeOf x = 971 ∧ Nat.pow 2 53 ≤ significandOf x)) at inRange
  by_cases level : x ≤ y ∨ ¬(significandOf x = 2 ^ 52 ∧ -1074 < placeOf x)
  · obtain ⟨place, significand⟩ := nearest_of_holds positive hx holds level
    rw [ofRat_of_significand positiveY (by rwa [place, significand]), place, significand, product]
  · rw [not_or, not_not, not_le] at level
    obtain ⟨below, power⟩ := level
    obtain ⟨place, significand⟩ := nearest_of_holds_below positive hx holds below power
    rw [ofRat_of_significand positiveY (by omega), place, significand]
    congr 1
    refine Eq.trans ?_ product
    rw [power.1, ← two_mul_halfAbove x, halfAbove]
    push_cast
    ring

end Holds

end Binary64

end Deliberation
