/-
# Proofs.Number.Monotone -- rounding keeps the order at every magnitude

Below the overflow threshold rounding keeps the order because it goes to the nearest
(`toRat_ofRat_mono`).  At the threshold and beyond, every magnitude becomes infinite
(`ofRat_of_overflow`): the threshold lies halfway between the greatest double and the power of two
behind it, and of these two the power has the even significand.  So the double nearest to a rational
grows with it, the infinities included (`ofRat_mono`).
-/
import Deliberation.Proofs.Number.Nearest
import Deliberation.Proofs.Number.Order

set_option autoImplicit false

namespace Deliberation

/-- From half a unit below an even number on, the nearest integer is at least that number. -/
theorem le_nearestInteger {num den k : ℕ} (positive : 0 < den) (even : k % 2 = 0)
    (h : 2 * k * den ≤ 2 * num + den) : k ≤ nearestInteger num den := by
  have split : den * (num / den) + num % den = num := Nat.div_add_mod num den
  have below : num % den < den := Nat.mod_lt num positive
  have near : k ≤ num / den + 1 := by
    by_contra far
    have : den * (num / den + 2) ≤ den * k := Nat.mul_le_mul_left den (by omega)
    nlinarith
  unfold nearestInteger
  simp only
  rcases Nat.lt_or_ge (num / den) k with less | atLeast
  · have last : k = num / den + 1 := by omega
    have half : den ≤ 2 * (num % den) := by
      rw [last] at h
      nlinarith
    split_ifs <;> omega
  · split_ifs <;> omega

namespace Binary64

/-- At the overflow threshold and beyond, a magnitude becomes infinite. -/
theorem ofRat_of_overflow {x : ℚ} (large : overflow ≤ |x|) : ofRat x = infinite (decide (x < 0)) := by
  have threshold : (0 : ℚ) < overflow := mul_pos (by norm_num) (two_zpow_pos _)
  have nonzero : x ≠ 0 := by
    rintro rfl
    rw [abs_zero] at large
    exact absurd large (not_le.2 threshold)
  have hnum : 0 < x.num.natAbs := Int.natAbs_pos.2 (Rat.num_ne_zero.2 nonzero)
  have high := (binaryExponent_spec hnum x.pos).2
  rw [natAbs_num_div_den] at high
  -- The magnitude is above the power of two that the greatest double has for its leading place.
  have exponent : 1023 ≤ binaryExponent x.num.natAbs x.den := by
    have less : (2 : ℚ) ^ (1023 : ℤ) < 2 ^ (binaryExponent x.num.natAbs x.den + 1) :=
      (two_zpow_lt_overflow le_rfl).trans_le (large.trans high.le)
    have := (zpow_lt_zpow_iff_right₀ one_lt_two).1 less
    omega
  have beyond : 971 < lastPlace x.num.natAbs x.den ∨ (lastPlace x.num.natAbs x.den = 971 ∧
      Nat.pow 2 53 ≤ significandAt x.num.natAbs x.den (lastPlace x.num.natAbs x.den)) := by
    rcases eq_or_lt_of_le exponent with last | further
    · have place : lastPlace x.num.natAbs x.den = 971 := by unfold lastPlace; omega
      refine .inr ⟨place, ?_⟩
      have cast : ((Nat.pow 2 (971 : ℤ).toNat : ℕ) : ℚ) = 2 * 2 ^ (970 : ℤ) := by
        rw [pow_eq_zpow 971 (by norm_num), show (971 : ℤ) = 970 + 1 by norm_num,
          zpow_add_one₀ two_ne_zero, mul_comm]
      rw [place, significandAt, show Nat.pow 2 (-971 : ℤ).toNat = 1 from rfl, mul_one]
      generalize Nat.pow 2 (971 : ℤ).toNat = unit at cast ⊢
      have positive : 0 < unit := Nat.cast_pos.1 (cast ▸ mul_pos two_pos (two_zpow_pos _))
      apply le_nearestInteger (Nat.mul_pos x.pos positive) (by decide)
      rw [← natAbs_num_div_den, overflow, le_div_iff₀ (by exact_mod_cast x.pos)] at large
      have bound : ((2 * 2 ^ 53 * (x.den * unit) : ℕ) : ℚ) ≤
          ((2 * x.num.natAbs + x.den * unit : ℕ) : ℚ) := by
        push_cast
        rw [cast]
        linarith
      exact Nat.cast_le.1 bound
    · left
      unfold lastPlace
      omega
  have sign : x.num < 0 ↔ x < 0 := Rat.num_neg
  unfold ofRat
  rw [if_neg (Rat.num_ne_zero.2 nonzero)]
  simp only [if_pos beyond, sign]

theorem isNaN_ofRat (x : ℚ) : (ofRat x).isNaN = false := by
  rcases lt_or_ge |x| overflow with fits | large
  · have finite := isFinite_ofRat fits
    cases h : ofRat x with
    | nan => rw [h] at finite; exact absurd finite (by decide)
    | _ => rfl
  · rw [ofRat_of_overflow large]
    rfl

/-- **Rounding keeps the order**, also where it overflows. -/
theorem ofRat_mono {x y : ℚ} (h : x ≤ y) : ofRat x ≤ ofRat y := by
  refine (le_iff _ _).2 ⟨isNaN_ofRat x, isNaN_ofRat y, ?_⟩
  have threshold : (0 : ℚ) < overflow := mul_pos (by norm_num) (two_zpow_pos _)
  rcases lt_or_ge |x| overflow with fitsX | largeX <;> rcases lt_or_ge |y| overflow with fitsY | largeY
  · rw [place_of_isFinite (isFinite_ofRat fitsX), place_of_isFinite (isFinite_ofRat fitsY)]
    exact Prod.Lex.toLex_le_toLex.2 (.inr ⟨rfl, toRat_ofRat_mono h fitsX fitsY⟩)
  · have above : ¬y < 0 := fun neg => by
      rw [abs_of_neg neg] at largeY
      linarith [(abs_lt.1 fitsX).1]
    rw [place_of_isFinite (isFinite_ofRat fitsX), ofRat_of_overflow largeY, place_infinite]
    exact Prod.Lex.toLex_le_toLex.2 (.inl (by simp [above]))
  · have below : x < 0 := by
      by_contra nonneg
      rw [abs_of_nonneg (not_lt.1 nonneg)] at largeX
      linarith [(abs_lt.1 fitsY).2]
    rw [ofRat_of_overflow largeX, place_infinite, place_of_isFinite (isFinite_ofRat fitsY)]
    exact Prod.Lex.toLex_le_toLex.2 (.inl (by simp [below]))
  · rw [ofRat_of_overflow largeX, ofRat_of_overflow largeY, place_infinite, place_infinite]
    by_cases negY : y < 0
    · simp [negY, h.trans_lt negY]
    · by_cases negX : x < 0
      · exact Prod.Lex.toLex_le_toLex.2 (.inl (by simp [negX, negY]))
      · simp [negX, negY]

/-! ## Differences -/

/-- The difference of finite data, up to the sign of a zero. -/
theorem place_sub {x y : Binary64} (hx : x.isFinite = true) (hy : y.isFinite = true) :
    (x - y).isNaN = false ∧ (x - y).place = (ofRat (x.toRat - y.toRat)).place := by
  change (x.add y.neg).isNaN = false ∧ (x.add y.neg).place = _
  cases x with
  | nan => exact absurd hx (by decide)
  | infinite negative => exact absurd hx (by cases negative <;> decide)
  | negativeZero =>
      cases y with
      | nan => exact absurd hy (by decide)
      | infinite negative => exact absurd hy (by cases negative <;> decide)
      | negativeZero => exact ⟨isNaN_ofRat _, by simp [neg, add, toRat]⟩
      | finite b =>
          rw [neg]
          split_ifs with zero
          · exact ⟨rfl, by simp [add, toRat, zero, place]⟩
          · exact ⟨isNaN_ofRat _, by simp [add, toRat]⟩
  | finite a =>
      cases y with
      | nan => exact absurd hy (by decide)
      | infinite negative => exact absurd hy (by cases negative <;> decide)
      | negativeZero => exact ⟨isNaN_ofRat _, by simp [neg, add, toRat]⟩
      | finite b =>
          rw [neg]
          split_ifs with zero
          · exact ⟨isNaN_ofRat _, by simp [add, toRat, zero]⟩
          · exact ⟨isNaN_ofRat _, by simp [add, toRat, sub_eq_add_neg]⟩

/-- A difference grows with what is subtracted from and with what is subtracted less. -/
theorem sub_le_sub {a b c d : Binary64} (ha : a.isFinite = true) (hb : b.isFinite = true)
    (hc : c.isFinite = true) (hd : d.isFinite = true) (first : a.toRat ≤ c.toRat)
    (second : d.toRat ≤ b.toRat) : a - b ≤ c - d := by
  obtain ⟨defined, place⟩ := place_sub ha hb
  obtain ⟨defined', place'⟩ := place_sub hc hd
  refine (le_iff _ _).2 ⟨defined, defined', ?_⟩
  rw [place, place']
  exact ((le_iff _ _).1 (ofRat_mono (by linarith))).2.2

end Binary64

end Deliberation
