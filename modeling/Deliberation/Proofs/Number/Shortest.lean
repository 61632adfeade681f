/-
# Proofs.Number.Shortest -- the shortest decimal of a double is one of its basin

The search for the shortest decimal runs over ever finer grids of decimals.  Whatever a grid gives lies in the
basin of the double (`holds_of_onGrid?`), and the finest of them, which counts seventeen digits, is finer than
the basin is wide (`lt_width`), so that one of its points lies in it.  Hence the shortest decimal rounds to the
double that it was made from (`ofRat_shortest`).
-/
import Mathlib.Data.Nat.Cast.Order.Field
import Deliberation.Proofs.Number.Basins
import Deliberation.Proofs.Number.Digits

set_option autoImplicit false

namespace Deliberation

open Binary64

namespace Decimal

variable {x : ℚ} {k : ℤ}

/-! ## Grids -/

/-- The two whole factors of a power of ten, one of them `1`. -/
theorem ten_zpow_eq_div (e : ℤ) :
    (10 : ℚ) ^ e = (Nat.pow 10 e.toNat : ℕ) / (Nat.pow 10 (-e).toNat : ℕ) := by
  rcases le_total 0 e with nonneg | nonpos
  · obtain ⟨n, rfl⟩ := Int.eq_ofNat_of_zero_le nonneg
    simp
  · obtain ⟨n, rfl⟩ : ∃ n : ℕ, e = -n := ⟨(-e).toNat, by omega⟩
    simp [zpow_neg]

theorem ten_zpow_pos (e : ℤ) : (0 : ℚ) < 10 ^ e := by positivity

theorem toRat_eq (d : Decimal) : d.toRat = d.digits * 10 ^ d.exponent := by
  rw [toRat, ten_zpow_eq_div]
  split_ifs with nonneg
  · rw [show (-d.exponent).toNat = 0 by omega]
    simp
  · rw [show d.exponent.toNat = 0 by omega, Rat.mkRat_eq_div]
    simp [div_eq_mul_inv]

/-- The number of steps of a grid that a positive rational is away from zero, as the quotient that the search
computes. -/
theorem grid_quotient (positive : 0 < x) (k : ℤ) :
    ((x.num.natAbs * Nat.pow 10 (-k).toNat : ℕ) : ℚ) / (x.den * Nat.pow 10 k.toNat : ℕ) =
      x / 10 ^ k := by
  nth_rewrite 3 [← num_div_den_of_pos positive]
  rw [ten_zpow_eq_div]
  push_cast
  field_simp

/-- A positive rational lies between two neighbours of every grid. -/
theorem grid_neighbours (positive : 0 < x) (k : ℤ) :
    let steps := x.num.natAbs * Nat.pow 10 (-k).toNat / (x.den * Nat.pow 10 k.toNat)
    (Decimal.mk steps k).toRat ≤ x ∧ x < (Decimal.mk (steps + 1) k).toRat := by
  have unit := ten_zpow_pos k
  have quotient := grid_quotient positive k
  have den : 0 < x.den * Nat.pow 10 k.toNat := Nat.mul_pos x.pos (Nat.pos_of_ne_zero (by simp))
  simp only [toRat_eq]
  generalize x.num.natAbs * Nat.pow 10 (-k).toNat = num at *
  generalize x.den * Nat.pow 10 k.toNat = den at *
  constructor
  · rw [← le_div_iff₀ unit, ← quotient]
    exact Nat.cast_div_le
  · rw [← div_lt_iff₀ unit, ← quotient, div_lt_iff₀ (by exact_mod_cast den)]
    exact_mod_cast Nat.lt_mul_of_div_lt (Nat.lt_succ_self _) den

theorem nearestInteger_mem (num den : ℕ) :
    nearestInteger num den = num / den ∨ nearestInteger num den = num / den + 1 := by
  unfold nearestInteger
  simp only
  split_ifs
  · exact .inl rfl
  · exact .inr rfl
  · omega

/-- What a grid gives lies in the basin. -/
theorem holds_of_onGrid? {b : Basin} {d : Decimal} (found : onGrid? b x k = some d) :
    b.holds d.toRat = true := by
  unfold onGrid? at found
  simp only at found
  split at found
  · next lower upper =>
    obtain rfl := Option.some.inj found
    rcases nearestInteger_mem (x.num.natAbs * Nat.pow 10 (-k).toNat) (x.den * Nat.pow 10 k.toNat)
      with same | same
    · rwa [same]
    · rwa [same]
  · next lower upper => rwa [← Option.some.inj found]
  · next lower upper => rwa [← Option.some.inj found]
  · cases found

/-- A grid finer than the basin is wide meets it. -/
theorem isSome_onGrid? (positive : 0 < x) (fine : (10 : ℚ) ^ k < halfBelow x + halfAbove x) :
    (onGrid? (Basin.of x) x k).isSome = true := by
  obtain ⟨low, high⟩ := grid_neighbours positive k
  unfold onGrid?
  simp only
  split
  · rfl
  · rfl
  · rfl
  · next missLow missHigh =>
    -- with the double between two neighbours, both of them outside, a step of the grid covers the basin
    exfalso
    rw [← Bool.not_eq_true, holds_iff] at missLow missHigh
    simp only [toRat_eq] at low high missLow missHigh
    have above := halfBelow_pos x
    have half : 0 < halfAbove x := above.trans_le (halfBelow_le x)
    push_cast at high missHigh
    split_ifs at missLow missHigh
    · have far := not_le.1 fun le => missLow ⟨le, by linarith⟩
      have far' := not_le.1 fun le => missHigh ⟨by linarith, le⟩
      linarith
    · have far := not_lt.1 fun less => missLow ⟨less, by linarith⟩
      have far' := not_lt.1 fun less => missHigh ⟨by linarith, less⟩
      linarith

/-! ## Seventeen digits -/

/-- Sixteen digits behind the first one tell a double from all others. -/
theorem lt_width (positive : 0 < x) (hx : Representable x) :
    x / 10 ^ 16 < halfBelow x + halfAbove x := by
  have unit := two_zpow_pos (placeOf x)
  have half := two_mul_halfAbove x
  have product := significandOf_mul positive hx
  have most : (significandOf x : ℚ) + 1 ≤ 2 ^ 53 := by exact_mod_cast significandOf_lt positive hx
  rw [div_lt_iff₀ (by norm_num)]
  by_cases power : significandOf x = 2 ^ 52 ∧ -1074 < placeOf x
  · have quarter : 0 < halfBelow x := halfBelow_pos x
    rw [power.1] at product
    push_cast at product
    nlinarith
  · rw [halfBelow, if_neg power]
    nlinarith

/-- The product of a binary exponent and the logarithm of two, to five places and rounded down, is not more than
one above the decimal exponent. -/
theorem ten_zpow_guess_le {e g : ℤ} (low : -1074 ≤ e) (high : e ≤ 1023) (guess : g * 100000 ≤ e * 30103) :
    (10 : ℚ) ^ (g - 1) ≤ 2 ^ e := by
  -- of two fractions near the logarithm, one to either side of it, the one is of use that errs on the same side
  have compare (p q : ℕ) (some_ : q ≠ 0) (power : ((10 : ℚ) ^ p) ^ e ≤ (2 ^ q) ^ e)
      (scaled : q * (g - 1) ≤ p * e) : (10 : ℚ) ^ (g - 1) ≤ 2 ^ e := by
    rw [← pow_le_pow_iff_left₀ (ten_zpow_pos _).le (two_zpow_pos _).le some_]
    calc ((10 : ℚ) ^ (g - 1)) ^ q = 10 ^ (q * (g - 1)) := by rw [← zpow_natCast, ← zpow_mul, mul_comm]
      _ ≤ 10 ^ (p * e) := zpow_le_zpow_right₀ (by norm_num) scaled
      _ = (10 ^ p) ^ e := by rw [zpow_mul, zpow_natCast]
      _ ≤ (2 ^ q) ^ e := power
      _ = (2 ^ e) ^ q := by rw [← zpow_natCast, ← zpow_natCast, ← zpow_mul, ← zpow_mul, mul_comm]
  rcases le_total 0 e with nonneg | nonpos
  · obtain ⟨n, rfl⟩ := Int.eq_ofNat_of_zero_le nonneg
    refine compare 59 196 (by norm_num) ?_ (by push_cast; omega)
    rw [zpow_natCast, zpow_natCast]
    exact pow_le_pow_left₀ (by norm_num) (by norm_num) n
  · obtain ⟨n, rfl⟩ : ∃ n : ℕ, e = -n := ⟨(-e).toNat, by omega⟩
    refine compare 28 93 (by norm_num) ?_ (by push_cast; omega)
    rw [zpow_neg, zpow_neg, zpow_natCast, zpow_natCast]
    exact inv_anti₀ (by positivity) (pow_le_pow_left₀ (by norm_num) (by norm_num) n)

theorem overflow_lt_two_zpow : overflow < 2 ^ (1024 : ℤ) := by
  rw [overflow, show (1024 : ℤ) = 54 + 970 by norm_num, zpow_add₀ two_ne_zero]
  exact mul_lt_mul_of_pos_right (by norm_num) (two_zpow_pos _)

/-- The decimal exponent is not too large. -/
theorem ten_zpow_decimalExponent_le (low : (2 : ℚ) ^ (-1074 : ℤ) ≤ x) (high : x < overflow) :
    (10 : ℚ) ^ decimalExponent x.num.natAbs x.den ≤ x := by
  have positive : 0 < x := (two_zpow_pos _).trans_le low
  obtain ⟨least, most⟩ := binaryExponent_spec (num_pos_of_pos positive) x.pos
  rw [num_div_den_of_pos positive] at least most
  have reaches (k : ℤ) :
      x.den * Nat.pow 10 k.toNat ≤ x.num.natAbs * Nat.pow 10 (-k).toNat ↔ (10 : ℚ) ^ k ≤ x := by
    have unit := ten_zpow_pos k
    have den : (0 : ℚ) < (x.den * Nat.pow 10 k.toNat : ℕ) := by
      exact_mod_cast Nat.mul_pos x.pos (Nat.pos_of_ne_zero (by simp))
    rw [← one_le_div unit, ← grid_quotient positive, one_le_div den, Nat.cast_le]
  unfold decimalExponent
  simp only [reaches, decide_eq_true_eq]
  split_ifs with next this
  · exact next
  · exact this
  · refine le_trans (ten_zpow_guess_le ?_ ?_ ?_) least
    · have := (zpow_lt_zpow_iff_right₀ (one_lt_two (α := ℚ))).1 (low.trans_lt most)
      omega
    · have := (zpow_lt_zpow_iff_right₀ (one_lt_two (α := ℚ))).1
        ((least.trans_lt high).trans overflow_lt_two_zpow)
      omega
    · rw [Int.fdiv_eq_ediv_of_nonneg _ (by norm_num)]
      omega

/-! ## The search -/

variable (positive : 0 < x) (hx : Representable x) (fits : x < overflow)

include positive hx in
/-- The least positive double. -/
theorem least_le : (2 : ℚ) ^ (-1074 : ℤ) ≤ x := by
  have one : (1 : ℚ) ≤ significandOf x := by exact_mod_cast significandOf_pos positive hx
  rw [← significandOf_mul positive hx]
  calc (2 : ℚ) ^ (-1074 : ℤ) ≤ 2 ^ placeOf x := zpow_le_zpow_right₀ one_le_two (placeOf_spec positive).1
    _ ≤ significandOf x * 2 ^ placeOf x := le_mul_of_one_le_left (two_zpow_pos _).le one

include positive hx fits

/-- The shortest decimal lies in the basin. -/
theorem holds_shortest : (Basin.of x).holds (shortest x).toRat = true := by
  set top := decimalExponent x.num.natAbs x.den with htop
  have finest : (onGrid? (Basin.of x) x (top - (16 : ℕ))).isSome = true := by
    refine isSome_onGrid? positive (lt_of_le_of_lt ?_ (lt_width positive hx))
    rw [zpow_sub₀ (by norm_num), zpow_natCast]
    exact div_le_div_of_nonneg_right
      (ten_zpow_decimalExponent_le (least_le positive hx) fits) (by positivity)
  have found : (((List.range 17).map fun (n : ℕ) => top - n).findSome?
      (onGrid? (Basin.of x) x)).isSome = true :=
    List.findSome?_isSome_iff.2
      ⟨_, List.mem_map.2 ⟨16, List.mem_range.2 (by norm_num), rfl⟩, finest⟩
  obtain ⟨d, hd⟩ := Option.isSome_iff_exists.1 found
  obtain ⟨k, -, hk⟩ := List.exists_of_findSome?_eq_some hd
  have same : shortest x = d := by
    simp only [shortest, ← htop, hd, Option.getD_some]
  rw [same]
  exact holds_of_onGrid? hk

/-- **The shortest decimal of a double rounds to the double.** -/
theorem ofRat_shortest : ofRat (shortest x).toRat = finite x :=
  ofRat_of_holds positive hx (holds_shortest positive hx fits) fits

theorem digits_shortest_pos : 0 < (shortest x).digits := by
  have value := pos_of_holds positive hx (holds_shortest positive hx fits)
  rw [toRat_eq] at value
  exact_mod_cast pos_of_mul_pos_left value (ten_zpow_pos _).le

/-- The shortest decimal is far from the limits beyond which decimals are not read. -/
theorem shortest_bounds :
    (10 : ℚ) ^ (-400 : ℤ) ≤ (shortest x).toRat ∧ (shortest x).toRat < 10 ^ (400 : ℤ) := by
  obtain ⟨low, high⟩ := within_of_holds (holds_shortest positive hx fits)
  have one : (1 : ℚ) ≤ significandOf x := by exact_mod_cast significandOf_pos positive hx
  have product := significandOf_mul positive hx
  have half := two_mul_halfAbove x
  have unit := two_zpow_pos (placeOf x)
  have below := halfBelow_le x
  have least := least_le positive hx
  have room : (2 : ℚ) ^ 1075 < 10 ^ 400 :=
    calc (2 : ℚ) ^ 1075 = (2 ^ 43) ^ 25 := by rw [← pow_mul]
      _ < (10 ^ 16) ^ 25 := pow_lt_pow_left₀ (by norm_num) (by positivity) (by norm_num)
      _ = 10 ^ 400 := by rw [← pow_mul]
  constructor
  · calc (10 : ℚ) ^ (-400 : ℤ) ≤ (2 ^ 1075)⁻¹ := by
          rw [zpow_neg]
          exact inv_anti₀ (by positivity) (by exact_mod_cast room.le)
      _ = 2 ^ (-1074 : ℤ) / 2 := by
          rw [← zpow_natCast, ← zpow_neg, div_eq_mul_inv, ← zpow_sub_one₀ two_ne_zero]
          rfl
      _ ≤ (shortest x).toRat := by nlinarith
  · have double : x + halfAbove x ≤ 2 * x := by nlinarith
    calc (shortest x).toRat ≤ 2 * x := high.trans double
      _ ≤ 2 * 2 ^ (1024 : ℤ) := by linarith [overflow_lt_two_zpow]
      _ = 2 ^ 1025 := by rw [← zpow_natCast, ← zpow_one_add₀ two_ne_zero]; rfl
      _ ≤ 2 ^ 1075 := pow_le_pow_right₀ one_le_two (by norm_num)
      _ < 10 ^ (400 : ℤ) := by exact_mod_cast room

end Decimal

end Deliberation
