/-
# Proofs.Number.Operations -- operations that keep the order

An operation that rounds what an increasing function of the rationals says, and that takes each infinity
to itself, keeps the order of doubles (`le_of_rounds`).  Adding to a finite double and scaling by a
positive one are of this form.  Taking the lesser or the greater of two numbers, putting a number into
the unit interval and rounding to decimal places keep the order as well, each by what it does to the
places of its arguments.
-/
import Deliberation.Number.Rounding
import Deliberation.Proofs.Fallible
import Deliberation.Proofs.Number.Bounds
import Deliberation.Proofs.Number.Monotone

set_option autoImplicit false

namespace Deliberation

/-- The nearest integer grows with the quotient. -/
theorem nearestInteger_mono (num num' : ℕ) {den den' : ℕ} (positive : 0 < den) (positive' : 0 < den')
    (less : (num : ℚ) / den < num' / den') : nearestInteger num den ≤ nearestInteger num' den' := by
  by_contra above
  have apart : (nearestInteger num' den' : ℚ) + 1 ≤ nearestInteger num den := by
    exact_mod_cast not_le.1 above
  have low : (nearestInteger num den : ℚ) - num / den ≤ 1 / 2 :=
    (abs_le.1 (nearestInteger_error positive)).2
  have high : -(1 / 2) ≤ (nearestInteger num' den' : ℚ) - num' / den' :=
    (abs_le.1 (nearestInteger_error positive')).1
  linarith

theorem nearestInteger_one (n : ℕ) : nearestInteger n 1 = n := by
  simp [nearestInteger, Nat.mod_one]

namespace Binary64

variable {x y : Binary64} {q r : ℚ} {places : ℕ}

/-- **Rounding an increasing function keeps the order**, if the infinities stay what they are. -/
theorem le_of_rounds {f : Binary64 → Binary64} {g : ℚ → ℚ} (increasing : Monotone g)
    (bottom : f (infinite true) = infinite true) (top : f (infinite false) = infinite false)
    (rounds : ∀ {z : Binary64}, z.isFinite = true →
      (f z).isNaN = false ∧ (f z).place = (ofRat (g z.toRat)).place) (h : x ≤ y) : f x ≤ f y := by
  have defined {z : Binary64} (hz : z.isNaN = false) : (f z).isNaN = false := by
    rcases finite_or_infinite hz with fin | ⟨_ | _, rfl⟩
    · exact (rounds fin).1
    · rw [top]; rfl
    · rw [bottom]; rfl
  rcases le_cases h with rfl | rfl | ⟨finX, finY, le⟩
  · rw [bottom]
    exact infinite_le (defined (isNaN_of_le_right h))
  · rw [top]
    exact le_infinite (defined (isNaN_of_le_left h))
  · obtain ⟨definedX, placeX⟩ := rounds finX
    obtain ⟨definedY, placeY⟩ := rounds finY
    refine (le_iff _ _).2 ⟨definedX, definedY, ?_⟩
    rw [placeX, placeY]
    exact ((le_iff _ _).1 (ofRat_mono (increasing le))).2.2

theorem finite_add_le_finite_add (q : ℚ) (h : x ≤ y) : finite q + x ≤ finite q + y := by
  refine le_of_rounds (f := fun z => finite q + z) (g := fun r => q + r)
    (fun _ _ le => by simpa using le) rfl rfl ?_ h
  intro z fin
  cases z with
  | nan => exact absurd fin (by decide)
  | infinite negative => exact absurd fin (by simp [isFinite])
  | negativeZero => exact ⟨isNaN_ofRat _, rfl⟩
  | finite r => exact ⟨isNaN_ofRat _, rfl⟩

protected theorem add_comm (x y : Binary64) : x + y = y + x := by
  change x.add y = y.add x
  rcases x with _ | (_ | _) | _ | a <;> rcases y with _ | (_ | _) | _ | b <;>
    simp [add, Rat.add_comm]

/-- A sum is at least what one term is at least, if the other is not negative. -/
theorem le_add_of_nonneg (hq : Representable q) (positive : 0 < q) (fits : q < overflow)
    (h : finite q ≤ x) (h' : finite 0 ≤ y) : finite q ≤ x + y := by
  have round : ofRat q = finite q := ofRat_of_representable hq positive.le fits
  rcases le_cases h with impossible | rfl | ⟨-, fin, le⟩
  · exact absurd impossible (by simp)
  · cases y with
    | nan => exact absurd h' (by decide)
    | infinite negative =>
        cases negative with
        | false => exact le_infinite rfl
        | true => exact absurd h' (by decide)
    | _ => exact le_infinite rfl
  · cases x with
    | nan => exact absurd fin (by decide)
    | infinite negative => exact absurd fin (by simp [isFinite])
    | negativeZero => exact absurd le (by simpa [toRat] using positive)
    | finite a =>
        have whole : finite a + finite 0 = ofRat a := by rw [finite_add_finite, add_zero]
        have above : finite q ≤ ofRat a := round ▸ ofRat_mono le
        exact Binary64.le_trans (whole ▸ above) (finite_add_le_finite_add a h')

theorem mul_finite_le_mul_finite (positive : 0 < q) (h : x ≤ y) : x * finite q ≤ y * finite q := by
  have sign : (finite q).isNegative = false := by simp [isNegative, positive.le]
  have infinity (negative : Bool) : infinite negative * finite q = infinite negative := by
    change (if (finite q).isFinite && (finite q).toRat = 0 then nan
      else infinite (negative != (finite q).isNegative)) = _
    rw [sign]
    simp [toRat, isFinite, positive.ne']
  refine le_of_rounds (f := fun z => z * finite q) (g := fun r => r * q)
    (fun _ _ le => mul_le_mul_of_nonneg_right le positive.le) (infinity true) (infinity false) ?_ h
  intro z fin
  cases z with
  | nan => exact absurd fin (by decide)
  | infinite negative => exact absurd fin (by simp [isFinite])
  | negativeZero =>
      have zero : negativeZero * finite q = negativeZero := by
        change (if (0 : ℚ) = 0 ∨ q = 0 then zeroOfSign (true != (finite q).isNegative)
          else ofRat (0 * q)) = _
        rw [if_pos (.inl rfl), sign]
        rfl
      rw [zero]
      exact ⟨rfl, by simp [toRat, place]⟩
  | finite r =>
      have product : finite r * finite q =
          if r = 0 ∨ q = 0 then zeroOfSign ((finite r).isNegative != (finite q).isNegative)
          else ofRat (r * q) := rfl
      rw [product]
      split_ifs with zero
      · obtain rfl : r = 0 := zero.resolve_right positive.ne'
        rw [sign]
        exact ⟨rfl, by simp [toRat, isNegative, zeroOfSign]⟩
      · exact ⟨isNaN_ofRat _, rfl⟩

/-! ## Rounding to decimal places -/

theorem roundPlaces_finite (nonneg : 0 ≤ q) (places : ℕ) : (finite q).roundPlaces places =
    ofDecimal (nearestInteger (q.num.natAbs * Nat.pow 10 places) q.den) places := by
  simp only [roundPlaces, not_lt.2 nonneg, decide_false, if_false]
  split_ifs with zero
  · rw [zero]
    simp [zeroOfSign, ofDecimal, ofQuotient]
  · rfl

theorem natAbs_mul_pow_div_den (nonneg : 0 ≤ q) (places : ℕ) :
    ((q.num.natAbs * Nat.pow 10 places : ℕ) : ℚ) / q.den = q * 10 ^ places := by
  have share := natAbs_num_div_den q
  rw [abs_of_nonneg nonneg] at share
  rw [Nat.cast_mul, mul_div_right_comm, share]
  exact congrArg (q * ·) (by exact_mod_cast rfl)

theorem roundPlaces_le_roundPlaces (nonneg : 0 ≤ q) (le : q ≤ r) :
    (finite q).roundPlaces places ≤ (finite r).roundPlaces places := by
  rw [roundPlaces_finite nonneg, roundPlaces_finite (nonneg.trans le)]
  rcases le.eq_or_lt with rfl | less
  · exact Binary64.le_refl (isNaN_ofRat _)
  · have digits := nearestInteger_mono (q.num.natAbs * Nat.pow 10 places)
      (r.num.natAbs * Nat.pow 10 places) q.pos r.pos (by
        rw [natAbs_mul_pow_div_den nonneg, natAbs_mul_pow_div_den (nonneg.trans le)]
        exact mul_lt_mul_of_pos_right less (by positivity))
    rw [ofDecimal, ofQuotient, ofDecimal, ofQuotient, Rat.mkRat_eq_div, Rat.mkRat_eq_div]
    exact ofRat_mono (div_le_div_of_nonneg_right (by exact_mod_cast digits) (by positivity))

/-- A score stays in the unit interval. -/
theorem upTo_roundPlaces (nonneg : 0 ≤ q) (le : q ≤ 1) : UpTo 1 ((finite q).roundPlaces places) := by
  rw [roundPlaces_finite nonneg]
  refine upTo_ofDecimal ?_
  rcases le.eq_or_lt with rfl | less
  · simp [nearestInteger_one]
  · have digits := nearestInteger_mono _ (10 ^ places) q.pos one_pos (by
      rw [natAbs_mul_pow_div_den nonneg places, Nat.cast_one, div_one]
      push_cast
      exact mul_lt_of_lt_one_left (by positivity) less)
    rwa [nearestInteger_one] at digits

end Binary64

/-! ## Numbers -/

namespace Number

variable {a b a' b' : Number}

theorem add_real {x : Binary64} (h : a.toBinary64 = .ok x) (y : Binary64) :
    a.add (real y) = .ok (real (x + y)) := by
  cases a with
  | whole n => exact bind_eq_ok_iff.2 ⟨x, h, rfl⟩
  | real z => exact bind_eq_ok_iff.2 ⟨x, h, rfl⟩

theorem mul_real {x : Binary64} (h : a.toBinary64 = .ok x) (y : Binary64) :
    a.mul (real y) = .ok (real (x * y)) := by
  cases a with
  | whole n => exact bind_eq_ok_iff.2 ⟨x, h, rfl⟩
  | real z => exact bind_eq_ok_iff.2 ⟨x, h, rfl⟩

theorem eq_real_of_isWhole_eq_false (double : a.isWhole = false) : ∃ x, a = real x := by
  cases a with
  | whole n => cases double
  | real x => exact ⟨x, rfl⟩

theorem toBinary64_eq_error {fault : NumberFault} (h : a.toBinary64 = Except.error fault) :
    fault = .tooLarge := by
  cases a with
  | real x => cases h
  | whole n =>
      change Binary64.ofWhole n = .error fault at h
      unfold Binary64.ofWhole at h
      split at h
      · exact (Except.error.inj h).symm
      · cases h

/-- A sum or a product fails only where a whole number is beyond the range of doubles. -/
theorem lift_eq_error {onWhole : ℤ → ℤ → ℤ} {onReal : Binary64 → Binary64 → Binary64}
    {fault : NumberFault} (h : lift onWhole onReal a b = Except.error fault) : fault = .tooLarge := by
  have both (mixed : (do
      let x ← a.toBinary64
      let y ← b.toBinary64
      return real (onReal x y)) = Except.error fault) : fault = .tooLarge := by
    rcases bind_eq_error_iff.1 mixed with first | ⟨x, -, rest⟩
    · exact toBinary64_eq_error first
    · rcases bind_eq_error_iff.1 rest with second | ⟨y, -, sum⟩
      · exact toBinary64_eq_error second
      · cases sum
  cases a with
  | real x => exact both h
  | whole m =>
      cases b with
      | real y => exact both h
      | whole n => cases h

theorem place_least (ha : a.exact.isNaN = false) (hb : b.exact.isNaN = false) :
    (a.least b).exact.isNaN = false ∧
      (a.least b).exact.place = min a.exact.place b.exact.place := by
  have below : b < a ↔ b.exact.place < a.exact.place :=
    (Binary64.lt_iff b.exact a.exact).trans (by simp [ha, hb])
  unfold least
  split_ifs with less
  · exact ⟨hb, (min_eq_right (below.1 less).le).symm⟩
  · exact ⟨ha, (min_eq_left (not_lt.1 fun h => less (below.2 h))).symm⟩

theorem place_greatest (ha : a.exact.isNaN = false) (hb : b.exact.isNaN = false) :
    (a.greatest b).exact.isNaN = false ∧
      (a.greatest b).exact.place = max a.exact.place b.exact.place := by
  have above : a < b ↔ a.exact.place < b.exact.place :=
    (Binary64.lt_iff a.exact b.exact).trans (by simp [ha, hb])
  unfold greatest
  split_ifs with less
  · exact ⟨hb, (max_eq_right (above.1 less).le).symm⟩
  · exact ⟨ha, (max_eq_left (not_lt.1 fun h => less (above.2 h))).symm⟩

theorem least_le_least (h : a ≤ a') (h' : b ≤ b') : a.least b ≤ a'.least b' := by
  obtain ⟨ha, ha', le⟩ := (Binary64.le_iff _ _).1 h
  obtain ⟨hb, hb', le'⟩ := (Binary64.le_iff _ _).1 h'
  obtain ⟨defined, low⟩ := place_least ha hb
  obtain ⟨defined', high⟩ := place_least ha' hb'
  exact (Binary64.le_iff _ _).2 ⟨defined, defined', low ▸ high ▸ min_le_min le le'⟩

theorem greatest_le_greatest (h : a ≤ a') (h' : b ≤ b') : a.greatest b ≤ a'.greatest b' := by
  obtain ⟨ha, ha', le⟩ := (Binary64.le_iff _ _).1 h
  obtain ⟨hb, hb', le'⟩ := (Binary64.le_iff _ _).1 h'
  obtain ⟨defined, low⟩ := place_greatest ha hb
  obtain ⟨defined', high⟩ := place_greatest ha' hb'
  exact (Binary64.le_iff _ _).2 ⟨defined, defined', low ▸ high ▸ max_le_max le le'⟩

/-- What is put into the unit interval becomes a rational from there. -/
theorem exists_clampUnit (a : Number) : ∃ q : ℚ, a.clampUnit = .finite q ∧ 0 ≤ q ∧ q ≤ 1 := by
  unfold clampUnit
  split_ifs with below above
  · change Binary64.finite 0 < a.exact at above
    change a.exact < Binary64.finite 1 at below
    cases value : a.exact with
    | nan => exact absurd (value ▸ above) (Binary64.not_lt_nan _)
    | infinite negative => cases negative <;> rw [value] at above below <;> contradiction
    | negativeZero => rw [value] at above; contradiction
    | finite q =>
        rw [value] at above below
        exact ⟨q, rfl, (Binary64.finite_lt_finite_iff.1 above).le,
          (Binary64.finite_lt_finite_iff.1 below).le⟩
  · exact ⟨0, rfl, le_rfl, zero_le_one⟩
  · exact ⟨1, rfl, zero_le_one, le_rfl⟩

theorem place_clampUnit (defined : a.exact.isNaN = false) :
    a.clampUnit.isNaN = false ∧
      a.clampUnit.place = max (toLex (0, 0)) (min a.exact.place (toLex (0, 1))) := by
  have below : a < real (.finite 1) ↔ a.exact.place < toLex (0, 1) :=
    (Binary64.lt_iff a.exact (.finite 1)).trans (and_iff_right defined |>.trans (and_iff_right rfl))
  have above : real (.finite 0) < a ↔ toLex (0, 0) < a.exact.place :=
    (Binary64.lt_iff (.finite 0) a.exact).trans (and_iff_right rfl |>.trans (and_iff_right defined))
  unfold clampUnit
  split_ifs with less more
  · refine ⟨defined, ?_⟩
    rw [min_eq_left (below.1 less).le, max_eq_right (above.1 more).le]
  · have none := not_lt.1 fun h => more (above.2 h)
    refine ⟨rfl, ?_⟩
    rw [min_eq_left (below.1 less).le, max_eq_left none]
    rfl
  · have whole := not_lt.1 fun h => less (below.2 h)
    have unit : (toLex (0, 0) : ℤ ×ₗ ℚ) ≤ toLex (0, 1) :=
      Prod.Lex.toLex_le_toLex.2 (.inr ⟨rfl, zero_le_one⟩)
    refine ⟨rfl, ?_⟩
    rw [min_eq_right whole, max_eq_right unit]
    rfl

theorem clampUnit_le_clampUnit (h : a ≤ b) : a.clampUnit ≤ b.clampUnit := by
  obtain ⟨ha, hb, le⟩ := (Binary64.le_iff _ _).1 h
  obtain ⟨defined, low⟩ := place_clampUnit ha
  obtain ⟨defined', high⟩ := place_clampUnit hb
  refine (Binary64.le_iff _ _).2 ⟨defined, defined', ?_⟩
  rw [low, high]
  exact max_le_max le_rfl (min_le_min le le_rfl)

end Number

end Deliberation
