/-
# Proofs.Number.Means -- means of scores are scores

A score from the unit interval stays there when it is rounded to hundredths (`roundHalfUp_of_unit`), and
so does the mean of any number of scores (`upTo_mean`).  The sum of scores is at most their number as long
as doubles can count that far; from there on adding one more score no longer moves it
(`upTo_sum_of_unit`), so no list is too long for a mean.  The scores may have come from outside: either
zero will do, and a value need not be one that arithmetic yields (`OfUnit`).

A count of any size is at most doubled when it becomes a double, and no less than halved
(`upTo_ofWhole`, `half_le_ofRat`), and a running sum of doubles from zero upward is at most twice the
exact one (`UpTo.add_twice`).
-/
import Deliberation.Proofs.Number.Halves
import Deliberation.Proofs.Number.Scores

set_option autoImplicit false

namespace Deliberation

open Binary64

namespace Binary64

theorem representable_hundred : Representable 100 := by
  exact_mod_cast representable_int (m := 100) (by norm_num)

theorem hundred_lt_overflow : (100 : ℚ) < overflow :=
  calc (100 : ℚ) < 2 ^ 7 := by norm_num
    _ < overflow := two_pow_lt_overflow (by norm_num)

/-- From zero on, the greatest integer not above a number is a natural number. -/
theorem exists_floor {q : ℚ} (nonneg : 0 ≤ q) {k : ℕ} (small : q < k + 1) :
    ∃ n : ℕ, q.floor = n ∧ n ≤ k := by
  obtain ⟨n, hn⟩ := Int.eq_ofNat_of_zero_le
    (Rat.le_floor_iff.2 (by exact_mod_cast nonneg) : (0 : ℤ) ≤ q.floor)
  have below : ((n : ℤ) : ℚ) < k + 1 := (hn ▸ Rat.floor_le q).trans_lt small
  have : n < k + 1 := by exact_mod_cast below
  exact ⟨n, hn, by omega⟩

/-- Scores that rounding to hundredths does not bring beyond one: at most this, which is a double. -/
def nearlyOne : ℚ := 1029 / 1024

/-- One half more than a percentage, and the greatest integer not above that.  The percentage may have got
a little beyond a hundred. -/
theorem exists_floor_add_half {x : Binary64} (h : UpTo (nearlyOne * 100) x) :
    ∃ q, x + oneHalf = finite q ∧ ∃ n : ℕ, q.floor = n ∧ n ≤ 100 := by
  have half : UpTo (1 / 2) oneHalf :=
    upTo_finite ⟨1, -1, by norm_num, by norm_num, by norm_num⟩ (by norm_num) le_rfl
  have shifted : UpTo (25853 / 256) (x + oneHalf) :=
    h.add half (by norm_num [nearlyOne]) ⟨25853, -8, by norm_num, by norm_num, by norm_num⟩
      (calc (25853 / 256 : ℚ) < 2 ^ 7 := by norm_num
        _ < overflow := two_pow_lt_overflow (by norm_num))
  obtain ⟨q, hq, -, q0, bound⟩ := shifted
  exact ⟨q, hq, exists_floor q0 (bound.trans_lt (by norm_num))⟩

end Binary64

/-- A score, or nearly one, rounded to hundredths is a score. -/
theorem roundHalfUp_of_nearlyOne {x : Binary64} (h : UpTo nearlyOne x) :
    ∃ y, (Number.real x).roundHalfUp 2 = .ok y ∧ UpTo 1 y := by
  have scaled : UpTo (nearlyOne * 100) (x * finite 100) :=
    h.mul (upTo_finite representable_hundred (by norm_num) le_rfl) le_rfl
      ⟨25725, -8, by norm_num [nearlyOne], by norm_num, by norm_num⟩
      (calc nearlyOne * 100 < 2 ^ 7 := by norm_num [nearlyOne]
        _ < overflow := two_pow_lt_overflow (by norm_num))
  obtain ⟨q, hq, n, hn, few⟩ := exists_floor_add_half scaled
  obtain ⟨share, hshare, unit⟩ := exists_ofRatio few
  have answer : Binary64.ofRatio q.floor 100 = .ok share := by
    rw [hn]
    exact_mod_cast hshare
  refine ⟨share, ?_, unit⟩
  rw [roundHalfUp_hundredths, hq]
  exact answer

/-- A score rounded to hundredths is a score. -/
theorem roundHalfUp_of_unit {x : Binary64} (h : UpTo 1 x) :
    ∃ y, (Number.real x).roundHalfUp 2 = .ok y ∧ UpTo 1 y :=
  roundHalfUp_of_nearlyOne (h.mono (by norm_num [nearlyOne]))

namespace Binary64

variable {x y : Binary64} {b c : ℚ} {n : ℕ}

/-! ## Sums of scores -/

/-- A finite datum that stands for a number of the unit interval. -/
def OfUnit (x : Binary64) : Prop := x.isFinite = true ∧ 0 ≤ x.toRat ∧ x.toRat ≤ 1

theorem UpTo.ofUnit (h : UpTo 1 x) : OfUnit x := by
  obtain ⟨q, rfl, -, q0, q1⟩ := h
  exact ⟨rfl, q0, q1⟩

/-- What is added to a finite double counts as the number that it stands for. -/
theorem finite_add (q : ℚ) (h : y.isFinite = true) : finite q + y = ofRat (q + y.toRat) := by
  cases y with
  | nan => cases h
  | infinite negative => cases h
  | negativeZero => rfl
  | finite r => rfl

theorem add_finite (q : ℚ) (h : y.isFinite = true) : y + finite q = ofRat (y.toRat + q) := by
  cases y with
  | nan => cases h
  | infinite negative => cases h
  | negativeZero => rfl
  | finite r => rfl

/-- From here on doubles are two apart, and the one in the middle goes down. -/
theorem ofRat_stays : ofRat (2 ^ 53 + 1) = finite (2 ^ 53) := by decide +kernel

/-- One more score: the sum grows by one at most, and at the end of what doubles count not at all. -/
theorem upTo_add_unit (hx : UpTo (min n (2 ^ 53)) x) (hy : OfUnit y) :
    UpTo (min (n + 1 : ℕ) (2 ^ 53)) (x + y) := by
  obtain ⟨a, rfl, -, a0, aBound⟩ := hx
  obtain ⟨finiteY, s0, s1⟩ := hy
  rw [finite_add a finiteY]
  generalize y.toRat = s at s0 s1 ⊢
  have counted : a ≤ n := aBound.trans (min_le_left _ _)
  have large : a ≤ 2 ^ 53 := aBound.trans (min_le_right _ _)
  have fits : (2 : ℚ) ^ 53 + 1 < overflow :=
    calc (2 : ℚ) ^ 53 + 1 ≤ 2 ^ 54 := by norm_num
      _ < overflow := two_pow_lt_overflow (by norm_num)
  have sum0 : 0 ≤ a + s := add_nonneg a0 s0
  have sumFits : a + s < overflow := (add_le_add large s1).trans_lt fits
  have last : (ofRat (a + s)).toRat ≤ 2 ^ 53 := by
    have := toRat_ofRat_mono (x := a + s) (y := 2 ^ 53 + 1) (by linarith)
      (by rwa [abs_of_nonneg sum0]) (by rwa [abs_of_nonneg (by norm_num)])
    rwa [ofRat_stays] at this
  refine ⟨(ofRat (a + s)).toRat, ofRat_of_nonneg sum0 sumFits,
    representable_ofRat (by rwa [abs_of_nonneg sum0]), toRat_ofRat_nonneg sum0 sumFits,
    le_min ?_ last⟩
  rcases Nat.lt_or_ge n (2 ^ 53) with small | many
  · have held : Representable ((n + 1 : ℕ) : ℚ) := representable_natCast small
    have countFits : ((n + 1 : ℕ) : ℚ) < overflow := by
      have below : (n : ℚ) < 2 ^ 53 := by exact_mod_cast small
      push_cast
      linarith
    obtain ⟨q, same, -, -, bound⟩ := upTo_ofRat sum0 (by push_cast; linarith) held countFits
    rw [same]
    exact bound
  · have beyond : (2 : ℚ) ^ 53 ≤ (n + 1 : ℕ) := by
      have : (2 : ℚ) ^ 53 ≤ n := by exact_mod_cast many
      push_cast
      linarith
    exact last.trans beyond

/-- **A sum of scores is at most their number, and at most what doubles count up to.** -/
theorem upTo_sum_of_unit {scores : List Binary64} (unit : ∀ x ∈ scores, OfUnit x) :
    UpTo (min scores.length (2 ^ 53)) (scores.foldl (· + ·) (finite 0)) := by
  have started (scores : List Binary64) (unit : ∀ x ∈ scores, OfUnit x) (n : ℕ) (start : Binary64)
      (h : UpTo (min n (2 ^ 53)) start) :
      UpTo (min (n + scores.length : ℕ) (2 ^ 53)) (scores.foldl (· + ·) start) := by
    induction scores generalizing n start with
    | nil => simpa using h
    | cons x rest ih =>
        simp only [List.forall_mem_cons] at unit
        have later := ih unit.2 (n + 1) (start + x) (upTo_add_unit h unit.1)
        rwa [List.foldl_cons, List.length_cons, Nat.add_comm rest.length, ← Nat.add_assoc]
  have none : UpTo (min (0 : ℕ) (2 ^ 53)) (finite 0) := by
    rw [Nat.cast_zero, min_eq_left (by positivity)]
    exact upTo_finite representable_zero le_rfl le_rfl
  simpa using started scores unit 0 (finite 0) none

/-- A quotient of a double by a greater one is a score. -/
theorem upTo_div_of_le {a d : ℚ} (a0 : 0 ≤ a) (d0 : 0 < d) (le : a ≤ d) :
    UpTo 1 (finite a / finite d) := by
  rw [finite_div_finite a0 d0]
  exact upTo_ofRat (div_nonneg a0 d0.le) (div_le_one_of_le₀ le d0.le) representable_one
    one_lt_overflow

/-- **The mean of scores is a score**, however many there are. -/
theorem upTo_mean {scores : List Binary64} (unit : ∀ x ∈ scores, OfUnit x) (nonempty : scores ≠ []) :
    UpTo 1 (scores.foldl (· + ·) (finite 0) / ofNat scores.length) := by
  obtain ⟨a, sum, -, a0, bound⟩ := upTo_sum_of_unit unit
  have positive : 0 < scores.length := List.length_pos_of_ne_nil nonempty
  have counted : ofNat scores.length = ofRat scores.length := by simp [ofNat, ofInt]
  rw [sum, counted]
  rcases Nat.lt_or_ge scores.length (2 ^ 53) with small | many
  · rw [← Int.cast_natCast, ofRat_int (by rw [Nat.abs_cast]; exact_mod_cast small.le),
      Int.cast_natCast]
    exact upTo_div_of_le a0 (by exact_mod_cast positive) (bound.trans (min_le_left _ _))
  · rcases lt_or_ge (scores.length : ℚ) overflow with fits | large
    · have count : (2 : ℚ) ^ 53 ≤ scores.length := by exact_mod_cast many
      have above : (2 : ℚ) ^ 53 ≤ (ofRat scores.length).toRat := by
        have := toRat_ofRat_mono count
          (by rw [abs_of_nonneg (by positivity)]; exact two_pow_lt_overflow (by norm_num))
          (by rwa [Nat.abs_cast])
        rwa [toRat_ofRat_of_representable (representable_two_pow 53)
          (by rw [abs_of_nonneg (by positivity)]; exact two_pow_lt_overflow (by norm_num))] at this
      rw [ofRat_of_nonneg (Nat.cast_nonneg _) fits]
      have positive' : (0 : ℚ) < 2 ^ 53 := by positivity
      exact upTo_div_of_le a0 (positive'.trans_le above)
        ((bound.trans (min_le_right _ _)).trans above)
    · rw [ofRat_of_overflow (by rwa [Nat.abs_cast]), decide_eq_false (not_lt.2 (Nat.cast_nonneg _))]
      have none : finite a / infinite false = finite 0 := by
        change zeroOfSign ((finite a).isNegative != false) = finite 0
        simp [isNegative, not_lt.2 a0, zeroOfSign]
      rw [none]
      exact upTo_zero

/-! ## Counts of any size -/

/-- A count as a double is at most twice the count. -/
theorem upTo_ofWhole (fits : (n : ℚ) < overflow) :
    ∃ z, ofWhole n = .ok z ∧ UpTo (2 * n) z := by
  obtain ⟨z, hz⟩ := exists_ofWhole fits
  refine ⟨z, hz, ?_⟩
  rw [eq_ofRat_of_ofWhole hz]
  have fits' : |(n : ℚ)| < overflow := by rwa [Nat.abs_cast]
  have near := (abs_le.1 (ofRat_nearest fits' representable_zero)).2
  rw [zero_sub, abs_neg, Nat.abs_cast] at near
  exact ⟨(ofRat n).toRat, ofRat_of_nonneg (Nat.cast_nonneg n) fits, representable_ofRat fits',
    toRat_ofRat_nonneg (Nat.cast_nonneg n) fits, by linarith⟩

/-- A positive count in the range of doubles as a double, which is at least one. -/
theorem exists_ofWhole_finite (positive : 0 < n) (fits : (n : ℚ) < overflow) :
    ∃ q, ofWhole n = .ok (finite q) ∧ 1 ≤ q := by
  obtain ⟨z, hz⟩ := exists_ofWhole fits
  obtain ⟨q, one_le, same⟩ := ofNat_eq_finite positive fits
  have double : z = finite q := by
    rw [← same, eq_ofRat_of_ofWhole hz]
    simp [ofNat, ofInt]
  exact ⟨q, double ▸ hz, one_le⟩

/-- A count as a double is more than half the count. -/
theorem half_le_ofRat (positive : 0 < n) (fits : (n : ℚ) < overflow) :
    (n : ℚ) / 2 ≤ (ofRat n).toRat := by
  have low : (2 : ℚ) ^ n.log2 ≤ n := by exact_mod_cast Nat.log2_self_le positive.ne'
  have high : (n : ℚ) < 2 ^ (n.log2 + 1) := by exact_mod_cast Nat.lt_log2_self
  have held := toRat_ofRat_mono low (by rw [abs_of_nonneg (by positivity)]; exact low.trans_lt fits)
    (by rwa [Nat.abs_cast])
  rw [toRat_ofRat_of_representable (representable_two_pow _)
    (by rw [abs_of_nonneg (by positivity)]; exact low.trans_lt fits)] at held
  rw [pow_succ] at high
  linarith

theorem ofWhole_of_overflow (large : overflow ≤ (n : ℚ)) : ofWhole n = .error .tooLarge := by
  have beyond : ofInt n = infinite false := by
    rw [ofInt, Int.cast_natCast, ofRat_of_overflow (by rwa [Nat.abs_cast]),
      decide_eq_false (not_lt.2 (Nat.cast_nonneg n))]
  simp [ofWhole, beyond]

theorem fits_of_ofWhole (h : ofWhole n = .ok x) : (n : ℚ) < overflow := by
  by_contra large
  rw [ofWhole_of_overflow (not_lt.1 large)] at h
  cases h

/-- One more term: a sum of doubles grows by at most twice the term. -/
theorem UpTo.add_twice (hx : UpTo b x) (hy : UpTo c y) (fits : b + 2 * c < overflow) :
    UpTo (b + 2 * c) (x + y) := by
  obtain ⟨q, rfl, hq, q0, qb⟩ := hx
  obtain ⟨r, rfl, hr, r0, rc⟩ := hy
  have sum0 : 0 ≤ q + r := add_nonneg q0 r0
  have sumFits : q + r < overflow := by linarith
  have rounded := toRat_add_le hq hr q0 r0 sumFits
  have lesser : min q r ≤ r := min_le_right q r
  rw [finite_add_finite]
  exact ⟨(ofRat (q + r)).toRat, ofRat_of_nonneg sum0 sumFits,
    representable_ofRat (by rwa [abs_of_nonneg sum0]), toRat_ofRat_nonneg sum0 sumFits, by linarith⟩

end Binary64

end Deliberation
