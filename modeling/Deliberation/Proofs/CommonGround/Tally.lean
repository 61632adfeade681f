/-
# Proofs.CommonGround.Tally -- counts have shares, percentages and a polarization

Counts of participants are natural numbers of any size.  Their shares of a total lie in the unit interval
(`StanceRecord.upTo_support`, `StanceRecord.upTo_oppose`), so that nothing computed from them is out of
range: the share of support has a percentage (`exists_agreementPercentage`), percentages are split
(`quota_eq`, `exists_apportion`), the balance is a score (`exists_derivedConsensus`), and so is the
polarization of two shares (`exists_polarization`).

The only rounding in a percentage is that of the quotient, to `percentOf`: splitting it at the point is
exact, and rounding it to a whole number rounds once more where one half is added
(`agreementPercentage_eq`).
-/
import Deliberation.CommonGround.Synthesis
import Deliberation.Proofs.Number.Means
import Deliberation.Proofs.Number.Spacing

set_option autoImplicit false

namespace Deliberation

open Binary64

/-! ## Shares -/

namespace StanceRecord

variable (r : StanceRecord)

theorem upTo_support : UpTo 1 r.shares.support :=
  upTo_ofQuotient (by unfold total; omega)

theorem upTo_oppose : UpTo 1 r.shares.oppose :=
  upTo_ofQuotient (by unfold total; omega)

end StanceRecord

/-! ## Percentages -/

theorem sum_whole (counts : List ℕ) :
    Number.sum (counts.map fun n : ℕ => Number.whole n) = .ok (.whole counts.sum) := by
  have started (start : ℤ) : (counts.map fun n : ℕ => Number.whole n).foldlM Number.add (.whole start) =
      .ok (.whole (start + counts.sum)) := by
    induction counts generalizing start with
    | nil => simp
    | cons n rest ih =>
        rw [List.map_cons, List.foldlM_cons, Number.add_whole, ok_bind, ih]
        simp [add_assoc]
  rw [Number.sum, started, zero_add]

/-- The double nearest to a count as a percentage of a total. -/
def percentOf (total count : ℕ) : ℚ := (ofRat (100 * count / total)).toRat

section Percentages

variable {count total : ℕ}

theorem percent_le (le : count ≤ total) : (100 * count : ℚ) / total ≤ 100 := by
  have le' : (count : ℚ) ≤ total := by exact_mod_cast le
  apply div_le_of_le_mul₀ (Nat.cast_nonneg total) (by norm_num)
  linarith

theorem upTo_percentOf (le : count ≤ total) : UpTo 100 (finite (percentOf total count)) := by
  obtain ⟨q, same, held, nonneg, bound⟩ := upTo_ofRat (x := 100 * count / total) (by positivity)
    (percent_le le) representable_hundred hundred_lt_overflow
  rw [percentOf, same]
  exact upTo_finite held nonneg bound

/-- **A count of any size has a percentage of its total.** -/
theorem div_eq_percentOf (le : count ≤ total) (positive : 0 < total) :
    (Number.whole (100 * count)).div (.whole total) = .ok (finite (percentOf total count)) := by
  obtain ⟨q, same, -⟩ := upTo_ofRat (x := 100 * count / total) (by positivity) (percent_le le)
    representable_hundred hundred_lt_overflow
  rw [Number.div, if_neg (by omega), ofRatio, percentOf]
  push_cast
  rw [same]
  rfl

/-- The whole part of the percentage of a count. -/
def wholePercent (total count : ℕ) : ℤ := (percentOf total count).floor

/-- What is left of the percentage of a count. -/
def restPercent (total count : ℕ) : ℚ := percentOf total count - wholePercent total count

/-- The percentage of a count, split at the point. -/
def Quota.ofCount (total count : ℕ) : Quota :=
  ⟨wholePercent total count, finite (restPercent total count)⟩

theorem exists_wholePercent (le : count ≤ total) : ∃ n : ℕ, wholePercent total count = n ∧ n ≤ 100 := by
  obtain ⟨q, same, -, nonneg, bound⟩ := upTo_percentOf le
  obtain rfl := Binary64.finite.inj same
  exact exists_floor nonneg (bound.trans_lt (by norm_num))

/-- **A percentage is split at the point without any rounding.** -/
theorem quota_eq (le : count ≤ total) (positive : 0 < total) :
    Quota.of (.whole count) (.whole total) = .ok (Quota.ofCount total count) := by
  obtain ⟨q, same, held, nonneg, bound⟩ := upTo_percentOf le
  obtain rfl := Binary64.finite.inj same
  obtain ⟨whole, hwhole, few⟩ := exists_wholePercent le
  have floor : (finite (percentOf total count)).floor = .ok (wholePercent total count) := rfl
  have rest : finite (percentOf total count) - finite ((whole : ℕ) : ℚ) =
      finite (restPercent total count) := by
    have exactly : ((whole : ℕ) : ℚ) = wholePercent total count := by rw [hwhole]; rfl
    have below : (wholePercent total count : ℚ) ≤ percentOf total count := Rat.floor_le _
    have above : (0 : ℚ) ≤ wholePercent total count := by
      rw [hwhole]
      exact_mod_cast Nat.zero_le whole
    rw [exactly, finite_sub_finite]
    refine ofRat_of_representable (representable_fract held nonneg) (sub_nonneg.2 below) ?_
    calc percentOf total count - wholePercent total count ≤ 100 := by linarith
      _ < overflow := hundred_lt_overflow
  unfold Quota.of
  rw [Number.mul_whole, ok_bind, div_eq_percentOf le positive, ok_bind, floor, ok_bind, hwhole,
    ofWhole_of_le (by omega), ok_bind, rest, ← hwhole]
  rfl

/-- A percentage rounded to a whole number: one half is added and the floor taken. -/
theorem roundHalfUp_percentOf (le : count ≤ total) :
    (Number.real (finite (percentOf total count))).roundHalfUp 0 =
      .ok (finite ((ofRat (percentOf total count + 1 / 2)).toRat.floor : ℤ)) := by
  obtain ⟨q, same, held, nonneg, bound⟩ := upTo_percentOf le
  obtain rfl := Binary64.finite.inj same
  have kept : finite (percentOf total count) * finite 1 = finite (percentOf total count) := by
    rw [finite_mul_finite nonneg zero_le_one, mul_one]
    exact ofRat_of_representable held nonneg (bound.trans_lt hundred_lt_overflow)
  obtain ⟨q, sum, n, hn, few⟩ := exists_floor_add_half ((upTo_percentOf le).mono (by norm_num [nearlyOne]))
  have shifted : ofRat (percentOf total count + 1 / 2) = finite q := sum
  have own : ofRat (n : ℚ) = finite n := by
    have small : |(n : ℤ)| ≤ 2 ^ 53 := by
      rw [Nat.abs_cast]
      omega
    exact_mod_cast ofRat_int small
  have rounded : (Number.real (finite (percentOf total count))).roundHalfUp 0 = (do
      let n ← (finite (percentOf total count) * finite 1 + oneHalf).floor
      Binary64.ofRatio n 1) := by
    simpa using Number.roundHalfUp_eq (finite (percentOf total count)) 0 (by norm_num)
  have answer : Binary64.ofRatio q.floor 1 = .ok (finite (q.floor : ℤ)) := by
    simp [Binary64.ofRatio, hn, own]
  rw [rounded, kept, sum, shifted]
  exact answer

/-- What the percentage of support is rounded to. -/
theorem agreementPercentage_eq {support oppose nuanced : ℕ}
    (positive : 0 < support + oppose + nuanced) :
    agreementPercentage (.whole support) (.whole oppose) (.whole nuanced) = .ok (some
      (ofRat (percentOf (support + oppose + nuanced) support + 1 / 2)).toRat.floor) := by
  have le : support ≤ support + oppose + nuanced := by omega
  have quotient := div_eq_percentOf le positive
  rw [Number.div_whole (by omega)] at quotient
  push_cast at quotient
  rw [agreementPercentage_whole, if_neg (by omega), quotient, ok_bind, roundHalfUp_percentOf le]
  simp [Binary64.truncate, Binary64.truncate?, isFinite, toRat]

/-- **Counts of any size have an agreement percentage**, where anybody took a stance. -/
theorem exists_agreementPercentage {support oppose nuanced : ℕ}
    (positive : 0 < support + oppose + nuanced) : ∃ p : ℕ, p ≤ 100 ∧
      agreementPercentage (.whole support) (.whole oppose) (.whole nuanced) = .ok (some (p : ℤ)) := by
  have le : support ≤ support + oppose + nuanced := by omega
  obtain ⟨q, sum, n, hn, few⟩ := exists_floor_add_half ((upTo_percentOf le).mono (by norm_num [nearlyOne]))
  have shifted : ofRat (percentOf (support + oppose + nuanced) support + 1 / 2) = finite q := sum
  refine ⟨n, few, ?_⟩
  rw [agreementPercentage_eq positive, shifted, ← hn]
  rfl

end Percentages

/-- The balance of any counts is a score. -/
theorem exists_derivedConsensus (support oppose nuanced : ℕ) : ∃ x,
    derivedConsensus (.whole support) (.whole oppose) (.whole nuanced) = .ok x ∧ UpTo 1 x := by
  rw [derivedConsensus_whole]
  split_ifs with zero
  · exact ⟨oneHalf, rfl, upTo_finite ⟨1, -1, by norm_num, by norm_num, by norm_num⟩ (by norm_num)
      (by norm_num)⟩
  · have positive : (0 : ℚ) < support + oppose + nuanced := by
      have : 0 < support + oppose + nuanced := by omega
      exact_mod_cast this
    have support0 : (0 : ℚ) ≤ support := Nat.cast_nonneg _
    have oppose0 : (0 : ℚ) ≤ oppose := Nat.cast_nonneg _
    have nuanced0 : (0 : ℚ) ≤ nuanced := Nat.cast_nonneg _
    have balanced : |((support : ℚ) - oppose) / (support + oppose + nuanced)| ≤ 1 := by
      rw [abs_le, le_div_iff₀ positive, div_le_iff₀ positive]
      constructor <;> linarith
    obtain ⟨finiteBalance, near⟩ := abs_toRat_ofRat_le_one balanced
    obtain ⟨low, high⟩ := abs_le.1 near
    have ratio : ofRatio ((support : ℤ) - oppose) (support + oppose + nuanced) =
        .ok (ofRat (((support : ℚ) - oppose) / (support + oppose + nuanced))) := by
      unfold ofRatio
      push_cast
      cases h : ofRat (((support : ℚ) - oppose) / (support + oppose + nuanced)) with
      | infinite negative => simp [h, isFinite] at finiteBalance
      | _ => rfl
    rw [ratio, ok_bind]
    refine ⟨_, rfl, ?_⟩
    rw [add_finite 1 finiteBalance]
    obtain ⟨a, sum, -, a0, a2⟩ := upTo_ofRat (b := 2)
      (by linarith : 0 ≤ (ofRat (((support : ℚ) - oppose) / (support + oppose + nuanced))).toRat + 1)
      (by linarith) (by simpa using representable_two_pow 1)
      (by simpa using two_pow_lt_overflow (e := 1) (by norm_num))
    rw [sum]
    exact upTo_div_of_le a0 (by norm_num) a2

/-- The percentages of counts of any size, each split at the point. -/
theorem quotas_eq {counts : List ℕ} (positive : 0 < counts.sum) :
    (counts.map fun n : ℕ => Number.whole n).mapM (fun count => Quota.of count (.whole counts.sum)) =
      .ok (counts.map (Quota.ofCount counts.sum)) := by
  rw [mapM_eq_ok_iff, List.forall₂_map_left_iff, List.forall₂_map_right_iff, List.forall₂_same]
  exact fun n hn => quota_eq (List.le_sum_of_mem hn) positive

/-- **Counts of any size are split into percentages.** -/
theorem exists_apportion (counts : List ℕ) :
    ∃ percentages, apportion (counts.map fun n : ℕ => Number.whole n) = .ok percentages := by
  unfold apportion
  rw [sum_whole, ok_bind]
  split_ifs with zero
  · exact ⟨_, rfl⟩
  · rw [Number.isZero_whole, decide_eq_true_eq] at zero
    rw [quotas_eq (by omega)]
    exact ⟨_, rfl⟩

/-! ## Polarization -/

/-- **Two shares have a polarization.** -/
theorem exists_polarization {x y : Binary64} (hx : UpTo 1 x) (hy : UpTo 1 y) :
    ∃ p, polarization (.real x) (.real y) = .ok p ∧ UpTo 1 p := by
  have one : Binary64.ofWhole 1 = .ok (finite 1) := by
    simpa using ofWhole_of_le (n := 1) (by norm_num)
  have apart := upTo_abs_sub hx hy
  have closeness : UpTo 1 (finite 1 - (x - y).abs) := by
    obtain ⟨c, same, -, nonneg, le⟩ := apart
    rw [same, finite_sub_finite]
    exact upTo_ofRat (by linarith) (by linarith) representable_one one_lt_overflow
  obtain ⟨p, rounded, unit⟩ := roundHalfUp_of_unit (Number.upTo_clampUnit closeness)
  refine ⟨p, ?_, unit⟩
  have distance : (Number.real x).sub (.real y) = .ok (.real (x - y)) := rfl
  have difference : (Number.whole 1).sub (.real (x - y).abs) =
      .ok (.real (finite 1 - (x - y).abs)) := by
    simp [Number.sub, Number.lift, Number.toBinary64, one]
  unfold polarization
  rw [distance, ok_bind, Number.abs]
  dsimp only
  rw [difference, ok_bind]
  exact rounded

end Deliberation
