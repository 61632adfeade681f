/-
# Proofs.Feedback.Confidence -- more matches never lower a confidence

A score lies in the unit interval (`upTo_score`).  With parameters that are doubles and a positive
increment it grows with the weighted matches, and it does not fall when the matches become corroborated
(`score_le_score`).  So where a model crosses a threshold is settled by two scores (`Crosses`): the
greatest total that stays below, corroborated, and the least one that reaches it, alone.  The shipped
models cross their critical thresholds between two totals that can follow one another, half a match or a
whole one apart.  From some total on a model is as sure as it gets (`Saturates`).
-/
import Deliberation.Feedback.Confidence
import Deliberation.Proofs.Fallible
import Deliberation.Proofs.Number.Operations

set_option autoImplicit false

namespace Deliberation

open Binary64

namespace ConfidenceModel

open Number

variable {m : ConfidenceModel} {w w' families families' : Number} {x y s s' : Binary64}

/-- The cap that holds for a number of families. -/
def ceiling (m : ConfidenceModel) (families : Number) : Number :=
  if whole 2 ≤ families then m.corroboratedCap else m.cap

theorem score_eq_ok_iff : m.score w families = .ok s ↔ ∃ scaled raw floor,
    w.mul m.increment = .ok scaled ∧ m.base.add scaled = .ok raw ∧ m.floor = .ok floor ∧
      (floor.greatest (raw.least (m.ceiling families))).clampUnit.roundPlaces 4 = s := by
  simp [score, bind_eq_ok_iff, ceiling]

/-- Every score lies in the unit interval. -/
theorem upTo_score (h : m.score w families = .ok s) : UpTo 1 s := by
  obtain ⟨scaled, raw, floor, -, -, -, rfl⟩ := score_eq_ok_iff.1 h
  obtain ⟨q, same, nonneg, le⟩ :=
    exists_clampUnit (floor.greatest (raw.least (m.ceiling families)))
  rw [same]
  exact upTo_roundPlaces nonneg le

/-- Doubles for parameters: the increment is positive, and agreement does not lower the cap. -/
structure Regular (m : ConfidenceModel) : Prop where
  base : ∃ b : ℚ, m.base = real (finite b)
  increment : ∃ i : ℚ, 0 < i ∧ m.increment = real (finite i)
  capped : m.cap ≤ m.corroboratedCap

namespace Regular

theorem ceiling_le_ceiling (regular : m.Regular)
    (corroborated : whole 2 ≤ families → whole 2 ≤ families') :
    m.ceiling families ≤ m.ceiling families' := by
  have cap := Binary64.le_refl (isNaN_of_le_left regular.capped)
  have corroboratedCap := Binary64.le_refl (isNaN_of_le_right regular.capped)
  unfold ceiling
  split_ifs with h h'
  · exact corroboratedCap
  · exact absurd (corroborated h) h'
  · exact regular.capped
  · exact cap

theorem exists_floor (regular : m.Regular) :
    ∃ floor, m.floor = .ok floor ∧ floor.exact.isNaN = false := by
  obtain ⟨b, hb⟩ := regular.base
  obtain ⟨i, -, hi⟩ := regular.increment
  have sum : m.base.add m.increment = .ok (real (finite b + finite i)) := by rw [hb, hi]; rfl
  have defined : (real (finite b + finite i)).exact.isNaN = false := isNaN_ofRat (b + i)
  refine ⟨_, bind_eq_ok_iff.2 ⟨_, sum, rfl⟩, ?_⟩
  exact (place_least defined (isNaN_of_le_left regular.capped)).1

/-- A regular model has a score for every total in the range of doubles. -/
theorem exists_score (regular : m.Regular) (hw : w.toBinary64 = .ok x) (families : Number) :
    ∃ s, m.score w families = .ok s := by
  obtain ⟨b, hb⟩ := regular.base
  obtain ⟨i, -, hi⟩ := regular.increment
  obtain ⟨floor, hfloor, -⟩ := regular.exists_floor
  have scaled : w.mul m.increment = .ok (real (x * finite i)) := hi ▸ mul_real hw _
  have raw : m.base.add (real (x * finite i)) = .ok (real (finite b + x * finite i)) := by
    rw [hb]; rfl
  exact ⟨_, score_eq_ok_iff.2 ⟨_, _, floor, scaled, raw, hfloor, rfl⟩⟩

/-- **More matches, and more agreement, never lower the score.** -/
theorem score_le_score (regular : m.Regular) (hw : w.toBinary64 = .ok x)
    (hw' : w'.toBinary64 = .ok y) (more : x ≤ y)
    (corroborated : whole 2 ≤ families → whole 2 ≤ families')
    (h : m.score w families = .ok s) (h' : m.score w' families' = .ok s') : s ≤ s' := by
  obtain ⟨b, hb⟩ := regular.base
  obtain ⟨i, positive, hi⟩ := regular.increment
  obtain ⟨floor, hfloor, defined⟩ := regular.exists_floor
  have bounded {v : Number} {z t : Binary64} {n : Number} (hv : v.toBinary64 = .ok z)
      (ht : m.score v n = .ok t) : (floor.greatest ((real (finite b + z * finite i)).least
        (m.ceiling n))).clampUnit.roundPlaces 4 = t := by
    obtain ⟨scaled, raw, floor', hscaled, hraw, hfloor', rfl⟩ := score_eq_ok_iff.1 ht
    rw [hi, mul_real hv] at hscaled
    obtain rfl := Except.ok.inj hscaled
    rw [hb, add_real rfl] at hraw
    obtain rfl := Except.ok.inj hraw
    rw [hfloor] at hfloor'
    rw [Except.ok.inj hfloor']
  have raw : real (finite b + x * finite i) ≤ real (finite b + y * finite i) :=
    finite_add_le_finite_add b (mul_finite_le_mul_finite positive more)
  have clamped := clampUnit_le_clampUnit (greatest_le_greatest (Binary64.le_refl defined)
    (least_le_least raw (regular.ceiling_le_ceiling corroborated)))
  rw [← bounded hw h, ← bounded hw' h']
  obtain ⟨q, hq, nonneg, -⟩ := exists_clampUnit
    (floor.greatest ((real (finite b + x * finite i)).least (m.ceiling families)))
  obtain ⟨r, hr, -, -⟩ := exists_clampUnit
    (floor.greatest ((real (finite b + y * finite i)).least (m.ceiling families')))
  rw [hq, hr] at clamped ⊢
  exact roundPlaces_le_roundPlaces nonneg ((le_iff_of_isFinite rfl rfl).1 clamped)

end Regular

/-- The model crosses a threshold between two totals. -/
structure Crosses (m : ConfidenceModel) (threshold : Number) (below above : ℚ) : Prop where
  regular : m.Regular
  stays : ∃ s, m.score (real (finite below)) (whole 2) = .ok s ∧ real s < threshold
  reaches : ∃ s, m.score (real (finite above)) (whole 1) = .ok s ∧ threshold ≤ real s

namespace Crosses

variable {threshold : Number} {below above : ℚ}

/-- What matched enough reaches the threshold, corroborated or not. -/
theorem le_score (crosses : m.Crosses threshold below above) (hw : w.toBinary64 = .ok x)
    (enough : finite above ≤ x) (h : m.score w families = .ok s) : threshold ≤ real s := by
  obtain ⟨t, ht, reaches⟩ := crosses.reaches
  have alone : ¬whole 2 ≤ whole 1 := by decide
  exact Binary64.le_trans reaches
    (crosses.regular.score_le_score rfl hw enough (fun two => absurd two alone) ht h)

/-- What did not match enough stays below the threshold, corroborated or not. -/
theorem score_lt (crosses : m.Crosses threshold below above) (hw : w.toBinary64 = .ok x)
    (few : x ≤ finite below) (h : m.score w families = .ok s) : real s < threshold := by
  obtain ⟨t, ht, stays⟩ := crosses.stays
  have agreeing : whole 2 ≤ whole 2 := by decide
  exact Binary64.lt_of_le_of_lt
    (crosses.regular.score_le_score hw rfl few (fun _ => agreeing) h ht) stays

end Crosses

/-- From a total on, more matches no longer raise the score. -/
def Saturates (m : ConfidenceModel) (enough : ℚ) : Prop :=
  ∀ families, m.score (real (infinite false)) families = m.score (real (finite enough)) families

/-- Two numbers of families settle it, one alone and two that agree. -/
theorem saturates_of_alone_of_agreeing {enough : ℚ}
    (alone : m.score (real (infinite false)) (whole 1) = m.score (real (finite enough)) (whole 1))
    (agreeing : m.score (real (infinite false)) (whole 2) = m.score (real (finite enough)) (whole 2)) :
    m.Saturates enough := by
  have two : whole 2 ≤ whole 2 := by decide
  have one : ¬whole 2 ≤ whole 1 := by decide
  intro families
  by_cases corroborated : whole 2 ≤ families
  · simpa only [score, if_pos corroborated, if_pos two] using agreeing
  · simpa only [score, if_neg corroborated, if_neg one] using alone

/-! ## The shipped models -/

theorem regular_ofHundredths {base increment cap : ℕ} (hbase : base ≤ 100)
    (positive : 0 < increment) (hincrement : increment ≤ 100) (hcap : cap ≤ 100) :
    (ofHundredths base increment cap).Regular := by
  obtain ⟨b, hb, -⟩ : UpTo 1 (ofDecimal base 2) := upTo_ofDecimal hbase
  obtain ⟨i, hi, -⟩ : UpTo 1 (ofDecimal increment 2) := upTo_ofDecimal hincrement
  obtain ⟨c, hc, -, -, unit⟩ : UpTo 1 (ofDecimal cap 2) := upTo_ofDecimal hcap
  refine ⟨⟨b, congrArg real hb⟩, ⟨i, ?_, congrArg real hi⟩, ?_⟩
  · -- a hundredth is above a power of two, which is a double
    have fine : (2 : ℚ) ^ (-7 : ℤ) ≤ mkRat increment (Nat.pow 10 2) := by
      have atLeast : (1 : ℚ) ≤ increment := by exact_mod_cast positive
      rw [Rat.mkRat_eq_div]
      norm_num
      linarith
    have round : ofRat (2 ^ (-7 : ℤ)) = finite (2 ^ (-7 : ℤ)) :=
      ofRat_of_representable (representable_two_zpow (by norm_num)) (by positivity)
        (two_zpow_lt_overflow (by norm_num))
    have low : finite (2 ^ (-7 : ℤ)) ≤ finite i := round ▸ hi ▸ ofRat_mono fine
    exact (two_zpow_pos _).trans_le ((le_iff_of_isFinite rfl rfl).1 low)
  · change ofDecimal cap 2 ≤ finite 1
    exact hc ▸ finite_le_finite unit

theorem regular_tone : tone.Regular :=
  regular_ofHundredths (by decide) (by decide) (by decide) (by decide)

theorem saturates_tone : tone.Saturates 4 :=
  saturates_of_alone_of_agreeing (by decide +kernel) (by decide +kernel)

theorem saturates_fallacy : fallacy.Saturates 4 :=
  saturates_of_alone_of_agreeing (by decide +kernel) (by decide +kernel)

/-- One plain match reaches the critical threshold of inflammatory language, and so does less. -/
theorem le_score_tone (hw : w.toBinary64 = .ok x) (nonneg : finite 0 ≤ x)
    (h : tone.score w families = .ok s) : real (.ofDecimal 75 2) ≤ real s := by
  have least : real (.ofDecimal 75 2) ≤ real (ofDecimal 75 2) := by decide +kernel
  have none : tone.score (real (finite 0)) (whole 1) = .ok (ofDecimal 75 2) := by decide +kernel
  have alone : ¬whole 2 ≤ whole 1 := by decide
  exact Binary64.le_trans least
    (regular_tone.score_le_score rfl hw nonneg (fun two => absurd two alone) none h)

theorem crosses_fallacy : fallacy.Crosses (real (.ofDecimal 85 2)) (3 / 2) 2 where
  regular := regular_ofHundredths (by decide) (by decide) (by decide) (by decide)
  stays := ⟨ofDecimal 82 2, by decide +kernel⟩
  reaches := ⟨ofDecimal 86 2, by decide +kernel⟩

theorem crosses_unsourced : unsourced.Crosses (real (.ofDecimal 85 2)) 2 (5 / 2) where
  regular := regular_ofHundredths (by decide) (by decide) (by decide) (by decide)
  stays := ⟨ofDecimal 81 2, by decide +kernel⟩
  reaches := ⟨ofDecimal 85 2, by decide +kernel⟩

theorem crosses_bias : bias.Crosses (real (.ofDecimal 85 2)) 3 4 where
  regular := regular_ofHundredths (by decide) (by decide) (by decide) (by decide)
  stays := ⟨ofDecimal 84 2, by decide +kernel⟩
  reaches := ⟨ofDecimal 85 2, by decide +kernel⟩

end ConfidenceModel

end Deliberation
