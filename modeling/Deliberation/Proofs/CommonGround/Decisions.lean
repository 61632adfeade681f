/-
# Proofs.CommonGround.Decisions -- what the usual settings decide of counts

Shares are rounded quotients, and the usual thresholds are rounded decimals.  A rounded quotient reaches a
double exactly if the quotient reaches the midpoint before that double (`le_toRat_ofRat_iff`), so that every
decision is an inequality of whole numbers after all: not that between the counts, but one that leaves it a
margin of some parts in `2 ^ 53` (`seventy_le_iff`, `thirty_le_iff`, `le_ten_iff`).  Up to a thousand million
millions of participants the margin holds no whole number, and the decisions are those of the exact shares.

Rounding half up errs the same way: the percentage is the exact one, or the next whole number where the share
falls short of its half by no more than the margin (`roundedPercentage_cases`), which takes `2 ^ 46`
participants.
-/
import Deliberation.Proofs.CommonGround.Contributions
import Deliberation.Proofs.CommonGround.Viewpoints

set_option autoImplicit false

namespace Deliberation

open Binary64

/-! ## Thresholds -/

section Thresholds

variable {part whole : ℕ}

theorem share_unit (le : part ≤ whole) : (0 : ℚ) ≤ part / whole ∧ (part : ℚ) / whole ≤ 1 :=
  ⟨by positivity, div_le_one_of_le₀ (by exact_mod_cast le) (Nat.cast_nonneg whole)⟩

theorem toRat_ofQuotient (part whole : ℕ) :
    (ofQuotient part whole).toRat = (ofRat (part / whole)).toRat := by
  rw [ofQuotient, Rat.mkRat_eq_div, Int.cast_natCast]

variable {threshold : Binary64}

theorem le_ofQuotient_iff (defined : threshold.isFinite = true) (le : part ≤ whole) :
    Number.real threshold ≤ .real (ofQuotient part whole) ↔
      threshold.toRat ≤ (ofRat (part / whole)).toRat := by
  rw [← toRat_ofQuotient]
  exact le_iff_of_isFinite defined (upTo_ofQuotient le).isFinite

theorem ofQuotient_le_iff (defined : threshold.isFinite = true) (le : part ≤ whole) :
    Number.real (ofQuotient part whole) ≤ .real threshold ↔
      (ofRat (part / whole)).toRat ≤ threshold.toRat := by
  rw [← toRat_ofQuotient]
  exact le_iff_of_isFinite (upTo_ofQuotient le).isFinite defined

/-- The double nearest to seven tenths is less than that, and the midpoint before it is rounded up. -/
theorem seventy_le_iff (le : part ≤ whole) (positive : 0 < whole) :
    Number.real (ofDecimal 70 2) ≤ .real (ofQuotient part whole) ↔
      2 ^ 53 * (7 * whole - 10 * part : ℤ) ≤ 9 * whole := by
  have double : (ofDecimal 70 2).toRat = 6305039478318694 / 2 ^ 53 := by decide +kernel
  have up : (ofRat ((6305039478318693 / 2 ^ 53 + 6305039478318694 / 2 ^ 53) / 2)).toRat =
      6305039478318694 / 2 ^ 53 := by decide +kernel
  have held : Representable (6305039478318693 / 2 ^ 53) :=
    representable_div (m := 6305039478318693) (s := 53) (by norm_num) (by norm_num)
  obtain ⟨share0, share1⟩ := share_unit le
  have total : (0 : ℚ) < whole := by exact_mod_cast positive
  rw [le_ofQuotient_iff (by decide +kernel) le, double,
    le_toRat_ofRat_iff held (by norm_num) (abs_lt_overflow share0 share1)
      (abs_lt_overflow (by norm_num) (by norm_num)) (abs_lt_overflow (by norm_num) (by norm_num)) up,
    le_div_iff₀ total]
  have : (6305039478318693 / 2 ^ 53 + 6305039478318694 / 2 ^ 53 : ℚ) / 2 * whole ≤ part ↔
      12610078956637387 * whole ≤ 2 ^ 54 * part := by
    rw [← Nat.cast_le (α := ℚ)]
    push_cast
    constructor <;> intro h <;> linarith
  rw [this]
  omega

/-- The double nearest to three tenths is less than that, and the midpoint before it is rounded down. -/
theorem thirty_le_iff (le : part ≤ whole) (positive : 0 < whole) :
    Number.real (ofDecimal 30 2) ≤ .real (ofQuotient part whole) ↔
      2 ^ 54 * (3 * whole - 10 * part : ℤ) < 7 * whole := by
  have double : (ofDecimal 30 2).toRat = 5404319552844595 / 2 ^ 54 := by decide +kernel
  have down : (ofRat ((5404319552844594 / 2 ^ 54 + 5404319552844595 / 2 ^ 54) / 2)).toRat =
      5404319552844594 / 2 ^ 54 := by decide +kernel
  have held : Representable (5404319552844595 / 2 ^ 54) :=
    representable_div (m := 5404319552844595) (s := 54) (by norm_num) (by norm_num)
  obtain ⟨share0, share1⟩ := share_unit le
  have total : (0 : ℚ) < whole := by exact_mod_cast positive
  have fits := abs_lt_overflow share0 share1
  -- What exceeds the double before it reaches this one.
  have next : (5404319552844595 : ℚ) / 2 ^ 54 ≤ (ofRat (part / whole)).toRat ↔
      5404319552844594 / 2 ^ 54 < (ofRat (part / whole)).toRat := by
    refine ⟨fun reached => lt_of_lt_of_le (by norm_num) reached, fun exceeded => ?_⟩
    simpa using succ_le_of_lt (s := 54) (k := 5404319552844594) (representable_ofRat fits) (by norm_num)
      (by simpa using exceeded)
  rw [le_ofQuotient_iff (by decide +kernel) le, double, next,
    lt_toRat_ofRat_iff held (by norm_num) fits (abs_lt_overflow (by norm_num) (by norm_num))
      (abs_lt_overflow (by norm_num) (by norm_num)) down, lt_div_iff₀ total]
  have : (5404319552844594 / 2 ^ 54 + 5404319552844595 / 2 ^ 54 : ℚ) / 2 * whole < part ↔
      10808639105689189 * whole < 2 ^ 55 * part := by
    rw [← Nat.cast_lt (α := ℚ)]
    push_cast
    constructor <;> intro h <;> linarith
  rw [this]
  omega

/-- The double nearest to one tenth is more than that, and the midpoint behind it is rounded down. -/
theorem le_ten_iff (le : part ≤ whole) (positive : 0 < whole) :
    Number.real (ofQuotient part whole) ≤ .real (ofDecimal 10 2) ↔
      2 ^ 56 * (10 * part - whole : ℤ) ≤ 9 * whole := by
  have double : (ofDecimal 10 2).toRat = 7205759403792794 / 2 ^ 56 := by decide +kernel
  have down : (ofRat ((7205759403792794 / 2 ^ 56 + 7205759403792795 / 2 ^ 56) / 2)).toRat =
      7205759403792794 / 2 ^ 56 := by decide +kernel
  have held : Representable (7205759403792795 / 2 ^ 56) :=
    representable_div (m := 7205759403792795) (s := 56) (by norm_num) (by norm_num)
  obtain ⟨share0, share1⟩ := share_unit le
  have total : (0 : ℚ) < whole := by exact_mod_cast positive
  rw [ofQuotient_le_iff (by decide +kernel) le, double, ← not_lt,
    lt_toRat_ofRat_iff held (by norm_num) (abs_lt_overflow share0 share1)
      (abs_lt_overflow (by norm_num) (by norm_num)) (abs_lt_overflow (by norm_num) (by norm_num)) down,
    not_lt, div_le_iff₀ total]
  have : (part : ℚ) ≤ (7205759403792794 / 2 ^ 56 + 7205759403792795 / 2 ^ 56) / 2 * whole ↔
      2 ^ 57 * part ≤ 14411518807585589 * whole := by
    rw [← Nat.cast_le (α := ℚ)]
    push_cast
    constructor <;> intro h <;> linarith
  rw [this]
  omega

end Thresholds

/-! ## The percentage -/

/-- The share of a count in points, rounded half up. -/
def roundedShare (total count : ℕ) : ℕ := (200 * count + total) / (2 * total)

/-- How far a share is below the half from which on it is rounded up, in parts of twice the total. -/
def shortOfHalf (total count : ℕ) : ℤ := (2 * roundedShare total count + 1) * total - 200 * count

theorem half_held {m : ℤ} (small : |m| ≤ 2 ^ 10) : Representable (m / 2) ∧ |(m : ℚ) / 2| < overflow := by
  refine ⟨by simpa using representable_div (s := 1) (small.trans (by norm_num)) (by norm_num), ?_⟩
  have bound : |(m : ℚ)| ≤ 2 ^ 10 := by exact_mod_cast small
  rw [abs_div, abs_two]
  exact (by linarith : |(m : ℚ)| / 2 ≤ 2 ^ 10).trans_lt (two_pow_lt_overflow (by norm_num))

section Percentage

variable {count total : ℕ} (le : count ≤ total) (positive : 0 < total)
include positive

theorem half_sub_share (count : ℕ) : (roundedShare total count : ℚ) + 1 / 2 - 100 * count / total =
    shortOfHalf total count / (2 * total) := by
  have total0 : (total : ℚ) ≠ 0 := by exact_mod_cast positive.ne'
  unfold shortOfHalf
  push_cast
  field_simp
  ring

/-- A share is below that half, and not below the half before. -/
theorem shortOfHalf_bounds (count : ℕ) :
    0 < shortOfHalf total count ∧ shortOfHalf total count ≤ 2 * total := by
  have below : roundedShare total count * (2 * total) ≤ 200 * count + total := Nat.div_mul_le_self _ _
  have above : 200 * count + total < (roundedShare total count + 1) * (2 * total) :=
    (Nat.div_lt_iff_lt_mul (by omega)).1 (Nat.lt_succ_self _)
  unfold shortOfHalf
  zify at below above
  constructor <;> linarith

include le

theorem roundedShare_le : roundedShare total count ≤ 100 :=
  Nat.le_of_lt_succ ((Nat.div_lt_iff_lt_mul (by omega)).2 (by omega))

omit le in
theorem share_between_halves (count : ℕ) :
    (roundedShare total count : ℚ) - 1 / 2 ≤ 100 * count / total ∧
      (100 * count : ℚ) / total < roundedShare total count + 1 / 2 := by
  have total0 : (0 : ℚ) < 2 * total := by exact_mod_cast (by omega : 0 < 2 * total)
  obtain ⟨short, far⟩ := shortOfHalf_bounds positive count
  have gap := half_sub_share positive count
  have short' : (0 : ℚ) < shortOfHalf total count / (2 * total) := div_pos (by exact_mod_cast short) total0
  have far' : shortOfHalf total count / (2 * total : ℚ) ≤ 1 :=
    (div_le_one total0).2 (by exact_mod_cast far)
  constructor <;> linarith

/-- Rounding passes no multiple of one half. -/
theorem percentOf_between_halves :
    (roundedShare total count : ℚ) - 1 / 2 ≤ percentOf total count ∧
      percentOf total count ≤ roundedShare total count + 1 / 2 := by
  have few := roundedShare_le le positive
  obtain ⟨low, high⟩ := share_between_halves positive count
  obtain ⟨heldLow, fitsLow⟩ := half_held (m := 2 * roundedShare total count - 1) (by rw [abs_le]; omega)
  obtain ⟨heldHigh, fitsHigh⟩ := half_held (m := 2 * roundedShare total count + 1) (by rw [abs_le]; omega)
  have low' := le_percentOf le heldLow fitsLow (by push_cast; linarith)
  have high' := percentOf_le le heldHigh fitsHigh (by push_cast; linarith)
  push_cast at low' high'
  constructor <;> linarith

/-- Adding one half passes no whole number. -/
theorem ofRat_half_bounds :
    (roundedShare total count : ℚ) ≤ (ofRat (percentOf total count + 1 / 2)).toRat ∧
      (ofRat (percentOf total count + 1 / 2)).toRat ≤ roundedShare total count + 1 := by
  have few := roundedShare_le le positive
  have few' : (roundedShare total count : ℚ) ≤ 100 := by exact_mod_cast few
  obtain ⟨low, high⟩ := percentOf_between_halves le positive
  have fits : |percentOf total count + 1 / 2| < overflow := by
    rw [abs_of_nonneg (by linarith [Nat.cast_nonneg (α := ℚ) (roundedShare total count)])]
    exact (by linarith : percentOf total count + 1 / 2 ≤ 2 ^ 7).trans_lt (two_pow_lt_overflow (by norm_num))
  constructor
  · calc (roundedShare total count : ℚ) = (ofRat (roundedShare total count : ℚ)).toRat :=
          (toRat_ofRat_natCast (by omega)).symm
      _ ≤ (ofRat (percentOf total count + 1 / 2)).toRat :=
        toRat_ofRat_mono (by linarith) (natCast_fits (by omega)) fits
  · calc (ofRat (percentOf total count + 1 / 2)).toRat
        ≤ (ofRat ((roundedShare total count + 1 : ℕ) : ℚ)).toRat :=
          toRat_ofRat_mono (by push_cast; linarith) fits (natCast_fits (by omega))
      _ = (roundedShare total count + 1 : ℕ) := toRat_ofRat_natCast (by omega)
      _ = roundedShare total count + 1 := Nat.cast_succ _

/-- A percentage is rounded up too early only where the share hardly falls short of the half. -/
theorem short_of_reached
    (reached : (roundedShare total count : ℚ) + 1 ≤ (ofRat (percentOf total count + 1 / 2)).toRat) :
    2 ^ 46 * shortOfHalf total count ≤ total := by
  by_contra far
  have total0 : (0 : ℚ) < total := by exact_mod_cast positive
  have apart : 1 / 2 ^ 47 < (roundedShare total count : ℚ) + 1 / 2 - 100 * count / total := by
    rw [half_sub_share positive count, lt_div_iff₀ (by linarith)]
    have : (total : ℚ) < 2 ^ 46 * shortOfHalf total count := by exact_mod_cast not_le.1 far
    linarith
  obtain ⟨q, same, held, nonneg, bound⟩ := upTo_percentOf le
  obtain rfl := Binary64.finite.inj same
  rcases Nat.eq_zero_or_pos (roundedShare total count) with none | some
  · -- Below one half doubles are close enough for both roundings.
    rw [none, Nat.cast_zero] at apart reached
    have near := abs_le.1 (ofRat_error (q := 100 * count / total) (by positivity) (by linarith))
    change _ ≤ percentOf total count - _ ∧ percentOf total count - _ ≤ _ at near
    have near' := abs_le.1 (ofRat_error (q := percentOf total count + 1 / 2) (by linarith) (by linarith))
    linarith
  · have near := abs_le.1 (percentOf_error le)
    have bits : (roundedShare total count).size ≤ 52 :=
      Nat.size_le.2 ((roundedShare_le le positive).trans_lt (by norm_num))
    have below := toRat_ofRat_add_half_lt some bits held nonneg (by linarith)
    linarith

/-- **A rounded percentage is the share rounded half up, or one more where the share hardly falls short of
that.** -/
theorem roundedPercentage_cases :
    (ofRat (percentOf total count + 1 / 2)).toRat.floor = roundedShare total count ∨
      (ofRat (percentOf total count + 1 / 2)).toRat.floor = roundedShare total count + 1 ∧
        2 ^ 46 * shortOfHalf total count ≤ total := by
  obtain ⟨low, high⟩ := ofRat_half_bounds le positive
  have low' : (roundedShare total count : ℤ) ≤ (ofRat (percentOf total count + 1 / 2)).toRat.floor :=
    Rat.le_floor_iff.2 (by exact_mod_cast low)
  rcases high.lt_or_eq with less | reached
  · have : (ofRat (percentOf total count + 1 / 2)).toRat.floor < roundedShare total count + 1 :=
      Rat.floor_lt_iff.2 (by exact_mod_cast less)
    exact .inl (by omega)
  · refine .inr ⟨?_, short_of_reached le positive reached.ge⟩
    rw [reached]
    exact_mod_cast Rat.floor_intCast _

end Percentage

/-! ## The usual settings -/

namespace StanceRecord

variable {r : StanceRecord}

theorem qualifies_default (enough : 3 ≤ r.total) : r.qualifies Synthesis.default.minParticipation = true := by
  have least : Number.whole 3 ≤ .whole r.total := finite_le_finite (by exact_mod_cast enough)
  simp only [qualifies, Bool.and_eq_true, decide_eq_true_eq]
  exact ⟨by omega, least⟩

theorem isAgreement_default_iff (positive : 0 < r.total) : Synthesis.default.isAgreement r = true ↔
    2 ^ 53 * (7 * r.total - 10 * r.support : ℤ) ≤ 9 * r.total := by
  rw [Synthesis.isAgreement, decide_eq_true_eq]
  exact seventy_le_iff (by unfold total; omega) positive

theorem isSplit_default_iff (enough : 3 ≤ r.total) : Divergence.default.isSplit r = true ↔
    (7 * r.total : ℤ) ≤ 2 ^ 54 * (3 * r.total - 10 * r.nuanced) ∧
      (9 * r.total : ℤ) < 2 ^ 56 * (10 * r.support - r.total) ∧
      (9 * r.total : ℤ) < 2 ^ 56 * (10 * r.oppose - r.total) := by
  have positive : 0 < r.total := by omega
  have notFew : ¬Number.whole r.total < Divergence.default.minParticipation := fun few =>
    Number.not_le_of_lt few (finite_le_finite (by exact_mod_cast enough))
  have parts : r.support ≤ r.total ∧ r.oppose ≤ r.total ∧ r.nuanced ≤ r.total := by
    unfold total
    omega
  obtain ⟨supporters, opponents, others⟩ := parts
  simp only [Divergence.isSplit, notFew, positive, decide_true, decide_false, Bool.not_false, Bool.true_and,
    Bool.and_eq_true, Bool.not_eq_true', decide_eq_false_iff_not]
  change (¬Number.real (ofDecimal 30 2) ≤ .real (ofQuotient r.nuanced r.total) ∧
    ¬Number.real (ofQuotient r.support r.total) ≤ .real (ofDecimal 10 2)) ∧
      ¬Number.real (ofQuotient r.oppose r.total) ≤ .real (ofDecimal 10 2) ↔ _
  rw [thirty_le_iff others positive, le_ten_iff supporters positive, le_ten_iff opponents positive, not_lt,
    not_le, not_le, and_assoc]

end StanceRecord

/-- What the usual settings make of the counts of a record: whether it is an agreement zone, whether it is
a divergence point, and its agreement percentage. -/
structure DecidedByCounts (r : StanceRecord) (zone point : Bool) (percentage : ℤ) : Prop where
  zone_iff : zone = true ↔ 2 ^ 53 * (7 * r.total - 10 * r.support : ℤ) ≤ 9 * r.total
  point_iff : point = true ↔ (7 * r.total : ℤ) ≤ 2 ^ 54 * (3 * r.total - 10 * r.nuanced) ∧
    (9 * r.total : ℤ) < 2 ^ 56 * (10 * r.support - r.total) ∧
      (9 * r.total : ℤ) < 2 ^ 56 * (10 * r.oppose - r.total)
  percentage_cases : percentage = roundedShare r.total r.support ∨
    percentage = roundedShare r.total r.support + 1 ∧ 2 ^ 46 * shortOfHalf r.total r.support ≤ r.total

namespace DecidedByCounts

variable {r : StanceRecord} {zone point : Bool} {percentage : ℤ}

/-- With a moderate number of participants the decisions are those of the exact shares. -/
theorem exact_of_moderate (h : DecidedByCounts r zone point percentage) (moderate : r.total ≤ 10 ^ 15) :
    (zone = true ↔ 7 * r.total ≤ 10 * r.support) ∧
      (point = true ↔ 10 * r.nuanced < 3 * r.total ∧ r.total < 10 * r.support ∧ r.total < 10 * r.oppose) := by
  have total : r.total = r.support + r.oppose + r.nuanced := rfl
  rw [h.zone_iff, h.point_iff]
  constructor <;> omega

theorem percentage_of_moderate (h : DecidedByCounts r zone point percentage) (positive : 0 < r.total)
    (moderate : r.total < 2 ^ 46) : percentage = roundedShare r.total r.support := by
  rcases h.percentage_cases with exactly | ⟨-, short⟩
  · exact exactly
  · have below := (shortOfHalf_bounds positive r.support).1
    omega

end DecidedByCounts

/-- **The usual settings decide by inequalities of the counts, whatever their size.**  These are the exact
ones up to a thousand million millions of participants, and the percentage is the share rounded half up below
`2 ^ 46` of them; beyond, a share that hardly falls short of a threshold or of a half counts as reaching it. -/
theorem decided_by_counts {r : StanceRecord} (enough : 3 ≤ r.total) :
    r.qualifies Synthesis.default.minParticipation = true ∧ ∃ zone? point? percentage,
      Synthesis.default.agreementZone? r = .ok zone? ∧ Divergence.default.point? r = .ok point? ∧
      agreementPercentage (.whole r.support) (.whole r.oppose) (.whole r.nuanced) = .ok (some percentage) ∧
      (∀ zone ∈ zone?, zone.percentage = percentage) ∧
      DecidedByCounts r zone?.isSome point?.isSome percentage ∧
      (r.total ≤ 10 ^ 15 → (zone?.isSome ↔ 7 * r.total ≤ 10 * r.support) ∧
        (point?.isSome ↔
          10 * r.nuanced < 3 * r.total ∧ r.total < 10 * r.support ∧ r.total < 10 * r.oppose)) ∧
      (r.total < 2 ^ 46 → percentage = (200 * r.support + r.total) / (2 * r.total)) := by
  have positive : 0 < r.total := by omega
  have counted : 0 < r.support + r.oppose + r.nuanced := positive
  have answer := agreementPercentage_eq counted
  change _ = Except.ok (some (ofRat (percentOf r.total r.support + 1 / 2)).toRat.floor) at answer
  set percentage := (ofRat (percentOf r.total r.support + 1 / 2)).toRat.floor with rounded
  obtain ⟨zone?, zoned, isZone, told⟩ := Synthesis.exists_zone Synthesis.default answer
  obtain ⟨point?, split, isPoint⟩ := Divergence.exists_answer Divergence.default r
  have decided : DecidedByCounts r zone?.isSome point?.isSome percentage :=
    { zone_iff := by rw [isZone, StanceRecord.isAgreement_default_iff positive]
      point_iff := by rw [isPoint, StanceRecord.isSplit_default_iff enough]
      percentage_cases := roundedPercentage_cases (by unfold StanceRecord.total; omega) positive }
  refine ⟨StanceRecord.qualifies_default enough, zone?, point?, percentage, zoned, split, answer, told, decided,
    decided.exact_of_moderate, fun moderate => ?_⟩
  rw [decided.percentage_of_moderate positive moderate, roundedShare]
  push_cast
  rfl

/-- One supporter short of seven tenths of a thousand million millions, and one opponent more than a tenth. -/
def oneShort : StanceRecord :=
  { id := "p1", statement := "Libraries should open on Sundays.", support := 7 * 10 ^ 14 - 1,
    oppose := 10 ^ 14 + 1, nuanced := 2 * 10 ^ 14, consensus := none, alignments := [] }

theorem oneShort_decided : 3 ≤ oneShort.total ∧
    oneShort.qualifies Synthesis.default.minParticipation = true ∧ ∃ point, ∃ percentage,
      Synthesis.default.agreementZone? oneShort = .ok none ∧
      Divergence.default.point? oneShort = .ok (some point) ∧
      agreementPercentage (.whole oneShort.support) (.whole oneShort.oppose) (.whole oneShort.nuanced) =
        .ok (some percentage) ∧ DecidedByCounts oneShort false true percentage := by
  have enough : 3 ≤ oneShort.total := by decide
  obtain ⟨qualifies, zone?, point?, percentage, zone, point, answer, -, decided, exactly, -⟩ :=
    decided_by_counts enough
  obtain ⟨zone_iff, point_iff⟩ := exactly (by decide)
  have notZone : zone? = none := by
    rw [← Option.not_isSome_iff_eq_none, zone_iff]
    decide
  obtain ⟨p, rfl⟩ := Option.isSome_iff_exists.1 (point_iff.2 (by decide))
  subst notZone
  exact ⟨enough, qualifies, p, percentage, zone, point, answer, decided⟩

/-- More than one in two hundred is against, and the percentage of support is a hundred. -/
theorem nearHalf_rounded_up :
    (agreementPercentage (.whole 70016900456910) (.whole 351843720889) (.whole 0) = .ok (some 100)) ∧
      roundedShare (70016900456910 + 351843720889 + 0) 70016900456910 = 99 := by
  decide +kernel

end Deliberation
