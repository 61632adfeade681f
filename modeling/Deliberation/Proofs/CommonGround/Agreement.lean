/-
# Proofs.CommonGround.Agreement -- more support never lowers agreement

Counts favour a proposition more than others if it has as many supporters or more, and nobody else was added
(`Headcount.Favours`): a supporter joined, an opponent or a nuanced participant left, or came to support.
Then the share of support is no smaller, and every rounding on the way to a percentage keeps the order:
that of the quotient, that of the sum with one half, and the floor (`Headcount.percentage_le_percentage`).

A threshold is compared with the share itself, so what reached it still does (`isAgreement_of_favours`).  A
new supporter also adds to the participants, so that an agreement zone of a report stays one
(`agreement_grows_with_support`).
-/
import Deliberation.Proofs.CommonGround.Contributions
import Deliberation.Proofs.CommonGround.Quotas

set_option autoImplicit false

namespace Deliberation

open Binary64

/-- How many participants took each stance. -/
structure Headcount where
  support : ℕ
  oppose : ℕ
  nuanced : ℕ

namespace Headcount

variable {c c' : Headcount}

def total (c : Headcount) : ℕ := c.support + c.oppose + c.nuanced

/-- The share of support as a whole percentage. -/
def percentage (c : Headcount) : Except NumberFault (Option ℤ) :=
  agreementPercentage (.whole c.support) (.whole c.oppose) (.whole c.nuanced)

/-- Supporters may have been added to the first counts, and others taken away or won over. -/
structure Favours (c c' : Headcount) : Prop where
  support : c.support ≤ c'.support
  oppose : c'.oppose ≤ c.oppose
  nuanced : c'.nuanced ≤ c.nuanced

theorem support_le_total (c : Headcount) : c.support ≤ c.total := by
  unfold total
  omega

/-- The share of support does not fall. -/
theorem share_le_share (positive : 0 < c.total) (positive' : 0 < c'.total) (more : c.Favours c') :
    (c.support : ℚ) / c.total ≤ c'.support / c'.total := by
  rw [div_le_div_iff₀ (by exact_mod_cast positive) (by exact_mod_cast positive')]
  have others : c.support * (c'.oppose + c'.nuanced) ≤ c'.support * (c.oppose + c.nuanced) :=
    Nat.mul_le_mul more.support (Nat.add_le_add more.oppose more.nuanced)
  have crosswise : c.support * c'.total ≤ c'.support * c.total := by
    unfold total
    linarith
  exact_mod_cast crosswise

/-- The double nearest to the share in points does not fall. -/
theorem percentOf_le_percentOf (positive : 0 < c.total) (positive' : 0 < c'.total) (more : c.Favours c') :
    percentOf c.total c.support ≤ percentOf c'.total c'.support := by
  refine toRat_ofRat_mono ?_ (share_fits c.support_le_total) (share_fits c'.support_le_total)
  rw [mul_div_assoc, mul_div_assoc]
  exact mul_le_mul_of_nonneg_left (share_le_share positive positive' more) (by norm_num)

/-- One half more than a percentage is far from overflow. -/
theorem percentOf_add_half_fits (c : Headcount) : |percentOf c.total c.support + 1 / 2| < overflow := by
  obtain ⟨q, same, -, nonneg, bound⟩ := upTo_percentOf c.support_le_total
  obtain rfl := Binary64.finite.inj same
  rw [abs_of_nonneg (by linarith)]
  calc percentOf c.total c.support + 1 / 2 ≤ 2 ^ 7 := by linarith
    _ < overflow := two_pow_lt_overflow (by norm_num)

/-- **A percentage of support does not fall** where supporters are added and others are not. -/
theorem percentage_le_percentage (positive : 0 < c.total) (positive' : 0 < c'.total) (more : c.Favours c') :
    ∃ p p', c.percentage = .ok (some p) ∧ c'.percentage = .ok (some p') ∧ p ≤ p' := by
  refine ⟨_, _, agreementPercentage_eq positive, agreementPercentage_eq positive', ?_⟩
  have sums := toRat_ofRat_mono (add_le_add_left (percentOf_le_percentOf positive positive' more) (1 / 2))
    c.percentOf_add_half_fits c'.percentOf_add_half_fits
  exact Rat.le_floor_iff.2 ((Rat.floor_le _).trans sums)

/-- **There is a percentage exactly where anybody took a stance**, and it is one of a hundred. -/
theorem exists_percentage (c : Headcount) : ∃ p?, c.percentage = .ok p? ∧
    (p? = none ↔ c.total = 0) ∧ ∀ p ∈ p?, 0 ≤ p ∧ p ≤ 100 := by
  rcases Nat.eq_zero_or_pos c.total with nobody | positive
  · refine ⟨none, ?_, iff_of_true rfl nobody, by simp⟩
    unfold total at nobody
    rw [percentage, agreementPercentage_whole, if_pos (by omega)]
  · obtain ⟨p, few, answer⟩ := exists_agreementPercentage positive
    refine ⟨some p, answer, iff_of_false (by simp) positive.ne', ?_⟩
    rintro _ ⟨⟩
    omega

end Headcount

/-- The counts of a record. -/
def StanceRecord.headcount (r : StanceRecord) : Headcount := ⟨r.support, r.oppose, r.nuanced⟩

theorem StanceRecord.total_headcount (r : StanceRecord) : r.headcount.total = r.total := rfl

theorem StanceRecord.support_shares (r : StanceRecord) :
    r.shares.support = ofRat ((r.headcount.support : ℚ) / r.headcount.total) := by
  rw [total_headcount]
  simp only [shares, headcount, ofQuotient, Rat.mkRat_eq_div, Int.cast_natCast]

namespace Synthesis

variable {s : Synthesis} {r r' : StanceRecord} {records : List StanceRecord} {zone : AgreementZone}

/-- Whatever the threshold, a share of support that reaches it still does. -/
theorem isAgreement_of_favours (positive : 0 < r.headcount.total) (positive' : 0 < r'.headcount.total)
    (more : r.headcount.Favours r'.headcount) (h : s.isAgreement r = true) : s.isAgreement r' = true := by
  rw [isAgreement, decide_eq_true_eq] at h ⊢
  have shares : r.shares.support ≤ r'.shares.support := by
    rw [r.support_shares, r'.support_shares]
    exact ofRat_mono (Headcount.share_le_share positive positive' more)
  exact Binary64.le_trans h shares

/-- The zone of a record that qualifies is one of the report. -/
theorem mem_agreementZones (member : r ∈ records) (qualifies : r.qualifies s.minParticipation = true)
    (zoned : s.agreementZone? r = .ok (some zone)) {report : SynthesisReport}
    (h : s.report records = .ok report) : zone ∈ report.agreementZones := by
  obtain ⟨zones, answered, h⟩ := bind_eq_ok_iff.1 h
  obtain ⟨consensus, -, h⟩ := bind_eq_ok_iff.1 h
  obtain rfl := Except.ok.inj h
  obtain ⟨zone?, each, rest⟩ := bind_eq_ok_iff.1 answered
  obtain rfl := Except.ok.inj rest
  obtain ⟨found, listed, same⟩ :=
    exists_answer_of_mapM each (List.mem_filter.2 ⟨member, qualifies⟩)
  obtain rfl := Except.ok.inj (zoned.symm.trans same)
  exact List.mem_mergeSort.2 (List.mem_filterMap.2 ⟨some zone, listed, rfl⟩)

theorem positive_of_qualifies {least : Number} (h : r.qualifies least = true) : 0 < r.headcount.total := by
  simp only [StanceRecord.qualifies, Bool.and_eq_true, decide_eq_true_eq] at h
  exact h.1

/-- A record with more participants qualifies as well. -/
theorem qualifies_of_le (more : r.total ≤ r'.total) (h : r.qualifies s.minParticipation = true) :
    r'.qualifies s.minParticipation = true := by
  simp only [StanceRecord.qualifies, Bool.and_eq_true, decide_eq_true_eq] at h ⊢
  exact ⟨by omega, Number.le_trans h.2 (finite_le_finite (by exact_mod_cast more))⟩

/-- **A zone stays a zone** under any thresholds, where supporters join and nobody else does: its percentage
does not fall, and every report on a list with the record tells of it. -/
theorem exists_zone_of_joined (qualifies : r.qualifies s.minParticipation = true)
    (zoned : s.agreementZone? r = .ok (some zone)) (joined : r.support ≤ r'.support)
    (opponents : r'.oppose = r.oppose) (others : r'.nuanced = r.nuanced) :
    r'.qualifies s.minParticipation = true ∧ ∃ zone', s.agreementZone? r' = .ok (some zone') ∧
      zone.percentage ≤ zone'.percentage ∧
      ∀ records report, r' ∈ records → s.report records = .ok report → zone' ∈ report.agreementZones := by
  have larger : r.total ≤ r'.total := by
    unfold StanceRecord.total
    omega
  have positive : 0 < r.headcount.total := positive_of_qualifies qualifies
  have positive' : 0 < r'.headcount.total := positive_of_qualifies (qualifies_of_le larger qualifies)
  have more : r.headcount.Favours r'.headcount := ⟨joined, opponents.le, others.le⟩
  obtain ⟨p, p', percentage, percentage', le⟩ := Headcount.percentage_le_percentage positive positive' more
  obtain ⟨zone?, answer, isZone, told⟩ := exists_zone s percentage
  obtain ⟨zone?', answer', isZone', told'⟩ := exists_zone s percentage'
  obtain rfl := Except.ok.inj (zoned.symm.trans answer)
  have agrees := isAgreement_of_favours positive positive' more isZone.symm
  obtain ⟨zone', rfl⟩ := Option.isSome_iff_exists.1 (isZone'.trans agrees)
  have qualifies' := qualifies_of_le larger qualifies
  refine ⟨qualifies', zone', answer', ?_, fun records report member reported => ?_⟩
  · rwa [told zone rfl, told' zone' rfl]
  · exact mem_agreementZones member qualifies' answer' reported

end Synthesis

/-- **More support never lowers agreement.**  Counts of any size have a percentage exactly where anybody took
a stance, and it is one of a hundred; it does not fall where a supporter joins, or an opponent or a nuanced
participant comes to support, and does not rise where one of those joins.  A proposition that qualifies and is
an agreement zone, under any thresholds, is one of every report when a supporter has joined. -/
theorem agreement_grows_with_support :
    (∀ c : Headcount, ∃ p?, c.percentage = .ok p? ∧ (p? = none ↔ c.total = 0) ∧
      ∀ p ∈ p?, 0 ≤ p ∧ p ≤ 100) ∧
    (∀ c c' : Headcount, 0 < c.total → 0 < c'.total → c.Favours c' →
      ∃ p p', c.percentage = .ok (some p) ∧ c'.percentage = .ok (some p') ∧ p ≤ p') ∧
    ∀ (s : Synthesis) (r r' : StanceRecord) (zone : AgreementZone),
      r.qualifies s.minParticipation = true → s.agreementZone? r = .ok (some zone) →
      r'.headcount = { r.headcount with support := r.support + 1 } →
      r'.qualifies s.minParticipation = true ∧ ∃ zone', s.agreementZone? r' = .ok (some zone') ∧
        zone.percentage ≤ zone'.percentage ∧
        ∀ records report, r' ∈ records → s.report records = .ok report →
          zone' ∈ report.agreementZones := by
  refine ⟨Headcount.exists_percentage, fun c c' => Headcount.percentage_le_percentage, ?_⟩
  intro s r r' zone qualifies zoned joined
  obtain ⟨support, oppose, nuanced⟩ := Headcount.mk.inj joined
  exact Synthesis.exists_zone_of_joined qualifies zoned (by omega) oppose nuanced

/-- Seven of ten, which is as much as the usual threshold asks for. -/
def sevenOfTen : StanceRecord where
  id := "p1"
  statement := "Libraries should open on Sundays."
  support := 7
  oppose := 2
  nuanced := 1
  consensus := none
  alignments := []

/-- An opponent of eight comes to support, which rounds half a point up before, and a supporter joins seven
of ten. -/
theorem sevenOfTen_joined :
    0 < (⟨1, 7, 0⟩ : Headcount).total ∧ 0 < (⟨2, 6, 0⟩ : Headcount).total ∧
      (⟨1, 7, 0⟩ : Headcount).Favours ⟨2, 6, 0⟩ ∧
      (∃ p, (⟨2, 6, 0⟩ : Headcount).percentage = .ok (some p) ∧ 13 ≤ p) ∧
      sevenOfTen.qualifies Synthesis.default.minParticipation = true ∧
      { sevenOfTen with support := 8 }.qualifies Synthesis.default.minParticipation = true ∧
      ∃ zone zone', Synthesis.default.agreementZone? sevenOfTen = .ok (some zone) ∧
        Synthesis.default.agreementZone? { sevenOfTen with support := 8 } = .ok (some zone') ∧
        70 ≤ zone'.percentage := by
  obtain ⟨-, grows, zones⟩ := agreement_grows_with_support
  have turned : (⟨1, 7, 0⟩ : Headcount).Favours ⟨2, 6, 0⟩ := ⟨by decide, by decide, by decide⟩
  obtain ⟨p, p', before, after, le⟩ := grows ⟨1, 7, 0⟩ ⟨2, 6, 0⟩ (by decide) (by decide) turned
  have thirteen : (⟨1, 7, 0⟩ : Headcount).percentage = .ok (some 13) := by decide +kernel
  obtain rfl : p = 13 := by simpa using before.symm.trans thirteen
  have qualifies : sevenOfTen.qualifies Synthesis.default.minParticipation = true := by decide +kernel
  have zoned : Synthesis.default.agreementZone? sevenOfTen =
      .ok (some ⟨"Libraries should open on Sundays.", 70, [], 7⟩) := by decide +kernel
  obtain ⟨qualifies', zone', zoned', above, -⟩ :=
    zones Synthesis.default sevenOfTen { sevenOfTen with support := 8 } _ qualifies zoned rfl
  exact ⟨by decide, by decide, turned, ⟨p', after, le⟩, qualifies, qualifies', _, zone', zoned, zoned', above⟩

end Deliberation
