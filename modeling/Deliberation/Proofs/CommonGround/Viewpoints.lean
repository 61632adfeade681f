/-
# Proofs.CommonGround.Viewpoints -- what a divergence point says of the counts

A point gives three percentages, of support, opposition and nuance.  Whatever the settings and the counts,
they are whole numbers that add up to a hundred, and none is a full point away from the share that it stands
for (`WithinQuota.near`); the participants of the point and of its sides are the counts of the record.
-/
import Deliberation.Proofs.CommonGround.Apportionment
import Deliberation.Proofs.CommonGround.Points

set_option autoImplicit false

namespace Deliberation

variable {count total : ℕ} {points : ℤ}

theorem WithinQuota.nonneg (h : WithinQuota total count points) : 0 ≤ points := by
  rcases h with rfl | ⟨rfl, -⟩ <;> omega

/-- A share that is rounded down or up moves by less than a point. -/
theorem WithinQuota.near (h : WithinQuota total count points) (positive : 0 < total) :
    |(points : ℚ) - 100 * count / total| < 1 := by
  have low := wholeShare_le_share count positive
  have high := share_lt count positive
  rcases h with rfl | ⟨rfl, broken⟩
  · rw [abs_lt, Int.cast_natCast]
    constructor <;> linarith
  · have rest : 0 < restShare total count := Nat.pos_of_ne_zero fun whole =>
      broken (Nat.dvd_of_mod_eq_zero whole)
    have left : (0 : ℚ) < restShare total count / total := by positivity
    rw [share_eq count positive] at high ⊢
    rw [abs_lt]
    push_cast
    constructor <;> linarith

/-- Whole points that stand for the share of a count. -/
structure StandsFor (points : ℤ) (count total : ℕ) : Prop where
  nonneg : 0 ≤ points
  le_hundred : points ≤ 100
  near : |(points : ℚ) - 100 * count / total| < 1

/-- What a point says of a record. -/
structure DivergencePoint.ReportsShares (p : DivergencePoint) (r : StanceRecord) : Prop where
  hundred : p.support.percentage + p.oppose.percentage + p.nuancedPercentage = 100
  support : StandsFor p.support.percentage r.support r.total
  oppose : StandsFor p.oppose.percentage r.oppose r.total
  nuanced : StandsFor p.nuancedPercentage r.nuanced r.total
  total : p.total = r.support + r.oppose + r.nuanced
  supporters : p.support.position = "Support" ∧ p.support.participants = r.support
  opponents : p.oppose.position = "Oppose" ∧ p.oppose.participants = r.oppose

/-! ## The percentages of a record -/

namespace StanceRecord

variable (r : StanceRecord)

/-- The counts of the three stances. -/
def counts : List ℕ := [r.support, r.oppose, r.nuanced]

theorem sum_counts : r.counts.sum = r.total := by
  simp [counts, total, Nat.add_assoc]

variable {r}

theorem apportion_counts (positive : 0 < r.total) :
    apportion [.whole r.support, .whole r.oppose, .whole r.nuanced] = .ok (percentages r.counts) := by
  have counted : 0 < r.counts.sum := r.sum_counts ▸ positive
  exact apportion_eq counted

/-- The percentages of a record with stances, as they stand in its point. -/
theorem reportsShares_pointWith (positive : 0 < r.total) (polarized : Binary64) :
    (r.pointWith (percentages r.counts) polarized).ReportsShares r := by
  have few : r.counts.length < maxItems := by simp [counts, maxItems]
  have hundred := sum_percentages (r.sum_counts ▸ positive) few
  have within := withinQuota (r.sum_counts ▸ positive) few
  rw [sum_counts] at within
  generalize percentages r.counts = points at hundred within ⊢
  obtain _ | @⟨_, a, _, _, support, _ | @⟨_, b, _, _, oppose, _ | @⟨_, c, _, _, nuanced, ⟨⟩⟩⟩⟩ := within
  simp only [List.sum_cons, List.sum_nil, add_zero] at hundred
  have a0 := support.nonneg
  have b0 := oppose.nonneg
  have c0 := nuanced.nonneg
  exact
    { hundred := by change a + b + c = 100; omega
      support := ⟨a0, by change a ≤ 100; omega, support.near positive⟩
      oppose := ⟨b0, by change b ≤ 100; omega, oppose.near positive⟩
      nuanced := ⟨c0, by change c ≤ 100; omega, nuanced.near positive⟩
      total := rfl
      supporters := ⟨rfl, rfl⟩
      opponents := ⟨rfl, rfl⟩ }

end StanceRecord

namespace Divergence

variable {d : Divergence} {r : StanceRecord}

/-- A point reports the shares of its record. -/
theorem reportsShares_of_point {p : DivergencePoint} (answer : d.point? r = .ok (some p)) :
    p.ReportsShares r := by
  cases split : d.isSplit r with
  | false => simp [point?_of_not_split split] at answer
  | true =>
      have positive := total_pos_of_isSplit split
      obtain ⟨points, polarized, apportioned, -, -, answer'⟩ := exists_pointWith split
      obtain rfl := Except.ok.inj (apportioned.symm.trans (StanceRecord.apportion_counts positive))
      obtain rfl : r.pointWith (percentages r.counts) polarized = p := by simpa [answer'] using answer
      exact StanceRecord.reportsShares_pointWith positive polarized

/-- **Every record has an answer, a point exactly where it is split, and a point reports the shares of its
record**, whatever the settings and the counts. -/
theorem points_report_shares (d : Divergence) (r : StanceRecord) :
    ∃ p?, d.point? r = .ok p? ∧ p?.isSome = d.isSplit r ∧ ∀ p ∈ p?, p.ReportsShares r := by
  obtain ⟨p?, answer, split⟩ := exists_answer d r
  refine ⟨p?, answer, split, fun p member => ?_⟩
  obtain rfl := Option.mem_def.1 member
  exact reportsShares_of_point answer

/-- Three of seven on either side, by the thousand million millions. -/
def closeVote : StanceRecord :=
  { id := "p1", statement := "Libraries should open on Sundays.", support := 3 * 10 ^ 15,
    oppose := 3 * 10 ^ 15, nuanced := 10 ^ 15, consensus := none, alignments := [] }

theorem closeVote_reports_shares :
    ∃ p, default.point? closeVote = .ok (some p) ∧ p.ReportsShares closeVote := by
  obtain ⟨p?, answer, split, reports⟩ := points_report_shares default closeVote
  have some : default.isSplit closeVote = true := by decide +kernel
  obtain ⟨p, rfl⟩ := Option.isSome_iff_exists.1 (split.trans some)
  exact ⟨p, answer, reports p rfl⟩

end Divergence

end Deliberation
