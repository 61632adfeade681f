/-
# Proofs.CommonGround.Apportionment -- a hundred points among counts

The percentages of counts add up to a hundred, and each is its share rounded down, or rounded up where it is
not whole (`sum_percentages`, `withinQuota`).  Rounded quotients put the whole parts off by too little to
matter: together they are never more than a hundred, and they never fall short of it by more points than
there are counts with something left (`leftover_le`), so that the points left over are all given away, and
only to such counts.

Up to totals of `2 ^ 46` they go to the largest exact remainders (`restShare_le_of_raised`).  Among equal
remainders the earlier count is preferred as long as they are rounded alike (`percentages_eq`): a remainder
keeps more binary places behind fewer whole points, so that a tie between, say, 16 2/3 and 66 2/3 points goes
to the one that happens to be rounded up further.
-/
import Deliberation.Proofs.CommonGround.Quotas
import Deliberation.Proofs.CommonGround.Remainders

set_option autoImplicit false

namespace Deliberation

open Binary64

variable {counts : List ℕ} {total count : ℕ}

/-! ## Sums of whole parts -/

theorem wholePercent_nonneg (le : count ≤ total) : 0 ≤ wholePercent total count := by
  obtain ⟨n, hn, -⟩ := exists_wholePercent le
  omega

/-- A whole part that rounding has carried too far is not zero. -/
theorem wholePercent_le (le : count ≤ total) (positive : 0 < total) :
    (wholePercent total count : ℚ) ≤ 100 * count / total + wholePercent total count / 2 ^ 47 := by
  rcases wholePercent_cases le positive with floor | ⟨floor, none, -⟩
  · have below := wholeShare_le_share count positive
    rw [floor, Int.cast_natCast]
    exact below.trans (le_add_of_nonneg_right (by positivity))
  · have near := (abs_le.1 (percentOf_error le)).2
    have least : (1 : ℚ) ≤ wholePercent total count := by
      rw [floor]
      push_cast
      linarith [Nat.cast_nonneg (α := ℚ) (wholeShare total count)]
    rw [percentOf_eq, none] at near
    linarith

/-- What the whole part misses of the share: a point where something is left, and hardly anything else. -/
theorem share_le_wholePercent (le : count ≤ total) (positive : 0 < total) :
    (100 * count : ℚ) / total ≤ wholePercent total count + (if 0 < restPercent total count then 1 else 0) +
      wholePercent total count / 2 ^ 47 + 1 / 2 ^ 65 := by
  have whole0 : (0 : ℚ) ≤ wholePercent total count := by exact_mod_cast wholePercent_nonneg le
  split_ifs with left
  · have below := share_lt count positive
    rw [(wholePercent_of_rest le positive left).1, Int.cast_natCast]
    rw [(wholePercent_of_rest le positive left).1, Int.cast_natCast] at whole0
    linarith
  · have none : restPercent total count = 0 := le_antisymm (not_lt.1 left) (restPercent_nonneg _ _)
    have exactly := percentOf_eq total count
    rw [none, add_zero] at exactly
    rcases eq_or_lt_of_le (wholePercent_nonneg le) with zero | some
    · -- Only what is next to nothing is rounded to zero.
      have near := ofRat_nearest (share_fits le) (r := 1 / 2 ^ 64)
        (by simpa using representable_div (m := 1) (s := 64) (by norm_num) (by norm_num))
      have share0 : (0 : ℚ) ≤ 100 * count / total := by positivity
      change |percentOf total count - _| ≤ _ at near
      rw [exactly, ← zero, Int.cast_zero, zero_sub, abs_neg, abs_of_nonneg share0] at near
      rw [← zero, Int.cast_zero]
      rcases abs_cases ((1 : ℚ) / 2 ^ 64 - 100 * count / total) with ⟨same, -⟩ | ⟨same, -⟩ <;> linarith
    · have least : (1 : ℚ) ≤ wholePercent total count := by exact_mod_cast some
      have near := (abs_le.1 (percentOf_error le)).1
      rw [exactly] at near
      linarith

/-- The whole parts of some counts against their shares, both added up. -/
theorem sum_wholePercent (le : ∀ c ∈ counts, c ≤ total) (positive : 0 < total) :
    ((counts.map (wholePercent total)).sum : ℚ) ≤
        100 * counts.sum / total + (counts.map (wholePercent total)).sum / 2 ^ 47 ∧
      (100 * counts.sum : ℚ) / total ≤ (counts.map (wholePercent total)).sum +
        counts.countP (0 < restPercent total ·) + (counts.map (wholePercent total)).sum / 2 ^ 47 +
          counts.length / 2 ^ 65 := by
  induction counts with
  | nil => simp
  | cons c rest ih =>
      obtain ⟨small, others⟩ := List.forall_mem_cons.1 le
      obtain ⟨upper, lower⟩ := ih others
      have high := wholePercent_le small positive
      have low := share_le_wholePercent small positive
      simp only [List.map_cons, List.sum_cons, List.countP_cons, List.length_cons, decide_eq_true_eq,
        Int.cast_add, Nat.cast_add, Nat.cast_ite, Nat.cast_one, Nat.cast_zero, mul_add, add_div]
      constructor <;> linarith

section

variable (positive : 0 < counts.sum)
include positive

theorem share_of_all : (100 * counts.sum : ℚ) / counts.sum = 100 := by
  rw [mul_div_assoc, div_self (by exact_mod_cast positive.ne'), mul_one]

theorem leftover_nonneg : 0 ≤ leftover counts := by
  obtain ⟨upper, -⟩ := sum_wholePercent (fun _ => List.le_sum_of_mem) positive
  rw [share_of_all positive] at upper
  have : ((counts.map (wholePercent counts.sum)).sum : ℚ) < 101 := by linarith
  have : (counts.map (wholePercent counts.sum)).sum < 101 := by exact_mod_cast this
  unfold leftover
  omega

/-- **Fewer points are left over than there are counts with something left, or as many.** -/
theorem leftover_le (few : counts.length < maxItems) :
    leftover counts ≤ counts.countP (0 < restPercent counts.sum ·) := by
  obtain ⟨-, lower⟩ := sum_wholePercent (fun _ => List.le_sum_of_mem) positive
  have notNegative := leftover_nonneg positive
  rw [share_of_all positive] at lower
  have many : ((counts.map (wholePercent counts.sum)).sum : ℚ) ≤ 100 := by
    unfold leftover at notNegative
    exact_mod_cast (by omega : (counts.map (wholePercent counts.sum)).sum ≤ 100)
  have length : (counts.length : ℚ) < 2 ^ 63 := by exact_mod_cast few
  have : (100 : ℚ) < (counts.map (wholePercent counts.sum)).sum +
      counts.countP (0 < restPercent counts.sum ·) + 1 := by
    have : (counts.length : ℚ) / 2 ^ 65 < 2 ^ 63 / 2 ^ 65 := by gcongr
    have : ((counts.map (wholePercent counts.sum)).sum : ℚ) / 2 ^ 47 ≤ 100 / 2 ^ 47 := by gcongr
    linarith
  have : 100 < (counts.map (wholePercent counts.sum)).sum +
      counts.countP (0 < restPercent counts.sum ·) + 1 := by exact_mod_cast this
  unfold leftover
  omega

/-! ## The points left over -/

theorem cutLength_leftover : (Text.cutLength (leftover counts) counts.length : ℤ) = leftover counts := by
  rw [Text.cutLength, if_pos (leftover_nonneg positive), Int.toNat_of_nonneg (leftover_nonneg positive)]

theorem cutLength_le (few : counts.length < maxItems) :
    Text.cutLength (leftover counts) counts.length ≤ counts.countP (0 < restPercent counts.sum ·) := by
  have := leftover_le positive few
  rw [← cutLength_leftover positive] at this
  exact_mod_cast this

/-- Only a count with something left gets one of the points left over. -/
theorem rest_of_raised (few : counts.length < maxItems) {x : ℕ × ℕ} (raised : Raised counts x) :
    0 < restPercent counts.sum x.1 := by
  by_contra none
  have ahead (a : ℕ × ℕ) (_ : a ∈ counts.zipIdx) (left : decide (0 < restPercent counts.sum a.1) = true) :
      Ahead (restPercent counts.sum) a x := .inl ((not_lt.1 none).trans_lt (of_decide_eq_true left))
  exact absurd (countP_le_placeBy ahead)
    (not_le.2 (raised.trans_le (cutLength_le positive few)))

omit positive in
theorem sum_map_raised {α : Type} (f : α → ℤ) (p : α → Prop) [DecidablePred p] (xs : List α) :
    (xs.map fun x => if p x then f x + 1 else f x).sum = (xs.map f).sum + xs.countP (p ·) := by
  induction xs with
  | nil => rfl
  | cons x rest ih =>
      rw [List.map_cons, List.sum_cons, ih, List.map_cons, List.sum_cons, List.countP_cons]
      by_cases h : p x
      · simp only [if_pos h, decide_eq_true h, if_true]
        push_cast
        ring
      · simp only [if_neg h, decide_eq_false h]
        push_cast
        ring

/-- **The percentages add up to a hundred.** -/
theorem sum_percentages (few : counts.length < maxItems) : (percentages counts).sum = 100 := by
  have given : counts.zipIdx.countP (Raised counts ·) = Text.cutLength (leftover counts) counts.length :=
    countP_placeBy_lt ((cutLength_le positive few).trans List.countP_le_length)
  calc (percentages counts).sum
      = (counts.zipIdx.map fun x => wholePercent counts.sum x.1).sum +
          counts.zipIdx.countP (Raised counts ·) := sum_map_raised _ (Raised counts) _
    _ = (counts.map (wholePercent counts.sum)).sum + leftover counts := by
      rw [map_zipIdx, given, cutLength_leftover positive]
    _ = 100 := by
      rw [leftover]
      ring

end

/-- A count gets the whole points in its share, or one more where the share is not whole. -/
def WithinQuota (total count : ℕ) (points : ℤ) : Prop :=
  points = wholeShare total count ∨ points = wholeShare total count + 1 ∧ ¬total ∣ 100 * count

/-- **Every percentage is its share, rounded down or up.** -/
theorem withinQuota (positive : 0 < counts.sum) (few : counts.length < maxItems) :
    List.Forall₂ (WithinQuota counts.sum) counts (percentages counts) := by
  have each : List.Forall₂ (WithinQuota counts.sum) (counts.zipIdx.map Prod.fst) (percentages counts) := by
    rw [percentages, List.forall₂_map_left_iff, List.forall₂_map_right_iff, List.forall₂_same]
    intro x member
    have le : x.1 ≤ counts.sum := List.le_sum_of_mem (mem_of_mem_zipIdx member)
    split_ifs with raised
    · obtain ⟨floor, broken⟩ := wholePercent_of_rest le positive (rest_of_raised positive few raised)
      exact .inr ⟨by rw [floor], broken⟩
    · rcases wholePercent_cases le positive with floor | ⟨floor, -, broken⟩
      · exact .inl floor
      · exact .inr ⟨floor, broken⟩
  rwa [List.zipIdx_map_fst] at each

/-! ## Moderate totals -/

/-- Each count gets the whole points in its share, and the points left over go one each to the largest
remainders, among equal ones to the earlier count. -/
def largestRemainders (counts : List ℕ) : List ℕ :=
  counts.zipIdx.map fun x =>
    if placeBy (restShare counts.sum) counts x < 100 - (counts.map (wholeShare counts.sum)).sum
      then wholeShare counts.sum x.1 + 1 else wholeShare counts.sum x.1

/-- Equal remainders are rounded alike where they are multiples of `2 ^ -46`, and behind whole points with
as many binary digits. -/
def TiesAlike (counts : List ℕ) : Prop :=
  ∀ a ∈ counts, ∀ b ∈ counts, restShare counts.sum a = restShare counts.sum b →
    counts.sum ∣ 2 ^ 46 * restShare counts.sum a ∨
      (wholeShare counts.sum a).size = (wholeShare counts.sum b).size

instance (counts : List ℕ) : Decidable (TiesAlike counts) :=
  inferInstanceAs (Decidable (∀ a ∈ counts, ∀ b ∈ counts, _ → _ ∨ _))

section

variable (positive : 0 < counts.sum) (moderate : counts.sum < 2 ^ 46)
include positive moderate

/-- **No count is raised with a smaller remainder than that of a count that is not.** -/
theorem restShare_le_of_raised {a b : ℕ × ℤ} (ha : a ∈ counts.zip (percentages counts))
    (hb : b ∈ counts.zip (percentages counts)) (up : wholeShare counts.sum a.1 < a.2)
    (down : b.2 = wholeShare counts.sum b.1) : restShare counts.sum b.1 ≤ restShare counts.sum a.1 := by
  have numbered {a : ℕ × ℤ} (ha : a ∈ counts.zip (percentages counts)) : ∃ x ∈ counts.zipIdx, a =
      (x.1, if Raised counts x then (wholeShare counts.sum x.1 + 1 : ℤ) else wholeShare counts.sum x.1) := by
    have paired : counts.zip (percentages counts) = (counts.zipIdx.map Prod.fst).zip (percentages counts) := by
      rw [List.zipIdx_map_fst]
    rw [paired, percentages, List.zip_map', List.mem_map] at ha
    obtain ⟨x, member, rfl⟩ := ha
    have floor := wholePercent_of_lt (List.le_sum_of_mem (mem_of_mem_zipIdx member)) positive moderate
    exact ⟨x, member, by simp only [floor]⟩
  obtain ⟨x, hx, rfl⟩ := numbered ha
  obtain ⟨y, hy, rfl⟩ := numbered hb
  have raised : Raised counts x := by
    by_contra notRaised
    rw [if_neg notRaised] at up
    exact up.false
  have notRaised : ¬Raised counts y := fun raised => by
    rw [if_pos raised] at down
    exact absurd down (succ_ne_self _)
  by_contra less
  have ahead : Ahead (restPercent counts.sum) y x :=
    .inl (restPercent_lt (List.le_sum_of_mem (mem_of_mem_zipIdx hx))
      (List.le_sum_of_mem (mem_of_mem_zipIdx hy)) positive moderate (not_le.1 less))
  exact notRaised ((placeBy_mono ahead).trans_lt raised)

theorem cutLength_of_moderate :
    Text.cutLength (leftover counts) counts.length = 100 - (counts.map (wholeShare counts.sum)).sum := by
  have each : counts.map (wholePercent counts.sum) =
      (counts.map (wholeShare counts.sum)).map fun n : ℕ => (n : ℤ) := by
    rw [List.map_map]
    exact List.map_congr_left fun c member =>
      wholePercent_of_lt (List.le_sum_of_mem member) positive moderate
  have missing : leftover counts = 100 - ((counts.map (wholeShare counts.sum)).sum : ℕ) := by
    rw [leftover, each, ← Nat.coe_castAddMonoidHom, map_list_sum]
  have points := cutLength_leftover positive
  omega

/-- **Where equal remainders are rounded alike, the percentages are those of the largest remainders.** -/
theorem percentages_eq (alike : TiesAlike counts) :
    percentages counts = (largestRemainders counts).map fun n : ℕ => (n : ℤ) := by
  have le {c : ℕ} (member : c ∈ counts) : c ≤ counts.sum := List.le_sum_of_mem member
  have less (a : ℕ) (ha : a ∈ counts) (b : ℕ) (hb : b ∈ counts)
      (less : restShare counts.sum a < restShare counts.sum b) :=
    restPercent_lt (le ha) (le hb) positive moderate less
  have ties (a : ℕ) (ha : a ∈ counts) (b : ℕ) (hb : b ∈ counts)
      (same : restShare counts.sum a = restShare counts.sum b) :
      restPercent counts.sum a = restPercent counts.sum b := by
    rcases alike a ha b hb same with divides | digits
    · exact restPercent_of_dvd (le ha) (le hb) positive moderate same divides
    · exact restPercent_of_size (le ha) (le hb) positive moderate same digits
  rw [percentages, largestRemainders, List.map_map]
  refine List.map_congr_left fun x member => ?_
  have floor := wholePercent_of_lt (le (mem_of_mem_zipIdx member)) positive moderate
  simp only [Raised, ← placeBy_congr less ties member, cutLength_of_moderate positive moderate, floor,
    Function.comp_apply, Nat.cast_ite, Nat.cast_add, Nat.cast_one]

end

/-! ## The percentages of counts -/

/-- What percentages are to counts. -/
structure Apportions (counts : List ℕ) (points : List ℤ) : Prop where
  sum_eq : points.sum = 100
  within : List.Forall₂ (WithinQuota counts.sum) counts points
  /-- Up to moderate totals the largest exact remainders are raised. -/
  ordered : counts.sum < 2 ^ 46 → ∀ a ∈ counts.zip points, ∀ b ∈ counts.zip points,
    wholeShare counts.sum a.1 < a.2 → b.2 = wholeShare counts.sum b.1 →
      restShare counts.sum b.1 ≤ restShare counts.sum a.1
  /-- Nothing is left open where equal remainders are rounded alike. -/
  exact : counts.sum < 2 ^ 46 → TiesAlike counts →
    points = (largestRemainders counts).map fun n : ℕ => (n : ℤ)

/-- **Percentages of counts of any size apportion a hundred points**: they add up, each is the share rounded
down or up, and up to moderate totals the points left over go to the largest remainders, among those that
are rounded alike to the earlier count. -/
theorem apportions_hundred {counts : List ℕ} (positive : 0 < counts.sum)
    (few : counts.length < maxItems) :
    ∃ points, apportion (counts.map fun n : ℕ => Number.whole n) = .ok points ∧
      Apportions counts points :=
  ⟨percentages counts, apportion_eq positive,
    { sum_eq := sum_percentages positive few
      within := withinQuota positive few
      ordered := fun moderate _ ha _ hb => restShare_le_of_raised positive moderate ha hb
      exact := fun moderate => percentages_eq positive moderate }⟩

/-- Three counts have equal remainders, and two points are left over for the first two. -/
theorem tiedSevenths_apportioned :
    (0 < [2, 2, 2, 1].sum ∧ [2, 2, 2, 1].length < maxItems) ∧
      TiesAlike [2, 2, 2, 1] ∧ largestRemainders [2, 2, 2, 1] = [29, 29, 28, 14] ∧
      ∃ points, apportion ([2, 2, 2, 1].map fun n : ℕ => Number.whole n) = .ok points ∧
        Apportions [2, 2, 2, 1] points :=
  ⟨by decide, by decide +kernel, by decide +kernel, apportions_hundred (by decide) (by decide)⟩

/-- Of three counts with equal remainders, the second one misses its point: two thirds are rounded up further
behind 66 than behind 16. -/
theorem tiedSixths_favour_last :
    apportion ([1, 1, 4].map fun n : ℕ => Number.whole n) = .ok [17, 16, 67] ∧
      largestRemainders [1, 1, 4] = [17, 17, 66] := by
  rw [apportion_eq (by decide)]
  decide +kernel

end Deliberation
