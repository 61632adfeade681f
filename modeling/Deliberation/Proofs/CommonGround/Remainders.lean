/-
# Proofs.CommonGround.Remainders -- who gets the points left over

Percentages are rounded down, and the points left over go to the largest remainders, among equal ones to
the earlier count (`apportion_eq`).  The tie rule favours what is named first, so that exchanging two counts
may move a point from one to the other.  The last count never takes part in that: every count that ties with
it stands before it, so its place is the number of remainders that reach its own (`placeBy_last`), in
whatever order they come.  Hence its percentage is the same for all orders of the counts before it
(`apportion_last_of_perm`).
-/
import Deliberation.Proofs.CommonGround.Precedence
import Deliberation.Proofs.CommonGround.Tally
import Mathlib.Data.List.Perm.Basic

set_option autoImplicit false

namespace Deliberation

/-! ## Leftover points -/

/-- How many items `Text.cut` keeps of a list of some length. -/
def Text.cutLength (count : Int) (length : ℕ) : ℕ :=
  if 0 ≤ count then count.toNat else length - count.natAbs

theorem Text.cut_eq_take {α : Type} (count : Int) (xs : List α) :
    Text.cut count xs = xs.take (Text.cutLength count xs.length) := by
  unfold Text.cut Text.cutLength
  split <;> rfl

/-- The remainders of counts are sorted as rationals. -/
theorem byRemainder_eq (total : ℕ) (counts : List ℕ) :
    byRemainder (counts.map (Quota.ofCount total)) =
      (counts.zipIdx.mergeSort (largerFirst (restPercent total))).map Prod.snd := by
  have mapped := List.map_mergeSort (f := Prod.map (Quota.ofCount total) (id : ℕ → ℕ))
    (r := largerFirst (restPercent total)) (s := fun a b => !a.1.remainder.lt b.1.remainder)
    (l := counts.zipIdx) fun a _ b _ => by
      change decide (restPercent total b.1 ≤ restPercent total a.1) =
        !decide (restPercent total a.1 < restPercent total b.1)
      rcases lt_or_ge (restPercent total a.1) (restPercent total b.1) with less | notLess
      · rw [decide_eq_true less, decide_eq_false (not_le.2 less), Bool.not_true]
      · rw [decide_eq_true notLess, decide_eq_false (not_lt.2 notLess), Bool.not_false]
  rw [byRemainder, List.zipIdx_map, ← mapped, List.map_map]
  rfl

/-- Only one of the numbered items has the number of an item. -/
theorem mem_map_snd_iff {α : Type} {items : List α} {chosen : List (α × ℕ)} {x : α × ℕ}
    (member : x ∈ items.zipIdx) (numbered : chosen ⊆ items.zipIdx) :
    x.2 ∈ chosen.map Prod.snd ↔ x ∈ chosen := by
  refine ⟨fun inside => ?_, fun inside => List.mem_map.2 ⟨x, inside, rfl⟩⟩
  obtain ⟨y, hy, same⟩ := List.mem_map.1 inside
  obtain rfl : y = x := List.inj_on_of_nodup_map (nodup_numbers items) (numbered hy) member same
  exact hy

/-- The points that the percentages of some counts leave over. -/
def leftover (counts : List ℕ) : ℤ := 100 - (counts.map (wholePercent counts.sum)).sum

/-- A count gets a leftover point where fewer remainders are ahead of its own than there are points. -/
def Raised (counts : List ℕ) (x : ℕ × ℕ) : Prop :=
  placeBy (restPercent counts.sum) counts x < Text.cutLength (leftover counts) counts.length

instance (counts : List ℕ) (x : ℕ × ℕ) : Decidable (Raised counts x) :=
  inferInstanceAs (Decidable (_ < _))

/-- The percentages of some counts, with the points left over. -/
def percentages (counts : List ℕ) : List ℤ :=
  counts.zipIdx.map fun x =>
    if Raised counts x then wholePercent counts.sum x.1 + 1 else wholePercent counts.sum x.1

/-- **Percentages are rounded down, and the largest remainders are raised.** -/
theorem apportion_eq {counts : List ℕ} (positive : 0 < counts.sum) :
    apportion (counts.map fun n : ℕ => Number.whole n) = .ok (percentages counts) := by
  have nonzero : (counts.sum : ℤ) ≠ 0 := by omega
  have points : 100 - ((counts.map (Quota.ofCount counts.sum)).map Quota.whole).foldr (· + ·) 0 =
      leftover counts := by
    rw [← List.sum_eq_foldr, List.map_map]
    rfl
  have raised (x : ℕ × ℕ) (member : x ∈ counts.zipIdx) :
      x.2 ∈ Text.cut (leftover counts) (byRemainder (counts.map (Quota.ofCount counts.sum))) ↔
        Raised counts x := by
    have length : (byRemainder (counts.map (Quota.ofCount counts.sum))).length = counts.length := by
      simp [byRemainder]
    rw [Text.cut_eq_take, length, byRemainder_eq, ← List.map_take,
      mem_map_snd_iff member fun a ha => List.mem_mergeSort.1 (List.mem_of_mem_take ha),
      mem_take_mergeSort_iff member]
    rfl
  unfold apportion
  rw [sum_whole, ok_bind, Number.isZero_whole, decide_eq_false nonzero, quotas_eq positive, ok_bind, points]
  simp only [Bool.false_eq_true, if_false, List.zipIdx_map, List.map_map]
  refine congrArg Except.ok (List.map_congr_left fun x member => ?_)
  simp [Quota.ofCount, raised x member]

/-! ## The last percentage -/

section

variable {counts counts' : List ℕ} {last : ℕ}

/-- The last percentage of some counts depends on the others through sums and numbers of them. -/
theorem percentages_last (counts : List ℕ) (last : ℕ) :
    (percentages (counts ++ [last]))[counts.length]? = some
      (if counts.countP (restPercent (counts ++ [last]).sum last ≤ restPercent (counts ++ [last]).sum ·) <
          Text.cutLength (leftover (counts ++ [last])) (counts ++ [last]).length
        then wholePercent (counts ++ [last]).sum last + 1 else wholePercent (counts ++ [last]).sum last) := by
  simp [percentages, Raised, placeBy_last]

theorem percentages_last_of_perm (same : counts.Perm counts') (last : ℕ) :
    (percentages (counts ++ [last]))[counts.length]? =
      (percentages (counts' ++ [last]))[counts'.length]? := by
  have perm := same.append_right [last]
  have points : leftover (counts ++ [last]) = leftover (counts' ++ [last]) := by
    rw [leftover, leftover, perm.sum_eq, (perm.map _).sum_eq]
  rw [percentages_last, percentages_last, points, perm.sum_eq, perm.length_eq, same.countP_eq]

/-- **The last percentage is the same for every order of the counts before it.** -/
theorem apportion_last_of_perm (same : counts.Perm counts') (last : ℕ) {ps ps' : List Int}
    (h : apportion ((counts ++ [last]).map fun n : ℕ => Number.whole n) = .ok ps)
    (h' : apportion ((counts' ++ [last]).map fun n : ℕ => Number.whole n) = .ok ps') :
    ps[counts.length]? = ps'[counts'.length]? := by
  have total : (counts ++ [last]).sum = (counts' ++ [last]).sum := (same.append_right [last]).sum_eq
  rcases Nat.eq_zero_or_pos (counts ++ [last]).sum with zero | positive
  · have zeros (counts : List ℕ) (ps : List Int) (zero : (counts ++ [last]).sum = 0)
        (h : apportion ((counts ++ [last]).map fun n : ℕ => Number.whole n) = .ok ps) :
        ps[counts.length]? = some 0 := by
      unfold apportion at h
      rw [sum_whole, ok_bind, zero] at h
      rw [← Except.ok.inj h]
      simp
    rw [zeros counts ps zero h, zeros counts' ps' (total ▸ zero) h']
  · rw [apportion_eq positive] at h
    rw [apportion_eq (total ▸ positive)] at h'
    rw [← Except.ok.inj h, ← Except.ok.inj h', percentages_last_of_perm same]

end

end Deliberation
