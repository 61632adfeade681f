/-
# CommonGround.Tally -- shares, percentages and polarization

The arithmetic of stances.  A share is a quotient of two counts as a double; counts are whole numbers
as a rule, and their quotients rounded once (`agreementPercentage_whole`, `derivedConsensus_whole`).
`agreementPercentage` rounds halves up; `apportion` gives whole percentages that add up to a hundred,
the leftover points going to the largest remainders and, among equal ones, to the earlier count.
-/
import Deliberation.Number.Rounding
import Deliberation.Text.Basic

set_option autoImplicit false

namespace Deliberation

/-- The share of support as a whole percentage, halves up; none where nobody has taken a stance. -/
def agreementPercentage (support oppose nuanced : Number) : Except NumberFault (Option Int) := do
  let total ← (← support.add oppose).add nuanced
  if total.isZero then return none
  let exact ← (← (Number.whole 100).mul support).div total
  return some (← (← (Number.real exact).roundHalfUp 0).truncate)

theorem agreementPercentage_whole (support oppose nuanced : Int) :
    agreementPercentage (.whole support) (.whole oppose) (.whole nuanced) =
      if support + oppose + nuanced = 0 then .ok none
      else do
        let exact ← Binary64.ofRatio (100 * support) (support + oppose + nuanced)
        return some (← (← (Number.real exact).roundHalfUp 0).truncate) := by
  simp only [agreementPercentage, Number.add_whole, Number.mul_whole, Number.isZero_whole,
    decide_eq_true_eq, bind, Except.bind, pure, Except.pure]
  split
  · rfl
  · next h => rw [Number.div_whole h]

/-- A share of a total, its whole part, and what is left of it. -/
structure Quota where
  whole : Int
  remainder : Binary64

/-- A percentage of a total, split at the point. -/
def Quota.of (count total : Number) : Except NumberFault Quota := do
  let exact ← (← (Number.whole 100).mul count).div total
  let whole ← exact.floor
  return ⟨whole, exact - (← Binary64.ofWhole whole)⟩

/-- The places of remainders, the largest first; of equal ones the earlier first. -/
def byRemainder (quotas : List Quota) : List Nat :=
  (quotas.zipIdx.mergeSort fun a b => !a.1.remainder.lt b.1.remainder).map (·.2)

/-- Whole percentages for each count.  The points left over after rounding down go one each to the
largest remainders, as `Text.cut` takes them.  All zero where nothing was counted. -/
def apportion (counts : List Number) : Except NumberFault (List Int) := do
  let total ← Number.sum counts
  if total.isZero then return counts.map fun _ => 0
  let quotas ← counts.mapM fun count => Quota.of count total
  let leftover := 100 - (quotas.map Quota.whole).foldr (· + ·) 0
  let raised := Text.cut leftover (byRemainder quotas)
  return quotas.zipIdx.map fun (q, i) => if raised.contains i then q.whole + 1 else q.whole

/-- The balance of support and opposition, from zero to one; one half where nobody has taken a
stance. -/
def derivedConsensus (support oppose nuanced : Number) : Except NumberFault Binary64 := do
  let total ← (← support.add oppose).add nuanced
  if total.isZero then return oneHalf
  let balance ← (← support.sub oppose).div total
  return (balance + .finite 1) / .finite 2

theorem derivedConsensus_whole (support oppose nuanced : Int) :
    derivedConsensus (.whole support) (.whole oppose) (.whole nuanced) =
      if support + oppose + nuanced = 0 then .ok oneHalf
      else do
        let balance ← Binary64.ofRatio (support - oppose) (support + oppose + nuanced)
        return (balance + .finite 1) / .finite 2 := by
  simp only [derivedConsensus, Number.add_whole, Number.sub_whole, Number.isZero_whole,
    decide_eq_true_eq, bind, Except.bind, pure, Except.pure]
  split
  · rfl
  · next h => rw [Number.div_whole h]

/-- One for an even split, falling to zero as one side dominates; to two places. -/
def polarization (supportShare opposeShare : Number) : Except NumberFault Binary64 := do
  let distance := (← supportShare.sub opposeShare).abs
  let closeness ← (Number.whole 1).sub distance
  (Number.real closeness.clampUnit).roundHalfUp 2

end Deliberation
