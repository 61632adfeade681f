/-
# Proofs.Text.Blanks -- the characters that are white space

A set of characters is searched by halving.  The search counts the bounds at or below a code point
(`countAtMost_spec`), so a character of the set lies between a bound of odd count and the next one
(`Bounds.exists_of_holds`).  The set of white space is small enough to be listed (`mem_blankChars`), and
what is asked of all of it can then be computed.
-/
import Deliberation.Text.Property.Digit
import Mathlib.Tactic.IntervalCases

set_option autoImplicit false

namespace Deliberation.Text

/-! ## Search by halving -/

/-- What the search returns lies in its interval, the key before it is low and the key at it is high. -/
theorem countAtMost_go (key : ℕ → ℕ) (c : ℕ) {fuel : ℕ} (low high : ℕ) (le : low ≤ high)
    (enough : high - low ≤ fuel) :
    let count := countAtMost.go key c fuel low high
    low ≤ count ∧ count ≤ high ∧ (low < count → key (count - 1) ≤ c) ∧
      (count < high → c < key count) := by
  induction fuel generalizing low high with
  | zero =>
      simp only [countAtMost.go]
      omega
  | succ fuel ih =>
      simp only [countAtMost.go]
      by_cases active : low < high
      · have middleLow : low ≤ (low + high) / 2 := by omega
        have middleHigh : (low + high) / 2 < high := by omega
        rw [if_pos active]
        by_cases atMost : key ((low + high) / 2) ≤ c
        · rw [if_pos atMost]
          obtain ⟨least, most, before, after⟩ :=
            ih ((low + high) / 2 + 1) high (by omega) (by omega)
          refine ⟨by omega, most, fun _ => ?_, after⟩
          -- the key at the middle is the last one known to be low
          by_cases beyond : (low + high) / 2 + 1 < countAtMost.go key c fuel ((low + high) / 2 + 1) high
          · exact before beyond
          · have here : countAtMost.go key c fuel ((low + high) / 2 + 1) high - 1 = (low + high) / 2 := by
              omega
            rw [here]
            exact atMost
        · rw [if_neg atMost]
          obtain ⟨least, most, before, after⟩ :=
            ih low ((low + high) / 2) middleLow (by omega)
          refine ⟨least, by omega, before, fun _ => ?_⟩
          by_cases inside : countAtMost.go key c fuel low ((low + high) / 2) < (low + high) / 2
          · exact after inside
          · have here : countAtMost.go key c fuel low ((low + high) / 2) = (low + high) / 2 := by omega
            rw [here]
            omega
      · rw [if_neg active]
        omega

theorem countAtMost_spec (key : ℕ → ℕ) (size c : ℕ) :
    countAtMost key size c ≤ size ∧ (0 < countAtMost key size c → key (countAtMost key size c - 1) ≤ c) ∧
      (countAtMost key size c < size → c < key (countAtMost key size c)) := by
  obtain ⟨-, most, before, after⟩ := countAtMost_go key c 0 size (Nat.zero_le size) le_rfl
  exact ⟨most, before, after⟩

/-- A character of a set lies from a bound of odd count on, and before the next one. -/
theorem Bounds.exists_of_holds {bounds : Bounds} {c : Char} (h : bounds.holds c = true) :
    ∃ k, k % 2 = 1 ∧ k ≤ bounds.size ∧ bounds[k - 1]?.getD 0 ≤ c.toNat ∧
      (k < bounds.size → c.toNat < bounds[k]?.getD 0) := by
  obtain ⟨most, before, after⟩ := countAtMost_spec (fun i => bounds[i]?.getD 0) bounds.size c.toNat
  have odd := of_decide_eq_true h
  exact ⟨_, odd, most, before (by omega), after⟩

/-! ## White space -/

/-- The code points of white space. -/
def blankCodes : List ℕ := [
  9, 10, 11, 12, 13, 28, 29, 30, 31, 32, 0x85, 0xA0, 0x1680, 0x2000, 0x2001, 0x2002, 0x2003, 0x2004,
  0x2005, 0x2006, 0x2007, 0x2008, 0x2009, 0x200A, 0x2028, 0x2029, 0x202F, 0x205F, 0x3000]

def blankChars : List Char := blankCodes.map Char.ofNat

theorem toNat_mem_blankCodes {c : Char} (h : isBlank c = true) : c.toNat ∈ blankCodes := by
  simp only [blankCodes, List.mem_cons, List.not_mem_nil, or_false]
  unfold isBlank at h
  by_cases ascii : c.toNat < 128
  · rw [if_pos ascii] at h
    simp only [Bool.or_eq_true, Bool.and_eq_true, beq_iff_eq, decide_eq_true_eq] at h
    rcases h with (rfl | _) | _
    · decide
    · omega
    · omega
  · rw [if_neg ascii] at h
    obtain ⟨k, odd, most, from_, before⟩ := Bounds.exists_of_holds h
    have size : blankBounds.size = 20 := rfl
    rw [size] at most before
    interval_cases k <;> simp [blankBounds] at odd from_ before <;> omega

/-- **White space is listed.** -/
theorem mem_blankChars {c : Char} (h : isBlank c = true) : c ∈ blankChars :=
  List.mem_map.2 ⟨c.toNat, toNat_mem_blankCodes h, Char.ofNat_toNat c⟩

end Deliberation.Text
