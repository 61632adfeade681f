/-
# Proofs.Number.Halves -- sums of halves in doubles

Halves are doubles up to a bound far above every threshold.  A sum of doubles therefore stands for the sum
of halves that it computes: it is that sum, or both have reached the bound (`Tracks`).  Adding keeps this
(`Tracks.add`), and so the two compare alike with every number up to the bound (`Tracks.finite_le_iff`),
also where the sum is rounded or infinite.
-/
import Deliberation.Proofs.Number.Operations

set_option autoImplicit false

namespace Deliberation

namespace Binary64

variable {x y : Binary64} {q r : ℚ} {n : ℕ}

/-- A double stands for a sum of halves: it is that sum, or both have reached a bound. -/
def Tracks (x : Binary64) (q : ℚ) : Prop :=
  (x = finite q ∧ q ≤ 2 ^ 50 ∧ ∃ n : ℕ, q = n / 2) ∨ (finite (2 ^ 50) ≤ x ∧ 2 ^ 50 ≤ q)

theorem ofRat_half (small : n ≤ 2 ^ 53) : ofRat (n / 2) = finite (n / 2) := by
  have digits : (n : ℚ) ≤ 2 ^ 53 := by exact_mod_cast small
  have representable : Representable ((n : ℚ) / 2) :=
    ⟨n, -1, by rw [zpow_neg_one]; push_cast; ring, by rw [Nat.abs_cast]; exact_mod_cast small,
      by norm_num⟩
  refine ofRat_of_representable representable (by positivity) ?_
  calc (n : ℚ) / 2 ≤ 2 ^ 53 := by linarith
    _ < overflow := two_pow_lt_overflow (by norm_num)

theorem tracks_half (n : ℕ) : Tracks (finite (n / 2)) (n / 2) := by
  rcases le_total ((n : ℚ) / 2) (2 ^ 50) with le | ge
  · exact .inl ⟨rfl, le, n, rfl⟩
  · exact .inr ⟨finite_le_finite ge, ge⟩

namespace Tracks

theorem nonneg (h : Tracks x q) : 0 ≤ q ∧ finite 0 ≤ x := by
  rcases h with ⟨rfl, -, n, rfl⟩ | ⟨large, large'⟩
  · have : (0 : ℚ) ≤ n / 2 := by positivity
    exact ⟨this, finite_le_finite this⟩
  · have zero : (0 : ℚ) ≤ 2 ^ 50 := by positivity
    exact ⟨zero.trans large', Binary64.le_trans (finite_le_finite zero) large⟩

/-- What is computed and what is meant compare alike with every number up to the bound. -/
theorem finite_le_iff (h : Tracks x q) {k : ℚ} (small : k ≤ 2 ^ 50) : finite k ≤ x ↔ k ≤ q := by
  rcases h with ⟨rfl, -⟩ | ⟨large, large'⟩
  · exact le_iff_of_isFinite rfl rfl
  · exact iff_of_true (Binary64.le_trans (finite_le_finite small) large) (small.trans large')

theorem le_finite (h : Tracks x q) {k : ℚ} (le : q ≤ k) (below : k < 2 ^ 50) : x ≤ finite k := by
  rcases h with ⟨rfl, -⟩ | ⟨-, large'⟩
  · exact finite_le_finite le
  · exact absurd (large'.trans le) (not_le.2 below)

/-- Two doubles that stand for one sum are one, or both have reached the bound. -/
theorem eq_or_large (hx : Tracks x q) (hy : Tracks y q) :
    x = y ∨ (finite (2 ^ 50) ≤ x ∧ finite (2 ^ 50) ≤ y) := by
  rcases hx with ⟨rfl, le, -⟩ | ⟨large, large'⟩
  · rcases hy with ⟨rfl, -, -⟩ | ⟨large, large'⟩
    · exact .inl rfl
    · exact .inr ⟨finite_le_finite large', large⟩
  · exact .inr ⟨large, (hy.finite_le_iff le_rfl).2 large'⟩

theorem add_large (large : finite (2 ^ 50) ≤ x) (nonneg : finite 0 ≤ y) : finite (2 ^ 50) ≤ x + y :=
  le_add_of_nonneg (representable_two_pow 50) (by positivity) (two_pow_lt_overflow (by norm_num))
    large nonneg

protected theorem add (hx : Tracks x q) (hy : Tracks y r) : Tracks (x + y) (q + r) := by
  have q0 := hx.nonneg
  have r0 := hy.nonneg
  rcases hx with ⟨rfl, le, m, rfl⟩ | ⟨large, large'⟩
  · rcases hy with ⟨rfl, le', n, rfl⟩ | ⟨large, large'⟩
    · have sum : ((m : ℚ) / 2 + n / 2) = (m + n : ℕ) / 2 := by push_cast; ring
      have small : m + n ≤ 2 ^ 53 := by
        have : ((m + n : ℕ) : ℚ) ≤ (2 ^ 53 : ℕ) := by push_cast; linarith
        exact_mod_cast this
      rw [finite_add_finite, sum, ofRat_half small]
      exact tracks_half _
    · exact .inr ⟨Binary64.add_comm .. ▸ add_large large q0.2, large'.trans (by linarith)⟩
  · exact .inr ⟨add_large large r0.2, large'.trans (by linarith)⟩

end Tracks

theorem eq_ofRat_of_ofWhole {z : Binary64} (h : ofWhole n = .ok z) : z = ofRat n := by
  unfold ofWhole at h
  split at h
  · cases h
  · exact (Except.ok.inj h).symm

theorem exists_ofWhole (fits : (n : ℚ) < overflow) : ∃ z, ofWhole n = .ok z := by
  have finite : (ofInt n).isFinite = true :=
    isFinite_ofRat (x := ((n : ℤ) : ℚ)) (by rwa [Int.cast_natCast, Nat.abs_cast])
  unfold ofWhole
  split
  · rename_i negative infinity
    rw [infinity] at finite
    exact absurd finite (by simp [isFinite])
  · exact ⟨_, rfl⟩

/-- A number of spans with the weight of their rule. -/
theorem tracks_weighted {z : Binary64} (hz : ofWhole n = .ok z) {v : ℚ} (hv : v = 1 ∨ v = 1 / 2) :
    Tracks (z * finite v) (n * v) := by
  have positive : 0 < v := by rcases hv with rfl | rfl <;> norm_num
  rcases le_total n (2 ^ 52) with small | large
  · rw [ofWhole_of_le (small.trans (by norm_num))] at hz
    obtain rfl := Except.ok.inj hz
    obtain ⟨k, le, same⟩ : ∃ k : ℕ, k ≤ 2 ^ 53 ∧ (n : ℚ) * v = k / 2 := by
      rcases hv with rfl | rfl
      · exact ⟨2 * n, by omega, by push_cast; ring⟩
      · exact ⟨n, by omega, by ring⟩
    have product : finite n * finite v = ofRat (n * v) :=
      finite_mul_finite (Nat.cast_nonneg n) positive.le
    rw [product, same, ofRat_half le]
    exact tracks_half k
  · have many : (2 : ℚ) ^ 52 ≤ n := by exact_mod_cast large
    have enough : (2 : ℚ) ^ 50 ≤ 2 ^ 52 * v := by rcases hv with rfl | rfl <;> norm_num
    have below : finite (2 ^ 52) ≤ z := by
      rw [eq_ofRat_of_ofWhole hz, ← ofRat_of_representable (representable_two_pow 52) (by positivity)
        (two_pow_lt_overflow (by norm_num))]
      exact ofRat_mono many
    have bound : finite (2 ^ 50) ≤ finite (2 ^ 52) * finite v := by
      rw [finite_mul_finite (by positivity) positive.le,
        ← ofRat_of_representable (representable_two_pow 50) (by positivity)
          (two_pow_lt_overflow (by norm_num))]
      exact ofRat_mono enough
    exact .inr ⟨Binary64.le_trans bound (mul_finite_le_mul_finite positive below),
      enough.trans (mul_le_mul_of_nonneg_right many positive.le)⟩

end Binary64

end Deliberation
