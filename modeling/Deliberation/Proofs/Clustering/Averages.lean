/-
# Proofs.Clustering.Averages -- averages of a run in doubles

Similarities are doubles from the unit interval.  As long as there are fewer than `maxItems` items, the
averages of a run are finite (`Regular.upTo_averages`).  So they compare as rationals do, the best merge
is the first of the greatest (`Regular.best?_eq_some_iff`), and a worse one ends where the best one ends
(`ends_of_average_le`).  Items that are not alike at all have the average zero
(`Regular.average_eq_zero`), which ends under every threshold above the slack.

Two clusters have at most `2 ^ 126` pairs of items between them, and a sum of `k` similarities is at most
`k ^ 2`; hence the bound `2 ^ 252`, far from overflow.
-/
import Deliberation.Proofs.Clustering.Linked
import Deliberation.Proofs.Number.Order

set_option autoImplicit false

namespace Deliberation

open Binary64

/-- Similarities of a possible number of items. -/
structure Grid.Bounded {n : ℕ} (sim : Grid Binary64 n) : Prop where
  symmetric : sim.Symmetric
  unit : ∀ i k, UpTo 1 (sim i k)
  few : n < maxItems

/-! ## Where merging ends -/

theorem ends_iff {best t : Binary64} :
    Averaging.ends best t = true ↔ best.isFinite = false ∨ best + linkageSlack < t := by
  change (!best.isFinite || (best + linkageSlack).lt t) = true ↔ _
  rw [Bool.or_eq_true, Bool.not_eq_true']
  exact Iff.rfl

/-- What ends under a threshold ends under a higher one. -/
theorem ends_of_le {low high best : Binary64} (le : low ≤ high)
    (h : Averaging.ends best low = true) : Averaging.ends best high = true := by
  rw [ends_iff] at h ⊢
  rcases h with infinite | below
  · exact .inl infinite
  · exact .inr (lt_of_lt_of_le below le)

theorem upTo_linkageSlack : UpTo 1 linkageSlack := upTo_ofDecimal (by norm_num)

theorem finite_add_le {a b s : ℚ} (le : a ≤ b) (a0 : 0 ≤ a) (s0 : 0 ≤ s)
    (fits : b + s < overflow) : finite a + finite s ≤ finite b + finite s := by
  have le' : a + s ≤ b + s := by linarith
  have nonneg : 0 ≤ a + s := add_nonneg a0 s0
  have nonneg' : 0 ≤ b + s := nonneg.trans le'
  rw [finite_add_finite, finite_add_finite, ofRat_of_nonneg nonneg (le'.trans_lt fits),
    ofRat_of_nonneg nonneg' fits]
  refine finite_le_finite (toRat_ofRat_mono le' ?_ ?_)
  · rw [abs_of_nonneg nonneg]
    exact le'.trans_lt fits
  · rwa [abs_of_nonneg nonneg']

/-- Where a finite average ends a smaller one does. -/
theorem ends_of_average_le {a b t : Binary64} (ha : UpTo (2 ^ 252) a) (hb : UpTo (2 ^ 252) b)
    (le : a.toRat ≤ b.toRat) (h : Averaging.ends b t = true) : Averaging.ends a t = true := by
  obtain ⟨s, hs, -, s0, s1⟩ := upTo_linkageSlack
  obtain ⟨q, rfl, -, q0, -⟩ := ha
  obtain ⟨r, rfl, -, -, bound⟩ := hb
  have fits : r + s < overflow := by
    have : r + s ≤ 2 ^ 252 + 1 := add_le_add bound s1
    exact this.trans_lt ((by norm_num : (2 : ℚ) ^ 252 + 1 ≤ 2 ^ 253).trans_lt
      (two_pow_lt_overflow (by norm_num)))
  rw [ends_iff, hs] at h ⊢
  have below : finite r + finite s < t := h.resolve_left (by simp [isFinite])
  exact .inr (lt_of_le_of_lt (finite_add_le le q0 s0 fits) below)

/-- The average of items that are not alike ends under a threshold above the slack. -/
theorem ends_zero {t : Binary64} (above : linkageSlack < t) :
    Averaging.ends (finite 0) t = true := by
  have sum : finite 0 + linkageSlack = linkageSlack := by decide +kernel
  rw [ends_iff, sum]
  exact .inr above

/-! ## Averages of live clusters -/

namespace Clusters

variable {n : ℕ} {sim : Grid Binary64 n} {threshold : Binary64} {c : Clusters Binary64 n}

/-- What holds all along a run: the items are divided among the clusters, and the table is that of
bounded similarities. -/
structure Regular (sim : Grid Binary64 n) (c : Clusters Binary64 n) : Prop where
  bounded : sim.Bounded
  sound : c.Sound
  linked : c.Linked sim

theorem regular_run (bounded : sim.Bounded) (reached : Run threshold (singletons sim) c) :
    c.Regular sim :=
  ⟨bounded, (sound_singletons sim).run reached, linked_run bounded.symmetric reached⟩

namespace Regular

theorem card_cross_le (h : c.Regular sim) {i k : Fin n} (hi : i ∈ c.live) (hk : k ∈ c.live) :
    ((cross sim (c.members.get i) (c.members.get k)).card : ℚ) ^ 2 ≤ 2 ^ 252 := by
  have short {i : Fin n} (hi : i ∈ c.live) : (c.members.get i).length ≤ maxItems :=
    (h.sound.length_le (List.mem_map_of_mem hi)).trans h.bounded.few.le
  have card : (cross sim (c.members.get i) (c.members.get k)).card ≤ 2 ^ 126 := by
    rw [card_cross]
    calc (c.members.get i).length * (c.members.get k).length
        ≤ maxItems * maxItems := Nat.mul_le_mul (short hi) (short hk)
      _ = 2 ^ 126 := by norm_num [maxItems]
  have : ((cross sim (c.members.get i) (c.members.get k)).card : ℚ) ≤ 2 ^ 126 := by
    exact_mod_cast card
  calc ((cross sim (c.members.get i) (c.members.get k)).card : ℚ) ^ 2 ≤ (2 ^ 126) ^ 2 := by gcongr
    _ = 2 ^ 252 := by norm_num

theorem card_cross_pos (h : c.Regular sim) {i k : Fin n} (hi : i ∈ c.live) (hk : k ∈ c.live) :
    0 < (cross sim (c.members.get i) (c.members.get k)).card := by
  rw [card_cross]
  exact Nat.mul_pos (h.sound.members_pos hi) (h.sound.members_pos hk)

theorem card_cross_lt_overflow (h : c.Regular sim) {i k : Fin n} (hi : i ∈ c.live)
    (hk : k ∈ c.live) :
    ((cross sim (c.members.get i) (c.members.get k)).card : ℚ) ^ 2 < overflow :=
  (h.card_cross_le hi hk).trans_lt (two_pow_lt_overflow (by norm_num))

theorem upTo_averages (h : c.Regular sim) {i k : Fin n} (hi : i ∈ c.live) (hk : k ∈ c.live)
    (different : i ≠ k) : UpTo (2 ^ 252) (c.averages i k) := by
  have unit : ∀ y ∈ cross sim (c.members.get i) (c.members.get k), UpTo 1 y := by
    intro y hy
    obtain ⟨x, -, z, -, rfl⟩ := mem_cross.1 hy
    exact h.bounded.unit x z
  exact ((h.linked.averages i hi k hk different).upTo unit (h.card_cross_pos hi hk)
    (h.card_cross_lt_overflow hi hk)).mono (h.card_cross_le hi hk)

/-- Clusters whose items are not alike at all. -/
theorem average_eq_zero (h : c.Regular sim) {i k : Fin n} (hi : i ∈ c.live) (hk : k ∈ c.live)
    (different : i ≠ k)
    (apart : ∀ x ∈ c.members.get i, ∀ y ∈ c.members.get k, sim x y = finite 0) :
    c.averages i k = finite 0 := by
  have zeros : ∀ y ∈ cross sim (c.members.get i) (c.members.get k), y = finite 0 := by
    intro y hy
    obtain ⟨x, hx, z, hz, rfl⟩ := mem_cross.1 hy
    exact apart x hx z hz
  exact (h.linked.averages i hi k hk different).eq_zero zeros (h.card_cross_pos hi hk)
    (h.card_cross_lt_overflow hi hk)

theorem upTo_candidates (h : c.Regular sim) {m : Merge Binary64 n} (candidate : m ∈ c.candidates) :
    UpTo (2 ^ 252) m.average := by
  obtain ⟨hi, hk⟩ := live_of_mem_candidates candidate
  rw [(mem_candidates_iff.1 candidate).2]
  exact h.upTo_averages hi hk (h.sound.survivor_lt_absorbed candidate).ne

/-- The averages compare as rationals, so the search finds the first of the greatest. -/
theorem best?_eq_some_iff (h : c.Regular sim) {m : Merge Binary64 n} :
    c.best? = some m ↔ FirstGreatest (fun m => m.average.toRat) c.candidates m := by
  have comparable : Comparable toRat c.candidates := by
    intro a ha b hb
    obtain ⟨q, hq, -⟩ := h.upTo_candidates ha
    obtain ⟨r, hr, -⟩ := h.upTo_candidates hb
    rw [hq, hr]
    rfl
  rw [best?_eq]
  exact foldl_better comparable m

end Regular

end Clusters

end Deliberation
