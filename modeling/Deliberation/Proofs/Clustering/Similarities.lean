/-
# Proofs.Clustering.Similarities -- shares of common words

The similarity of two word lists is the double nearest to the number of words in both over the number of
words in either (`jaccard_eq`).  So it is a double from the unit interval (`upTo_jaccard`), the same in both
directions (`jaccard_comm`), and exactly zero for lists without a common word (`jaccard_of_disjoint`).

The table of similarities, which is made of products of rows of incidence, holds just these for every two
lists (`similarities_apply`); counting the words in doubles makes no difference
(`similarities_are_shares`).  Hence the table is symmetric, and sums of its entries are bounded by their
number.
-/
import Deliberation.Clustering.Similarity
import Deliberation.Proofs.Clustering.Averages
import Deliberation.Proofs.Clustering.Incidence
import Deliberation.Proofs.Distinct
import Mathlib.Data.List.Perm.Basic
import Mathlib.Data.List.Perm.Subperm

set_option autoImplicit false

namespace Deliberation

open Binary64

/-! ## Two lists of words -/

/-- The words in both lists and the words in either. -/
theorem overlap_eq (a b : List String) :
    overlap a b = ((a.toFinset ∩ b.toFinset).card, (a.toFinset ∪ b.toFinset).card) := by
  have common : ((distinct a).filter (distinct b).contains).length =
      (a.toFinset ∩ b.toFinset).card := by
    rw [← List.toFinset_card_of_nodup ((nodup_distinct a).filter _)]
    congr 1
    ext w
    simp [mem_distinct]
  simp only [overlap]
  rw [common, length_distinct, length_distinct, Finset.card_union]

/-- **The similarity of two lists is the nearest double to their share of common words.** -/
theorem jaccard_eq (a b : List String) :
    jaccard a b = ofRat ((a.toFinset ∩ b.toFinset).card / (a.toFinset ∪ b.toFinset).card) := by
  simp only [jaccard, overlap_eq]
  split_ifs with empty
  · rw [Bool.or_eq_true, List.isEmpty_iff, List.isEmpty_iff] at empty
    rcases empty with rfl | rfl <;> simp
  · rw [ofQuotient, Rat.mkRat_eq_div]
    rfl

theorem jaccard_comm (a b : List String) : jaccard a b = jaccard b a := by
  rw [jaccard_eq, jaccard_eq, Finset.inter_comm, Finset.union_comm]

theorem upTo_jaccard (a b : List String) : UpTo 1 (jaccard a b) := by
  rw [jaccard_eq]
  exact upTo_share (Finset.card_le_card (Finset.inter_subset_union ..))

/-- Lists without a common word are not alike at all. -/
theorem jaccard_of_disjoint {a b : List String} (apart : ∀ w ∈ a, w ∉ b) :
    jaccard a b = finite 0 := by
  have none : a.toFinset ∩ b.toFinset = ∅ := by
    rw [← Finset.disjoint_iff_inter_eq_empty, Finset.disjoint_left]
    simpa using apart
  rw [jaccard_eq, none]
  simp

/-! ## The table of similarities -/

/-- **Products of rows give every two lists their similarity**, in scalars that count all words. -/
theorem similaritiesBy_apply {α : Type} [Counting α] {embed : ℕ → α} {bound : ℕ}
    (h : CountsUpTo α embed bound) (sets : List (List String))
    (few : 2 * (Incidence.of sets).columns.length ≤ bound) (i k : Fin sets.length) :
    similaritiesBy α sets i k =
      if i = k then finite 1 else jaccard (getElem sets i i.isLt) (getElem sets k k.isLt) := by
  have found (i : Fin sets.length) : sets[i.val]? = some (getElem sets i i.isLt) :=
    List.getElem?_eq_getElem i.isLt
  rw [similaritiesBy]
  simp only [Grid.get_ofFn, Vector.getElem_map, Vector.getElem_ofFn, Fin.getElem_fin]
  split_ifs
  · rfl
  · rw [jaccard_eq]
    exact Incidence.share_rows h few (found i) (found k)

theorem similarities_apply (sets : List (List String)) (i k : Fin sets.length) :
    similarities sets i k =
      if i = k then finite 1 else jaccard (getElem sets i i.isLt) (getElem sets k k.isLt) :=
  similaritiesBy_apply (countsUpTo_nat _) sets le_rfl i k

theorem symmetric_similarities (sets : List (List String)) : (similarities sets).Symmetric := by
  intro i k
  rw [similarities_apply, similarities_apply, jaccard_comm]
  simp only [eq_comm]

theorem upTo_similarities (sets : List (List String)) (i k : Fin sets.length) :
    UpTo 1 (similarities sets i k) := by
  rw [similarities_apply]
  split_ifs
  · exact upTo_one
  · exact upTo_jaccard _ _

/-- **The table of similarities holds the share of common words of every two lists**, one on the diagonal.
So it is symmetric with entries from the unit interval, and zero where one of two different lists is empty.
Doubles count the words as well as whole numbers do, unless there are too many to count in doubles. -/
theorem similarities_are_shares (sets : List (List String)) :
    (∀ i, similarities sets i i = finite 1) ∧
      (∀ i k : Fin sets.length, i ≠ k → similarities sets i k = jaccard (sets.get i) (sets.get k) ∧
        similarities sets i k = ofRat (((sets.get i).toFinset ∩ (sets.get k).toFinset).card /
          ((sets.get i).toFinset ∪ (sets.get k).toFinset).card)) ∧
      (similarities sets).Symmetric ∧
      (∀ i k, UpTo 1 (similarities sets i k)) ∧
      (∀ i k : Fin sets.length, i ≠ k → sets.get i = [] ∨ sets.get k = [] →
        similarities sets i k = finite 0) ∧
      ((distinct sets.flatten).length ≤ 2 ^ 52 → ∀ i k,
        similaritiesBy Binary64 sets i k = similarities sets i k) := by
  have pair {i k : Fin sets.length} (different : i ≠ k) :
      similarities sets i k = jaccard (sets.get i) (sets.get k) :=
    (similarities_apply sets i k).trans (if_neg different)
  refine ⟨?_, ?_, symmetric_similarities sets, upTo_similarities sets, ?_, ?_⟩
  · intro i
    rw [similarities_apply, if_pos rfl]
  · intro i k different
    exact ⟨pair different, (pair different).trans (jaccard_eq _ _)⟩
  · intro i k different empty
    rw [pair different]
    apply jaccard_of_disjoint
    rcases empty with none | none <;> rw [none] <;> simp
  · intro few i k
    have columns : 2 * (Incidence.of sets).columns.length ≤ 2 ^ 53 := by
      rw [Incidence.length_columns]
      omega
    rw [similaritiesBy_apply countsUpTo_binary64 sets columns, similarities_apply]

/-- A list that repeats a word, one that shares one of its words, and an empty one. -/
theorem roadsAndBridges_are_shares :
    let sets := [["road", "tax", "road"], ["bridge", "road", "toll"], []]
    (0 : Fin 3) ≠ 1 ∧ (1 : Fin 3) ≠ 2 ∧ sets.get (2 : Fin 3) = [] ∧
      (distinct sets.flatten).length ≤ 2 ^ 52 ∧
      similarities sets (0 : Fin 3) (1 : Fin 3) = ofRat (1 / 4) ∧
      similarities sets (1 : Fin 3) (2 : Fin 3) = finite 0 ∧
      similaritiesBy Binary64 sets (0 : Fin 3) (1 : Fin 3) = ofRat (1 / 4) := by
  intro sets
  obtain ⟨-, pairs, -, -, empty, doubles⟩ := similarities_are_shares sets
  have different : (0 : Fin 3) ≠ 1 := by decide
  have other : (1 : Fin 3) ≠ 2 := by decide
  have few : (distinct sets.flatten).length ≤ 2 ^ 52 := by decide
  have quarter : similarities sets (0 : Fin 3) (1 : Fin 3) = ofRat (1 / 4) := by
    rw [(pairs (0 : Fin 3) (1 : Fin 3) different).2]
    decide +kernel
  refine ⟨different, other, rfl, few, quarter, ?_, ?_⟩
  · exact empty (1 : Fin 3) (2 : Fin 3) other (.inr rfl)
  · exact (doubles few (0 : Fin 3) (1 : Fin 3)).trans quarter

end Deliberation
