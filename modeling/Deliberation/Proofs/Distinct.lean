/-
# Proofs.Distinct -- the different items of a list in order

Which items are left out depends only on which were seen (`distinctFrom_congr`).  The different items stand in
the order in which they occur first (`pairwise_idxOf_distinct`): what stands before one of them is all that
occurs before it (`exists_split_of_distinctFrom`).  There are as many as the list has members
(`length_distinct`).
-/
import Deliberation.Distinct
import Mathlib.Data.Finset.Card

set_option autoImplicit false

namespace Deliberation

section

variable {α : Type} [BEq α] [LawfulBEq α]

/-- What is left out depends on which items were seen, not on their order. -/
theorem distinctFrom_congr {seen seen' : List α} (same : ∀ s, s ∈ seen ↔ s ∈ seen')
    (xs : List α) : distinctFrom seen xs = distinctFrom seen' xs := by
  induction xs generalizing seen seen' with
  | nil => rfl
  | cons x rest ih =>
      have alike : seen.contains x = seen'.contains x := by
        rw [Bool.eq_iff_iff, List.contains_iff_mem, List.contains_iff_mem, same]
      have later : distinctFrom (x :: seen) rest = distinctFrom (x :: seen') rest :=
        ih fun s => by simp [same]
      rw [distinctFrom, distinctFrom, alike, ih same, later]

/-- What stands before an item in a list without repetitions are all the items that stand before it in the
list with them. -/
theorem exists_split_of_distinctFrom {seen xs before after : List α} {s : α}
    (h : distinctFrom seen xs = before ++ s :: after) :
    ∃ xs₁ xs₂, xs = xs₁ ++ s :: xs₂ ∧ ∀ x ∈ xs₁, x ∈ seen ∨ x ∈ before := by
  induction xs generalizing seen before with
  | nil => simp [distinctFrom] at h
  | cons x rest ih =>
      rw [distinctFrom] at h
      split_ifs at h with repeated
      · obtain ⟨xs₁, xs₂, rfl, earlier⟩ := ih h
        refine ⟨x :: xs₁, xs₂, rfl, ?_⟩
        rw [List.forall_mem_cons]
        exact ⟨.inl (by simpa using repeated), earlier⟩
      · cases before with
        | nil =>
            obtain ⟨rfl, -⟩ := List.cons_eq_cons.1 h
            exact ⟨[], rest, rfl, by simp⟩
        | cons y before =>
            obtain ⟨rfl, later⟩ := List.cons_eq_cons.1 h
            obtain ⟨xs₁, xs₂, rfl, earlier⟩ := ih later
            refine ⟨x :: xs₁, xs₂, rfl, ?_⟩
            rw [List.forall_mem_cons]
            refine ⟨.inr List.mem_cons_self, fun z member => ?_⟩
            have := earlier z member
            simp only [List.mem_cons] at this ⊢
            tauto

theorem pairwise_idxOf_distinctFrom (seen xs : List α) :
    (distinctFrom seen xs).Pairwise fun a b => xs.idxOf a < xs.idxOf b := by
  induction xs generalizing seen with
  | nil => exact .nil
  | cons w rest ih =>
      -- behind the first item, items other than it keep their order
      have behind (seen : List α) (known : w ∈ seen) :
          (distinctFrom seen rest).Pairwise fun a b =>
            (w :: rest).idxOf a < (w :: rest).idxOf b := by
        refine (ih seen).imp_of_mem fun {a b} ha hb less => ?_
        have other {x : α} (hx : x ∈ distinctFrom seen rest) : w ≠ x := by
          rintro rfl
          exact ((mem_distinctFrom seen rest w).1 hx).2 known
        rw [List.idxOf_cons_ne rest (other ha), List.idxOf_cons_ne rest (other hb)]
        exact Nat.succ_lt_succ less
      rw [distinctFrom]
      split_ifs with known
      · exact behind seen (List.contains_iff_mem.1 known)
      · refine List.pairwise_cons.2 ⟨fun b hb => ?_, behind (w :: seen) List.mem_cons_self⟩
        have other : w ≠ b := by
          rintro rfl
          exact ((mem_distinctFrom _ rest w).1 hb).2 List.mem_cons_self
        rw [List.idxOf_cons_self, List.idxOf_cons_ne rest other]
        exact Nat.succ_pos _

/-- The different items stand in the order in which they occur first. -/
theorem pairwise_idxOf_distinct (xs : List α) :
    (distinct xs).Pairwise fun a b => xs.idxOf a < xs.idxOf b :=
  pairwise_idxOf_distinctFrom [] xs

end

/-- A list has as many different items as members. -/
theorem length_distinct {α : Type} [DecidableEq α] (xs : List α) :
    (distinct xs).length = xs.toFinset.card := by
  rw [← List.toFinset_card_of_nodup (nodup_distinct xs)]
  congr 1
  ext w
  simp [mem_distinct]

end Deliberation
