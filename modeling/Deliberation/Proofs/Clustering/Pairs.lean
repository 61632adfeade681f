/-
# Proofs.Clustering.Pairs -- ordered pairs and the first of the greatest

`orderedPairs` respects renaming and selection of items, and on a sorted list it pairs smaller items
with greater ones.

`FirstGreatest key l b` says that `b` stands in the list, that everything before it has a smaller
key and that nothing after it has a greater one.  There is one such place, and it survives when other
elements are taken out (`FirstGreatest.filter`).  Where the scalars of the merges compare as their
keys do, this is what the search for the best merge finds (`foldl_better`).
-/
import Deliberation.Clustering.Linkage
import Mathlib.Algebra.Order.Field.Rat
import Mathlib.Data.List.Basic
import Mathlib.Tactic.Linarith

set_option autoImplicit false

namespace Deliberation

/-! ## Ordered pairs -/

section Pairs

variable {β γ : Type}

theorem mem_of_mem_orderedPairs {l : List β} {p : β × β} (h : p ∈ orderedPairs l) :
    p.1 ∈ l ∧ p.2 ∈ l := by
  induction l with
  | nil => simp [orderedPairs] at h
  | cons x rest ih =>
      rw [orderedPairs, List.mem_append, List.mem_map] at h
      rcases h with ⟨y, hy, rfl⟩ | h
      · exact ⟨List.mem_cons_self, List.mem_cons_of_mem x hy⟩
      · exact ⟨List.mem_cons_of_mem x (ih h).1, List.mem_cons_of_mem x (ih h).2⟩

theorem rel_of_mem_orderedPairs {R : β → β → Prop} {l : List β} (sorted : l.Pairwise R)
    {p : β × β} (h : p ∈ orderedPairs l) : R p.1 p.2 := by
  induction l with
  | nil => simp [orderedPairs] at h
  | cons x rest ih =>
      rw [orderedPairs, List.mem_append, List.mem_map] at h
      rw [List.pairwise_cons] at sorted
      rcases h with ⟨y, hy, rfl⟩ | h
      · exact sorted.1 y hy
      · exact ih sorted.2 h

theorem orderedPairs_map (f : β → γ) (l : List β) :
    orderedPairs (l.map f) = (orderedPairs l).map (Prod.map f f) := by
  induction l with
  | nil => rfl
  | cons x rest ih => simp [orderedPairs, ih, Function.comp_def]

theorem orderedPairs_filter (keep : β → Bool) (l : List β) :
    orderedPairs (l.filter keep) = (orderedPairs l).filter fun p => keep p.1 && keep p.2 := by
  induction l with
  | nil => rfl
  | cons x rest ih =>
      by_cases h : keep x = true
      · simp [orderedPairs, h, ih, List.filter_map, Function.comp_def]
      · simp [orderedPairs, h, ih, List.filter_map, Function.comp_def]

theorem length_orderedPairs_le (l : List β) : (orderedPairs l).length ≤ l.length ^ 2 := by
  induction l with
  | nil => simp [orderedPairs]
  | cons x rest ih =>
      rw [orderedPairs, List.length_append, List.length_map, List.length_cons]
      calc rest.length + (orderedPairs rest).length ≤ rest.length + rest.length ^ 2 := by omega
        _ ≤ (rest.length + 1) ^ 2 := by nlinarith

end Pairs

/-! ## The first of the greatest -/

/-- The element stands behind smaller keys only, and before no greater one. -/
def FirstGreatest {β : Type} (key : β → ℚ) (l : List β) (b : β) : Prop :=
  ∃ before after, l = before ++ b :: after ∧
    (∀ x ∈ before, key x < key b) ∧ ∀ x ∈ after, key x ≤ key b

namespace FirstGreatest

variable {β γ : Type} {key : β → ℚ} {l : List β} {b : β}

theorem mem (h : FirstGreatest key l b) : b ∈ l := by
  obtain ⟨before, after, rfl, -⟩ := h
  simp

theorem le (h : FirstGreatest key l b) {x : β} (hx : x ∈ l) : key x ≤ key b := by
  obtain ⟨before, after, rfl, less, notMore⟩ := h
  rw [List.mem_append, List.mem_cons] at hx
  rcases hx with hx | rfl | hx
  · exact (less x hx).le
  · exact le_rfl
  · exact notMore x hx

theorem unique {b' : β} (h : FirstGreatest key l b) (h' : FirstGreatest key l b') : b = b' := by
  have same : key b = key b' := le_antisymm (h'.le h.mem) (h.le h'.mem)
  obtain ⟨before, after, split, less, -⟩ := h
  obtain ⟨before', after', split', less', -⟩ := h'
  rw [split] at split'
  -- Each of the two is not among the smaller keys before the other.
  rcases List.append_eq_append_iff.1 split' with ⟨gap, rfl, hgap⟩ | ⟨gap, rfl, hgap⟩
  · cases gap with
    | nil => simpa using (List.cons.inj hgap).1
    | cons y ys =>
        obtain rfl : b = y := (List.cons.inj hgap).1
        exact absurd same (less' b (by simp)).ne
  · cases gap with
    | nil => simpa using (List.cons.inj hgap).1.symm
    | cons y ys =>
        obtain rfl : b' = y := (List.cons.inj hgap).1
        exact absurd same (less b' (by simp)).ne'

theorem filter (h : FirstGreatest key l b) {keep : β → Bool} (kept : keep b = true) :
    FirstGreatest key (l.filter keep) b := by
  obtain ⟨before, after, rfl, less, notMore⟩ := h
  refine ⟨before.filter keep, after.filter keep, by simp [kept], ?_, ?_⟩
  · exact fun x hx => less x (List.mem_of_mem_filter hx)
  · exact fun x hx => notMore x (List.mem_of_mem_filter hx)

theorem of_map {key : γ → ℚ} {f : β → γ} {c : γ} (h : FirstGreatest key (l.map f) c) :
    ∃ b, c = f b ∧ FirstGreatest (key ∘ f) l b := by
  obtain ⟨before, after, split, less, notMore⟩ := h
  obtain ⟨before', rest, rfl, rfl, hrest⟩ := List.map_eq_append_iff.1 split
  obtain ⟨b, after', rfl, rfl, rfl⟩ := List.map_eq_cons_iff.1 hrest
  exact ⟨b, rfl, before', after', rfl, fun x hx => less _ (List.mem_map_of_mem hx),
    fun x hx => notMore _ (List.mem_map_of_mem hx)⟩

theorem map {key : γ → ℚ} {f : β → γ} (h : FirstGreatest (key ∘ f) l b) :
    FirstGreatest key (l.map f) (f b) := by
  obtain ⟨before, after, rfl, less, notMore⟩ := h
  exact ⟨before.map f, after.map f, by simp, List.forall_mem_map.2 less,
    List.forall_mem_map.2 notMore⟩

theorem congr {key' : β → ℚ} (h : FirstGreatest key l b) (same : ∀ x ∈ l, key x = key' x) :
    FirstGreatest key' l b := by
  obtain ⟨before, after, rfl, less, notMore⟩ := h
  refine ⟨before, after, rfl, fun x hx => ?_, fun x hx => ?_⟩
  · rw [← same x (by simp [hx]), ← same b (by simp)]; exact less x hx
  · rw [← same x (by simp [hx]), ← same b (by simp)]; exact notMore x hx

/-- The first element that no key exceeds. -/
theorem find?_eq_some_iff :
    (l.find? fun x => l.all fun y => decide (key y ≤ key x)) = some b ↔ FirstGreatest key l b := by
  rw [List.find?_eq_some_iff_append]
  simp only [List.all_eq_true, decide_eq_true_eq, Bool.not_eq_true', List.all_eq_false]
  constructor
  · rintro ⟨top, before, after, rfl, smaller⟩
    refine ⟨before, after, rfl, fun x hx => ?_, fun x hx => top x (by simp [hx])⟩
    obtain ⟨y, hy, above⟩ := smaller x hx
    exact (not_le.1 above).trans_le (top y hy)
  · intro h
    have top := fun x hx => h.le (x := x) hx
    obtain ⟨before, after, rfl, less, -⟩ := h
    exact ⟨top, before, after, rfl, fun x hx => ⟨b, by simp, not_le.2 (less x hx)⟩⟩

end FirstGreatest

/-! ## The search for the best merge -/

section Search

variable {α : Type} [Averaging α] {n : ℕ}

/-- The averages of the merges compare as their keys do. -/
def Comparable (key : α → ℚ) (ms : List (Merge α n)) : Prop :=
  ∀ a ∈ ms, ∀ b ∈ ms, Averaging.betters a.average b.average = decide (key a.average < key b.average)

/-- Of a merge and those after it, the search keeps the first of the greatest. -/
theorem foldl_better_some {key : α → ℚ} (b : Merge α n) (ms : List (Merge α n))
    (comparable : Comparable key (b :: ms)) :
    ∃ m, ms.foldl Clusters.better (some b) = some m ∧
      FirstGreatest (fun m => key m.average) (b :: ms) m := by
  induction ms generalizing b with
  | nil => exact ⟨b, rfl, [], [], rfl, by simp, by simp⟩
  | cons x rest ih =>
      have test := comparable b List.mem_cons_self x (by simp)
      by_cases less : key b.average < key x.average
      · -- The later merge takes over, and the earlier one stands before it with a smaller key.
        obtain ⟨m, found, first⟩ := ih x fun y hy z hz =>
          comparable y (List.mem_cons_of_mem b hy) z (List.mem_cons_of_mem b hz)
        have le := first.le List.mem_cons_self
        obtain ⟨before, after, split, lessBefore, notMore⟩ := first
        refine ⟨m, ?_, b :: before, after, by rw [split]; rfl, ?_, notMore⟩
        · rw [List.foldl_cons, Clusters.better, test, if_pos (decide_eq_true less), found]
        · exact List.forall_mem_cons.2 ⟨less.trans_le le, lessBefore⟩
      · have others : b :: rest ⊆ b :: x :: rest :=
          List.cons_subset_cons b (List.subset_cons_self x rest)
        obtain ⟨m, found, first⟩ := ih b fun y hy z hz => comparable y (others hy) z (others hz)
        have le := first.le List.mem_cons_self
        obtain ⟨before, after, split, lessBefore, notMore⟩ := first
        have found' : (x :: rest).foldl Clusters.better (some b) = some m := by
          rw [List.foldl_cons, Clusters.better, test, if_neg (by simpa using less), found]
        cases before with
        | nil =>
            obtain ⟨rfl, rfl⟩ := List.cons.inj split
            exact ⟨b, found', [], x :: rest, rfl, by simp,
              List.forall_mem_cons.2 ⟨not_lt.1 less, notMore⟩⟩
        | cons y before =>
            obtain ⟨rfl, rfl⟩ := List.cons.inj split
            have lessB := lessBefore b List.mem_cons_self
            refine ⟨m, found', b :: x :: before, after, rfl, ?_, notMore⟩
            exact List.forall_mem_cons.2 ⟨lessB, List.forall_mem_cons.2
              ⟨(not_lt.1 less).trans_lt lessB,
                fun z hz => lessBefore z (List.mem_cons_of_mem b hz)⟩⟩

/-- The search finds the first of the greatest, and nothing only among no merges. -/
theorem foldl_better {key : α → ℚ} {ms : List (Merge α n)} (comparable : Comparable key ms)
    (m : Merge α n) :
    ms.foldl Clusters.better none = some m ↔ FirstGreatest (fun m => key m.average) ms m := by
  cases ms with
  | nil => simp [FirstGreatest]
  | cons b rest =>
      obtain ⟨m', found, first⟩ := foldl_better_some b rest comparable
      rw [List.foldl_cons, Clusters.better, found, Option.some.injEq]
      constructor
      · rintro rfl; exact first
      · exact fun h => first.unique h

end Search

end Deliberation
