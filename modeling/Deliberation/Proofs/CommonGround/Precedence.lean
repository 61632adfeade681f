/-
# Proofs.CommonGround.Precedence -- who comes first, by a key and among equals by order

Items are numbered in the order they come and sorted by a key, the largest first.  The sort is stable, so an
item is ahead of another one if its key is larger, or if the keys are equal and it came earlier
(`pairwise_ahead`).  The place of an item is therefore a count, that of the items ahead of it, and the first
so many items are those with a lower place (`mem_take_mergeSort_iff`): as many as that
(`countP_placeBy_lt`), and none without all that are ahead of it (`placeBy_mono`).
-/
import Mathlib.Data.List.Nodup
import Mathlib.Order.Lattice
import Mathlib.Tactic.Common

set_option autoImplicit false

namespace Deliberation

variable {α β : Type} [LinearOrder β]

/-- An item is ahead of another one by a larger key, and among equal keys by coming earlier. -/
def Ahead (key : α → β) (a b : α × ℕ) : Prop :=
  key b.1 < key a.1 ∨ key a.1 = key b.1 ∧ a.2 < b.2

instance (key : α → β) (a b : α × ℕ) : Decidable (Ahead key a b) :=
  inferInstanceAs (Decidable (_ ∨ _))

/-- How many of the items are ahead of one. -/
def placeBy (key : α → β) (items : List α) (x : α × ℕ) : ℕ :=
  items.zipIdx.countP (Ahead key · x)

/-- The larger key first. -/
def largerFirst (key : α → β) (a b : α × ℕ) : Bool := decide (key b.1 ≤ key a.1)

variable {key : α → β} {items : List α} {x y : α × ℕ}

namespace Ahead

variable {a b c : α × ℕ}

theorem trans (hab : Ahead key a b) (hbc : Ahead key b c) : Ahead key a c := by
  unfold Ahead at *
  rcases hab with less | ⟨same, earlier⟩ <;> rcases hbc with less' | ⟨same', earlier'⟩
  · exact .inl (less'.trans less)
  · exact .inl (same' ▸ less)
  · exact .inl (same ▸ less')
  · exact .inr ⟨same.trans same', earlier.trans earlier'⟩

theorem irrefl (a : α × ℕ) : ¬Ahead key a a := by simp [Ahead]

end Ahead

/-! ## Numbered items -/

theorem map_zipIdx {γ : Type} (f : α → γ) (items : List α) :
    (items.zipIdx.map fun x => f x.1) = items.map f := by
  conv_rhs => rw [← List.zipIdx_map_fst 0 items, List.map_map]
  rfl

theorem countP_zipIdx (p : α → Bool) (items : List α) :
    items.zipIdx.countP (fun x => p x.1) = items.countP p := by
  conv_rhs => rw [← List.zipIdx_map_fst 0 items, List.countP_map]
  rfl

theorem mem_of_mem_zipIdx (member : x ∈ items.zipIdx) : x.1 ∈ items :=
  List.mem_of_getElem? (List.mem_zipIdx_iff_getElem?.1 member)

theorem nodup_numbers (items : List α) : (items.zipIdx.map Prod.snd).Nodup := by
  rw [List.zipIdx_map_snd]
  exact List.nodup_range'

theorem nodup_zipIdx (items : List α) : items.zipIdx.Nodup :=
  .of_map Prod.snd (nodup_numbers items)

/-! ## Sorting by the key -/

/-- The sort by the key is stable: it leaves items with equal keys in their order. -/
theorem pairwise_ahead (key : α → β) (items : List α) :
    (items.zipIdx.mergeSort (largerFirst key)).Pairwise (Ahead key) := by
  have trans (a b c : α × ℕ) (hab : largerFirst key a b = true) (hbc : largerFirst key b c = true) :
      largerFirst key a c = true := by
    simp only [largerFirst, decide_eq_true_eq] at *
    exact hbc.trans hab
  have total (a b : α × ℕ) : (largerFirst key a b || largerFirst key b a) = true := by
    simpa [largerFirst] using le_total (key b.1) (key a.1)
  have sorted := List.pairwise_mergeSort (List.zipIdxLE_trans trans) (List.zipIdxLE_total total)
    items.zipIdx.zipIdx
  have perm := List.mergeSort_perm items.zipIdx.zipIdx (List.zipIdxLE (largerFirst key))
  have apart := List.pairwise_map.1 ((perm.map Prod.snd).nodup_iff.2 (nodup_numbers _))
  -- Numbered once more, an item has the same number twice.
  have twice (z : (α × ℕ) × ℕ) (hz : z ∈ items.zipIdx.zipIdx) : z.1.2 = z.2 := by
    have found := List.mem_zipIdx_iff_getElem?.1 hz
    rw [List.getElem?_zipIdx, Option.map_eq_some_iff] at found
    obtain ⟨item, -, same⟩ := found
    rw [← same, Nat.zero_add]
  rw [← List.mergeSort_zipIdx, List.pairwise_map]
  refine (sorted.and apart).imp_of_mem fun {a b} ha hb order => ?_
  obtain ⟨le, ne⟩ := order
  rw [← twice a (perm.mem_iff.1 ha), ← twice b (perm.mem_iff.1 hb)] at ne
  simp only [List.zipIdxLE, largerFirst, decide_eq_true_eq] at le
  rw [← twice a (perm.mem_iff.1 ha), ← twice b (perm.mem_iff.1 hb)] at le
  unfold Ahead
  split_ifs at le with notLess notMore
  · exact .inr ⟨le_antisymm notMore notLess, by simp at le; omega⟩
  · exact .inl (not_le.1 notMore)

/-! ## Places -/

/-- The first so many items are those with a lower place. -/
theorem mem_take_mergeSort_iff (member : x ∈ items.zipIdx) (m : ℕ) :
    x ∈ (items.zipIdx.mergeSort (largerFirst key)).take m ↔ placeBy key items x < m := by
  have perm := List.mergeSort_perm items.zipIdx (largerFirst key)
  have sorted := pairwise_ahead key items
  obtain ⟨before, behind, split⟩ := List.append_of_mem (perm.mem_iff.2 member)
  rw [split] at perm sorted
  obtain ⟨-, after, apart⟩ := List.pairwise_append.1 sorted
  have place : placeBy key items x = before.length := by
    have front : before.countP (Ahead key · x) = before.length :=
      List.countP_eq_length.2 fun a ha => decide_eq_true (apart a ha x List.mem_cons_self)
    have back : behind.countP (Ahead key · x) = 0 :=
      List.countP_eq_zero.2 fun a ha => by
        have := (List.pairwise_cons.1 after).1 a ha
        simpa using fun ahead => Ahead.irrefl x (this.trans ahead)
    rw [placeBy, ← perm.countP_eq]
    simp [front, back, Ahead.irrefl]
  have fresh : x ∉ before := fun again => Ahead.irrefl x (apart x again x List.mem_cons_self)
  rw [split, place, List.take_append, List.mem_append]
  by_cases enough : before.length < m
  · obtain ⟨k, hk⟩ : ∃ k, m - before.length = k + 1 := ⟨m - before.length - 1, by omega⟩
    simp [hk, enough]
  · have none : m - before.length = 0 := by omega
    have notBefore : x ∉ before.take m := fun again => fresh (List.mem_of_mem_take again)
    simp [none, enough, notBefore]

/-- So many items have a place lower than a number that does not exceed theirs. -/
theorem countP_placeBy_lt {m : ℕ} (le : m ≤ items.length) :
    items.zipIdx.countP (placeBy key items · < m) = m := by
  have perm := List.mergeSort_perm items.zipIdx (largerFirst key)
  set sorted := items.zipIdx.mergeSort (largerFirst key) with hsorted
  have nodup : (sorted.take m ++ sorted.drop m).Nodup := by
    rw [List.take_append_drop]
    exact perm.nodup_iff.2 (nodup_zipIdx items)
  have apart := (List.nodup_append.1 nodup).2.2
  have length : sorted.length = items.length := by rw [perm.length_eq, List.length_zipIdx]
  have front : (sorted.take m).countP (placeBy key items · < m) = (sorted.take m).length := by
    refine List.countP_eq_length.2 fun a ha => decide_eq_true ?_
    exact (mem_take_mergeSort_iff (perm.mem_iff.1 (List.mem_of_mem_take ha)) m).1 ha
  have back : (sorted.drop m).countP (placeBy key items · < m) = 0 := by
    refine List.countP_eq_zero.2 fun a ha => ?_
    rw [decide_eq_true_eq, ← mem_take_mergeSort_iff (perm.mem_iff.1 (List.mem_of_mem_drop ha)) m]
    exact fun again => apart a again a ha rfl
  rw [← perm.countP_eq, ← List.take_append_drop m sorted, List.countP_append, front, back,
    List.length_take, length]
  omega

/-- Who is ahead of an item has no higher place. -/
theorem placeBy_mono (ahead : Ahead key x y) : placeBy key items x ≤ placeBy key items y := by
  refine List.countP_mono_left fun a _ inFront => ?_
  rw [decide_eq_true_eq] at *
  exact inFront.trans ahead

/-- Keys that order the items alike give them the same places. -/
theorem placeBy_congr {γ : Type} [LinearOrder γ] {key' : α → γ}
    (less : ∀ a ∈ items, ∀ b ∈ items, key a < key b → key' a < key' b)
    (ties : ∀ a ∈ items, ∀ b ∈ items, key a = key b → key' a = key' b) (member : x ∈ items.zipIdx) :
    placeBy key items x = placeBy key' items x := by
  refine List.countP_congr fun a ha => ?_
  have more := less x.1 (mem_of_mem_zipIdx member) a.1 (mem_of_mem_zipIdx ha)
  have fewer := less a.1 (mem_of_mem_zipIdx ha) x.1 (mem_of_mem_zipIdx member)
  have tie := ties a.1 (mem_of_mem_zipIdx ha) x.1 (mem_of_mem_zipIdx member)
  rw [decide_eq_true_eq, decide_eq_true_eq, Ahead, Ahead]
  rcases lt_trichotomy (key a.1) (key x.1) with lt | eq | gt
  · simp [lt.ne, lt.not_gt, (fewer lt).ne, (fewer lt).not_gt]
  · simp [eq, tie eq]
  · simp [gt, more gt]

/-- Where all of some items are ahead of one, they are no more than its place. -/
theorem countP_le_placeBy {p : α → Bool} (ahead : ∀ a ∈ items.zipIdx, p a.1 = true → Ahead key a x) :
    items.countP p ≤ placeBy key items x := by
  calc items.countP p = items.zipIdx.countP (fun a => p a.1) := (countP_zipIdx p items).symm
    _ ≤ placeBy key items x :=
        List.countP_mono_left fun a ha chosen => decide_eq_true (ahead a ha chosen)

/-- The place of the last item counts the keys that reach its own: equal ones came earlier. -/
theorem placeBy_last {last : α} :
    placeBy key (items ++ [last]) (last, items.length) = items.countP (key last ≤ key ·) := by
  have numbered : (items ++ [last]).zipIdx = items.zipIdx ++ [(last, items.length)] := by
    simp [List.zipIdx_append]
  have earlier : items.zipIdx.countP (Ahead key · (last, items.length)) =
      items.zipIdx.countP (fun a => decide (key last ≤ key a.1)) := by
    refine List.countP_congr fun a ha => ?_
    obtain ⟨-, lt, -⟩ := List.mem_zipIdx ha
    rw [decide_eq_true_eq, decide_eq_true_eq, Ahead, le_iff_lt_or_eq, eq_comm]
    simp only [Nat.zero_add] at lt
    simp [lt]
  rw [placeBy, numbered, List.countP_append, earlier, countP_zipIdx (fun a => decide (key last ≤ key a))]
  simp [Ahead.irrefl]

end Deliberation
