/-
# Proofs.Interleaving -- two lists woven into one

`Interleaving xs ys zs` says that `zs` consists of the items of `xs` and those of `ys`, each in their
order.  Mapping and filtering go part by part, and every part has its places in the whole
(`Interleaving.exists_places`).
-/
import Mathlib.Data.List.Forall2
import Mathlib.Order.Fin.Basic
import Mathlib.Order.Hom.Basic

set_option autoImplicit false

namespace Deliberation

/-- The third list is the first two, woven into one another. -/
inductive Interleaving {α : Type} : List α → List α → List α → Prop where
  | nil : Interleaving [] [] []
  | left {x : α} {xs ys zs : List α} :
      Interleaving xs ys zs → Interleaving (x :: xs) ys (x :: zs)
  | right {y : α} {xs ys zs : List α} :
      Interleaving xs ys zs → Interleaving xs (y :: ys) (y :: zs)

namespace Interleaving

variable {α β : Type} {xs ys zs : List α}

theorem symm (h : Interleaving xs ys zs) : Interleaving ys xs zs := by
  induction h with
  | nil => exact .nil
  | left _ ih => exact ih.right
  | right _ ih => exact ih.left

theorem map (f : α → β) (h : Interleaving xs ys zs) :
    Interleaving (xs.map f) (ys.map f) (zs.map f) := by
  induction h with
  | nil => exact .nil
  | left _ ih => exact ih.left
  | right _ ih => exact ih.right

theorem filter (keep : α → Bool) (h : Interleaving xs ys zs) :
    Interleaving (xs.filter keep) (ys.filter keep) (zs.filter keep) := by
  induction h with
  | nil => exact .nil
  | @left x _ _ _ _ ih =>
      by_cases kept : keep x = true
      · simpa only [List.filter_cons_of_pos kept] using ih.left
      · simpa only [List.filter_cons_of_neg kept] using ih
  | @right y _ _ _ _ ih =>
      by_cases kept : keep y = true
      · simpa only [List.filter_cons_of_pos kept] using ih.right
      · simpa only [List.filter_cons_of_neg kept] using ih

theorem mem_iff (h : Interleaving xs ys zs) {z : α} : z ∈ zs ↔ z ∈ xs ∨ z ∈ ys := by
  induction h with
  | nil => simp
  | left _ ih => rw [List.mem_cons, List.mem_cons, ih, or_assoc]
  | right _ ih => rw [List.mem_cons, List.mem_cons, ih, or_left_comm]

theorem perm (h : Interleaving xs ys zs) : (xs ++ ys).Perm zs := by
  induction h with
  | nil => exact .refl _
  | left _ ih => exact ih.cons _
  | right _ ih => exact List.perm_middle.trans (ih.cons _)

/-- A list is woven from what a test keeps and what it does not. -/
theorem of_filter (keep : α → Bool) (l : List α) :
    Interleaving (l.filter keep) (l.filter fun x => !keep x) l := by
  induction l with
  | nil => exact .nil
  | cons x rest ih =>
      cases kept : keep x with
      | true =>
          rw [List.filter_cons_of_pos kept, List.filter_cons_of_neg (by simp [kept])]
          exact ih.left
      | false =>
          rw [List.filter_cons_of_neg (by simp [kept]), List.filter_cons_of_pos (by simp [kept])]
          exact ih.right

/-- What relates the items of the whole to others relates those of the parts. -/
theorem exists_forall₂ {R : α → β → Prop} (h : Interleaving xs ys zs) {zs' : List β}
    (related : List.Forall₂ R zs zs') :
    ∃ xs' ys', List.Forall₂ R xs xs' ∧ List.Forall₂ R ys ys' ∧ Interleaving xs' ys' zs' := by
  induction h generalizing zs' with
  | nil =>
      obtain rfl := List.forall₂_nil_left_iff.1 related
      exact ⟨[], [], .nil, .nil, .nil⟩
  | left _ ih =>
      obtain ⟨z, rest, first, others, rfl⟩ := List.forall₂_cons_left_iff.1 related
      obtain ⟨xs', ys', hx, hy, woven⟩ := ih others
      exact ⟨z :: xs', ys', .cons first hx, hy, woven.left⟩
  | right _ ih =>
      obtain ⟨z, rest, first, others, rfl⟩ := List.forall₂_cons_left_iff.1 related
      obtain ⟨xs', ys', hx, hy, woven⟩ := ih others
      exact ⟨xs', z :: ys', hx, .cons first hy, woven.right⟩

/-! ## Places -/

section Places

variable {m n : ℕ}

/-- The places of a list that begins where the whole does. -/
def leading (e : Fin m ↪o Fin n) : Fin (m + 1) ↪o Fin (n + 1) :=
  OrderEmbedding.ofStrictMono (Fin.cases 0 fun i => (e i).succ) <| by
    intro i k less
    cases k using Fin.cases with
    | zero => exact absurd less (Fin.not_lt_zero i)
    | succ k =>
        cases i using Fin.cases with
        | zero => exact Fin.succ_pos (e k)
        | succ i => exact Fin.succ_lt_succ_iff.2 (e.lt_iff_lt.2 (Fin.succ_lt_succ_iff.1 less))

/-- The places of a list that begins further on. -/
def trailing (e : Fin m ↪o Fin n) : Fin m ↪o Fin (n + 1) := e.trans (Fin.succOrderEmb n)

@[simp] theorem trailing_apply (e : Fin m ↪o Fin n) (i : Fin m) : trailing e i = (e i).succ := rfl

/-- Two ways to place items that share no place and leave none free. -/
def Complementary {k : ℕ} (e : Fin m ↪o Fin n) (f : Fin k ↪o Fin n) : Prop :=
  ∀ x, (∃ i, e i = x) ↔ ∀ j, f j ≠ x

theorem complementary_leading {k : ℕ} {e : Fin m ↪o Fin n} {f : Fin k ↪o Fin n}
    (h : Complementary e f) : Complementary (leading e) (trailing f) := by
  intro x
  cases x using Fin.cases with
  | zero => exact ⟨fun _ j => Fin.succ_ne_zero (f j), fun _ => ⟨0, rfl⟩⟩
  | succ x =>
      simp only [trailing_apply, ne_eq, Fin.succ_inj]
      rw [← show _ ↔ ∀ j, ¬f j = x from h x]
      constructor
      · rintro ⟨i, hi⟩
        cases i using Fin.cases with
        | zero => exact absurd hi.symm (Fin.succ_ne_zero x)
        | succ i => exact ⟨i, Fin.succ_inj.1 hi⟩
      · rintro ⟨i, rfl⟩
        exact ⟨i.succ, rfl⟩

theorem Complementary.symm {k : ℕ} {e : Fin m ↪o Fin n} {f : Fin k ↪o Fin n}
    (h : Complementary e f) : Complementary f e := by
  intro x
  constructor
  · rintro ⟨j, hj⟩ i hi
    exact (h x).1 ⟨i, hi⟩ j hj
  · intro outside
    by_contra none
    obtain ⟨i, hi⟩ := (h x).2 fun j hj => none ⟨j, hj⟩
    exact outside i hi

end Places

/-- The items of each part stand in the whole at places of their own. -/
theorem exists_places (h : Interleaving xs ys zs) :
    ∃ (e : Fin xs.length ↪o Fin zs.length) (f : Fin ys.length ↪o Fin zs.length),
      (∀ i, zs.get (e i) = xs.get i) ∧ (∀ j, zs.get (f j) = ys.get j) ∧ Complementary e f := by
  induction h with
  | nil => exact ⟨.refl _, .refl _, fun i => i.elim0, fun j => j.elim0, fun x => x.elim0⟩
  | left _ ih =>
      obtain ⟨e, f, he, hf, apart⟩ := ih
      refine ⟨leading e, trailing f, fun i => ?_, hf, complementary_leading apart⟩
      cases i using Fin.cases with
      | zero => rfl
      | succ i => exact he i
  | right _ ih =>
      obtain ⟨e, f, he, hf, apart⟩ := ih
      refine ⟨trailing e, leading f, he, fun j => ?_,
        (complementary_leading apart.symm).symm⟩
      cases j using Fin.cases with
      | zero => rfl
      | succ j => exact hf j

/-- What stands at no place of the one part is an item of the other. -/
theorem get_mem_of_outside {e : Fin xs.length ↪o Fin zs.length}
    {f : Fin ys.length ↪o Fin zs.length} (at_ : ∀ j, zs.get (f j) = ys.get j)
    (complementary : Complementary e f) {x : Fin zs.length} (outside : ∀ i, e i ≠ x) :
    zs.get x ∈ ys := by
  obtain ⟨j, rfl⟩ := (complementary.symm x).2 outside
  rw [at_]
  exact List.get_mem ys j

end Interleaving

end Deliberation
