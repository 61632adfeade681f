/-
# Proofs.Fallible -- what a computation that may fail answers

A chain of steps answers when each step does, with what the last one answers; a list of steps answers
the list of their answers.  Proofs take computations in `Except` apart by these rules and do not
unfold its operations.
-/
import Deliberation.Fault
import Mathlib.Data.List.Forall2

set_option autoImplicit false

namespace Deliberation

variable {ε α β γ : Type}

@[simp] theorem ok_bind (a : α) (f : α → Except ε β) : (Except.ok a >>= f) = f a := rfl

@[simp] theorem error_bind (e : ε) (f : α → Except ε β) :
    ((Except.error e : Except ε α) >>= f) = .error e := rfl

@[simp] theorem map_ok (f : α → β) (a : α) : f <$> (Except.ok a : Except ε α) = .ok (f a) := rfl

@[simp] theorem map_error (f : α → β) (e : ε) :
    f <$> (Except.error e : Except ε α) = .error e := rfl

@[simp] theorem pure_eq_ok (a : α) : (pure a : Except ε α) = .ok a := rfl

theorem bind_eq_ok_iff {x : Except ε α} {f : α → Except ε β} {b : β} :
    (x >>= f) = .ok b ↔ ∃ a, x = .ok a ∧ f a = .ok b := by
  cases x <;> simp

theorem map_eq_ok_iff {x : Except ε α} {f : α → β} {b : β} :
    f <$> x = .ok b ↔ ∃ a, x = .ok a ∧ f a = b := by
  cases x <;> simp

theorem bind_eq_error_iff {x : Except ε α} {f : α → Except ε β} {e : ε} :
    (x >>= f) = .error e ↔ x = .error e ∨ ∃ a, x = .ok a ∧ f a = .error e := by
  cases x <;> simp

theorem map_eq_error_iff {x : Except ε α} {f : α → β} {e : ε} :
    f <$> x = .error e ↔ x = .error e := by
  cases x <;> simp

/-- A computation with numbers answers what it answers on its own. -/
theorem lift_eq_ok_iff {x : Except NumberFault α} {a : α} :
    (liftM x : Except Fault α) = .ok a ↔ x = .ok a := by
  cases x <;> simp [liftM, monadLift, MonadLift.monadLift]

/-- The steps of a list answer one by one. -/
theorem mapM_eq_ok_iff {f : α → Except ε β} {xs : List α} {ys : List β} :
    xs.mapM f = .ok ys ↔ List.Forall₂ (fun x y => f x = .ok y) xs ys := by
  induction xs generalizing ys with
  | nil => simp [eq_comm]
  | cons x rest ih =>
      simp only [List.mapM_cons, bind_eq_ok_iff, pure_eq_ok, Except.ok.injEq,
        List.forall₂_cons_left_iff]
      constructor
      · rintro ⟨y, hy, rest', hrest, rfl⟩
        exact ⟨y, rest', hy, ih.1 hrest, rfl⟩
      · rintro ⟨y, rest', hy, hrest, rfl⟩
        exact ⟨y, hy, rest', ih.2 hrest, rfl⟩

/-- Where every step of a list answers, so does the list. -/
theorem exists_mapM_eq_ok {f : α → Except ε β} {xs : List α} (h : ∀ x ∈ xs, ∃ y, f x = .ok y) :
    ∃ ys, xs.mapM f = .ok ys := by
  induction xs with
  | nil => exact ⟨[], rfl⟩
  | cons x rest ih =>
      obtain ⟨y, hy⟩ := h x List.mem_cons_self
      obtain ⟨ys, hys⟩ := ih fun z hz => h z (List.mem_cons_of_mem x hz)
      exact ⟨y :: ys, by simp [List.mapM_cons, hy, hys]⟩

theorem exists_mem_of_forall₂ {R : α → β → Prop} {xs : List α} {ys : List β}
    (h : List.Forall₂ R xs ys) {y : β} (hy : y ∈ ys) : ∃ x ∈ xs, R x y := by
  induction h with
  | nil => simp at hy
  | @cons x y' xs ys first _ ih =>
      rcases List.mem_cons.1 hy with rfl | later
      · exact ⟨x, List.mem_cons_self, first⟩
      · obtain ⟨z, hz, related⟩ := ih later
        exact ⟨z, List.mem_cons_of_mem x hz, related⟩

/-- Every answer of a list is the answer of one of its steps. -/
theorem exists_step_of_mapM {f : α → Except ε β} {xs : List α} {ys : List β}
    (h : xs.mapM f = .ok ys) {y : β} (hy : y ∈ ys) : ∃ x ∈ xs, f x = .ok y :=
  exists_mem_of_forall₂ (mapM_eq_ok_iff.1 h) hy

/-- Every step of a list has its answer among those of the list. -/
theorem exists_answer_of_mapM {f : α → Except ε β} {xs : List α} {ys : List β}
    (h : xs.mapM f = .ok ys) {x : α} (hx : x ∈ xs) : ∃ y ∈ ys, f x = .ok y :=
  exists_mem_of_forall₂ (R := fun y x => f x = .ok y) (mapM_eq_ok_iff.1 h).flip hx

/-! ## Answers that may be nothing -/

/-- What the steps of a list answer, without those that answer nothing. -/
def collect (f : α → Except ε (Option β)) (xs : List α) : Except ε (List β) :=
  (·.filterMap id) <$> xs.mapM f

section Collect

variable {f g : α → Except ε (Option β)} {xs ys : List α}

@[simp] theorem collect_nil (f : α → Except ε (Option β)) : collect f [] = .ok [] := rfl

theorem collect_cons (f : α → Except ε (Option β)) (x : α) (xs : List α) : collect f (x :: xs) = (do
    let first ← f x
    let others ← collect f xs
    return first.toList ++ others) := by
  unfold collect
  rw [List.mapM_cons]
  cases f x with
  | error e => rfl
  | ok answer =>
      cases xs.mapM f with
      | error e => rfl
      | ok answers => cases answer <;> simp

theorem collect_append (f : α → Except ε (Option β)) (xs ys : List α) : collect f (xs ++ ys) = (do
    let first ← collect f xs
    let others ← collect f ys
    return first ++ others) := by
  induction xs with
  | nil => cases h : collect f ys <;> simp [h]
  | cons x xs ih =>
      rw [List.cons_append, collect_cons, collect_cons, ih]
      cases f x <;> cases collect f xs <;> cases collect f ys <;> simp

theorem collect_congr (h : ∀ x ∈ xs, f x = g x) : collect f xs = collect g xs := by
  induction xs with
  | nil => rfl
  | cons x xs ih =>
      rw [List.forall_mem_cons] at h
      rw [collect_cons, collect_cons, h.1, ih h.2]

theorem collect_map {γ : Type} (f : α → Except ε (Option β)) (h : γ → α) (xs : List γ) :
    collect f (xs.map h) = collect (fun x => f (h x)) xs := by
  induction xs with
  | nil => rfl
  | cons x xs ih => rw [List.map_cons, collect_cons, collect_cons, ih]

/-- Steps that are left out answer nothing. -/
theorem collect_filter (f : α → Except ε (Option β)) (p : α → Bool) (xs : List α) :
    collect f (xs.filter p) = collect (fun x => if p x then f x else .ok none) xs := by
  induction xs with
  | nil => rfl
  | cons x xs ih =>
      cases h : p x with
      | true => rw [List.filter_cons_of_pos h, collect_cons, collect_cons, ih, if_pos h]
      | false =>
          rw [List.filter_cons_of_neg (by simp [h]), collect_cons, ih, if_neg (by simp [h])]
          cases h : collect (fun x => if p x then f x else .ok none) xs <;> simp

/-- Steps of which some fall silent answer a part of what all of them answer, and the whole exactly when
nothing is lost. -/
theorem collect_sublist (h : ∀ x ∈ xs, f x = .ok none ∨ f x = g x) {ys : List β}
    (answer : collect g xs = .ok ys) :
    ∃ kept, collect f xs = .ok kept ∧ kept.Sublist ys ∧ (kept = ys ↔ ∀ x ∈ xs, f x = g x) := by
  induction xs generalizing ys with
  | nil =>
      obtain rfl := Except.ok.inj answer
      exact ⟨[], rfl, .slnil, by simp⟩
  | cons x xs ih =>
      rw [List.forall_mem_cons] at h
      rw [collect_cons] at answer ⊢
      obtain ⟨first, one, answer⟩ := bind_eq_ok_iff.1 answer
      obtain ⟨others, more, answer⟩ := bind_eq_ok_iff.1 answer
      obtain rfl := Except.ok.inj answer
      obtain ⟨kept, part, sub, whole⟩ := ih h.2 more
      by_cases same : f x = g x
      · refine ⟨first.toList ++ kept, ?_, sub.append_left _, ?_⟩
        · rw [same, one, part]
          rfl
        · rw [List.append_cancel_left_eq, whole, List.forall_mem_cons, and_iff_right same]
      · have silent := h.1.resolve_right same
        refine ⟨kept, ?_, sub.trans (List.sublist_append_right _ _), ?_⟩
        · rw [silent, part]
          rfl
        · -- an answer is lost
          obtain ⟨y, rfl⟩ : ∃ y, first = some y := by
            cases first with
            | none => exact absurd (silent.trans one.symm) same
            | some y => exact ⟨y, rfl⟩
          refine iff_of_false (fun equal => ?_) fun all => same (all x List.mem_cons_self)
          have shorter := sub.length_le
          rw [equal, List.length_append, Option.toList_some, List.length_singleton] at shorter
          omega

end Collect

theorem filterAuxM_eq_ok {f : α → Except ε Bool} {keep : α → Bool} {xs : List α}
    (h : ∀ x ∈ xs, f x = .ok (keep x)) (kept : List α) :
    xs.filterAuxM f kept = .ok ((xs.filter keep).reverse ++ kept) := by
  induction xs generalizing kept with
  | nil => rfl
  | cons x rest ih =>
      simp only [List.forall_mem_cons] at h
      rw [List.filterAuxM, h.1, ok_bind, ih h.2]
      cases hx : keep x <;> simp [hx]

/-- A list of tests that all answer keeps what they say. -/
theorem filterM_eq_ok {f : α → Except ε Bool} {keep : α → Bool} {xs : List α}
    (h : ∀ x ∈ xs, f x = .ok (keep x)) : xs.filterM f = .ok (xs.filter keep) := by
  rw [List.filterM, filterAuxM_eq_ok h]
  simp

theorem exists_sublist_of_filterAuxM {f : α → Except ε Bool} {xs kept ys : List α}
    (h : xs.filterAuxM f kept = .ok ys) : ∃ zs : List α, zs.Sublist xs ∧ ys = zs.reverse ++ kept := by
  induction xs generalizing kept with
  | nil => exact ⟨[], .slnil, (Except.ok.inj h).symm⟩
  | cons x rest ih =>
      obtain ⟨keep, -, h⟩ := bind_eq_ok_iff.1 h
      obtain ⟨zs, sub, rfl⟩ := ih h
      cases keep with
      | true => exact ⟨x :: zs, sub.cons_cons x, by simp⟩
      | false => exact ⟨zs, sub.cons x, rfl⟩

/-- Tests keep a part of what they are put to. -/
theorem sublist_of_filterM {f : α → Except ε Bool} {xs ys : List α} (h : xs.filterM f = .ok ys) :
    ys.Sublist xs := by
  obtain ⟨kept, aux, rfl⟩ := map_eq_ok_iff.1 h
  obtain ⟨zs, sub, rfl⟩ := exists_sublist_of_filterAuxM aux
  simpa using sub

/-- Lists that agree item by item under two functions have one image. -/
theorem map_eq_map_of_forall₂ {f : α → γ} {g : β → γ} {xs : List α} {ys : List β}
    (h : List.Forall₂ (fun x y => f x = g y) xs ys) : xs.map f = ys.map g := by
  induction h with
  | nil => rfl
  | cons same _ ih => rw [List.map_cons, List.map_cons, same, ih]

end Deliberation
