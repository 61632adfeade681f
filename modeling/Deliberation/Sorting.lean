/-
# Sorting -- an order of records by binary insertion

`sortBy` takes the run that already stands in order at the front of a list and puts the other elements
into it one after the other, each at the place that halving the sorted part finds, behind those it does
not precede.

Whatever the comparison says, the result has the elements of the list (`sortBy_perm`).  Where it is a
strict weak order (`Strict`), no element stands behind one that it precedes (`pairwise_sortBy`); it is
enough that the elements of the list are ordered so (`pairwise_sortBy_of_mem`).  Scores that may be
undefined compare as unrelated to all others, which is no such order; for them the result depends on
which elements are compared, and this module states which.
-/

set_option autoImplicit false

namespace Deliberation

/-- A comparison that orders all elements but for ties: nothing precedes itself, precedence is transitive,
and where one element precedes another, a third one stands behind the former or before the latter. -/
structure Strict {α : Type} (precedes : α → α → Bool) : Prop where
  irrefl : ∀ a, precedes a a = false
  between : ∀ a b c, precedes a c = true → precedes a b = true ∨ precedes b c = true
  trans : ∀ a b c, precedes a b = true → precedes b c = true → precedes a c = true

namespace Strict

variable {α : Type} {precedes : α → α → Bool}

theorem asymm (h : Strict precedes) {a b : α} (hab : precedes a b = true) :
    precedes b a = false := by
  cases hba : precedes b a with
  | false => rfl
  | true => simpa [h.irrefl] using h.trans a b a hab hba

/-- Not preceding is transitive. -/
theorem not_trans (h : Strict precedes) {a b c : α} (hba : precedes b a = false)
    (hcb : precedes c b = false) : precedes c a = false := by
  cases hca : precedes c a with
  | false => rfl
  | true => rcases h.between c b a hca with hx | hx <;> simp_all

end Strict

section

variable {α : Type} (precedes : α → α → Bool)

/-- The elements at the front of a list that follow the last one seen as they should, and the rest. -/
def runAfter (follows : α → α → Bool) (last : α) : List α → List α × List α
  | [] => ([], [])
  | x :: rest =>
    if follows last x then (x :: (runAfter follows x rest).1, (runAfter follows x rest).2)
    else ([], x :: rest)

/-- The longest run at the front of a list, put in order, and the rest.  A run falls strictly where the
second element precedes the first, and is turned round then; else no element precedes the one before. -/
def leadingRun : List α → List α × List α
  | x :: y :: rest =>
    if precedes y x then
      let run := runAfter (fun a b => precedes b a) y rest
      ((x :: y :: run.1).reverse, run.2)
    else
      let run := runAfter (fun a b => !precedes b a) y rest
      (x :: y :: run.1, run.2)
  | few => (few, [])

/-- A sorted list with one more element.  Its place is found by comparing it with the middle one and
going on in the half before or behind. -/
def insertByHalves (x : α) (xs : List α) : List α :=
  match _split : xs.drop (xs.length / 2) with
  | [] => [x]
  | middle :: after =>
    if precedes x middle then insertByHalves x (xs.take (xs.length / 2)) ++ middle :: after
    else xs.take (xs.length / 2) ++ middle :: insertByHalves x after
termination_by xs.length
decreasing_by
  · have := congrArg List.length _split
    simp only [List.length_drop, List.length_cons, List.length_take] at *
    omega
  · have := congrArg List.length _split
    simp only [List.length_drop, List.length_cons] at *
    omega

/-- The elements in order, ties as they stood. -/
def sortBy (xs : List α) : List α :=
  (leadingRun precedes xs).2.foldl (fun sorted x => insertByHalves precedes x sorted)
    (leadingRun precedes xs).1

/-! ## The elements are kept -/

theorem runAfter_append (follows : α → α → Bool) (last : α) (xs : List α) :
    (runAfter follows last xs).1 ++ (runAfter follows last xs).2 = xs := by
  fun_induction runAfter follows last xs with
  | case1 => rfl
  | case2 last x rest _ ih => simp [ih]
  | case3 => rfl

theorem leadingRun_perm (xs : List α) :
    ((leadingRun precedes xs).1 ++ (leadingRun precedes xs).2).Perm xs := by
  fun_cases leadingRun precedes xs with
  | case1 x y rest _ run =>
    have h : run.1 ++ run.2 = rest := runAfter_append _ y rest
    exact ((List.reverse_perm (x :: y :: run.1)).append_right run.2).trans (by simp [h])
  | case2 x y rest _ run =>
    have h : run.1 ++ run.2 = rest := runAfter_append _ y rest
    simp [h]
  | case3 => simp

theorem insertByHalves_perm (x : α) (xs : List α) :
    (insertByHalves precedes x xs).Perm (x :: xs) := by
  fun_induction insertByHalves precedes x xs with
  | case1 xs h => 
    have : xs = [] := by
      have := congrArg List.length h
      simp only [List.length_drop, List.length_nil] at this
      exact List.eq_nil_of_length_eq_zero (by omega)
    simp [this]
  | case2 xs middle after h _ ih =>
    have split : xs.take (xs.length / 2) ++ middle :: after = xs := by
      rw [← h, List.take_append_drop]
    exact (ih.append_right _).trans (by simp [split])
  | case3 xs middle after h _ ih =>
    have split : xs.take (xs.length / 2) ++ middle :: after = xs := by
      rw [← h, List.take_append_drop]
    refine ((ih.cons middle).append_left _).trans ?_
    refine (List.Perm.append_left _ (List.Perm.swap x middle after)).trans ?_
    exact List.perm_middle.trans (by rw [split])

theorem foldl_insertByHalves_perm (xs sorted : List α) :
    (xs.foldl (fun sorted x => insertByHalves precedes x sorted) sorted).Perm (sorted ++ xs) := by
  induction xs generalizing sorted with
  | nil => simp
  | cons x rest ih =>
    exact (ih _).trans <|
      ((insertByHalves_perm precedes x sorted).append_right rest).trans List.perm_middle.symm

/-- Sorting keeps every element, whatever the comparison. -/
theorem sortBy_perm (xs : List α) : (sortBy precedes xs).Perm xs :=
  (foldl_insertByHalves_perm precedes _ _).trans (leadingRun_perm precedes xs)

/-! ## The elements are in order -/

variable {precedes}

/-- The second element does not precede the first. -/
abbrev InOrder (precedes : α → α → Bool) (a b : α) : Prop := precedes b a = false

theorem pairwise_runAfter (follows : α → α → Bool) (last : α) (xs : List α)
    (htrans : ∀ a b c, follows a b = true → follows b c = true → follows a c = true) :
    (last :: (runAfter follows last xs).1).Pairwise (fun a b => follows a b = true) := by
  fun_induction runAfter follows last xs with
  | case1 => simp
  | case2 last x rest h ih =>
    refine List.pairwise_cons.2 ⟨fun y hy => ?_, ih⟩
    rcases List.mem_cons.1 hy with rfl | hy
    · exact h
    · exact htrans _ _ _ h ((List.pairwise_cons.1 ih).1 y hy)
  | case3 => simp

theorem pairwise_leadingRun (h : Strict precedes) (xs : List α) :
    (leadingRun precedes xs).1.Pairwise (InOrder precedes) := by
  match xs with
  | [] => exact List.Pairwise.nil
  | [x] => exact List.pairwise_singleton _ x
  | x :: y :: rest =>
    cases hyx : precedes y x with
    | true =>
      have sorted := pairwise_runAfter (fun a b => precedes b a) x (y :: rest)
        fun a b c hab hbc => h.trans c b a hbc hab
      rw [runAfter, if_pos hyx] at sorted
      rw [leadingRun, if_pos hyx]
      exact List.pairwise_reverse.2 (sorted.imp fun hab => h.asymm hab)
    | false =>
      have sorted := pairwise_runAfter (fun a b => !precedes b a) x (y :: rest)
        fun a b c hab hbc => by
          simp only [Bool.not_eq_true'] at *
          exact h.not_trans hab hbc
      rw [runAfter, if_pos (by simpa using hyx)] at sorted
      rw [leadingRun, if_neg (by simp [hyx])]
      exact sorted.imp fun hab => by simpa using hab

theorem pairwise_insertByHalves (h : Strict precedes) (x : α) (xs : List α)
    (sorted : xs.Pairwise (InOrder precedes)) :
    (insertByHalves precedes x xs).Pairwise (InOrder precedes) := by
  fun_induction insertByHalves precedes x xs with
  | case1 => exact List.pairwise_singleton _ x
  | case2 xs middle after hd hx ih =>
    rw [← List.take_append_drop (xs.length / 2) xs, hd] at sorted
    obtain ⟨before, behind, across⟩ := List.pairwise_append.1 sorted
    refine List.pairwise_append.2 ⟨ih before, behind, fun a ha b hb => ?_⟩
    rcases List.mem_cons.1 ((insertByHalves_perm precedes x _).mem_iff.1 ha) with rfl | ha
    · rcases List.mem_cons.1 hb with rfl | hb
      · exact h.asymm hx
      · exact h.not_trans (h.asymm hx) ((List.pairwise_cons.1 behind).1 b hb)
    · exact across a ha b hb
  | case3 xs middle after hd hx ih =>
    rw [← List.take_append_drop (xs.length / 2) xs, hd] at sorted
    obtain ⟨before, behind, across⟩ := List.pairwise_append.1 sorted
    have hx : precedes x middle = false := by simpa using hx
    refine List.pairwise_append.2 ⟨before, List.pairwise_cons.2
      ⟨fun b hb => ?_, ih (List.pairwise_cons.1 behind).2⟩, fun a ha b hb => ?_⟩
    · rcases List.mem_cons.1 ((insertByHalves_perm precedes x _).mem_iff.1 hb) with rfl | hb
      · exact hx
      · exact (List.pairwise_cons.1 behind).1 b hb
    · have ham := across a ha middle List.mem_cons_self
      rcases List.mem_cons.1 hb with rfl | hb
      · exact ham
      · rcases List.mem_cons.1 ((insertByHalves_perm precedes x _).mem_iff.1 hb) with rfl | hb
        · exact h.not_trans ham hx
        · exact across a ha b (List.mem_cons_of_mem _ hb)

theorem pairwise_foldl_insertByHalves (h : Strict precedes) (xs sorted : List α)
    (hs : sorted.Pairwise (InOrder precedes)) :
    (xs.foldl (fun sorted x => insertByHalves precedes x sorted) sorted).Pairwise
      (InOrder precedes) := by
  induction xs generalizing sorted with
  | nil => exact hs
  | cons x rest ih => exact ih _ (pairwise_insertByHalves h x sorted hs)

/-- After sorting by a strict weak order, no element stands behind one that it precedes. -/
theorem pairwise_sortBy (h : Strict precedes) (xs : List α) :
    (sortBy precedes xs).Pairwise (InOrder precedes) :=
  pairwise_foldl_insertByHalves h _ _ (pairwise_leadingRun h xs)

end

/-! ## Sorting sees what the comparison sees -/

section

variable {α β : Type} (precedes : α → α → Bool) (f : β → α)

theorem runAfter_map (follows : α → α → Bool) (last : β) (xs : List β) :
    runAfter follows (f last) (xs.map f) =
      let run := runAfter (fun a b => follows (f a) (f b)) last xs
      (run.1.map f, run.2.map f) := by
  induction xs generalizing last with
  | nil => rfl
  | cons x rest ih =>
    rw [List.map_cons, runAfter, runAfter, ih x]
    cases follows (f last) (f x) <;> rfl

theorem leadingRun_map (xs : List β) :
    leadingRun precedes (xs.map f) =
      let run := leadingRun (fun a b => precedes (f a) (f b)) xs
      (run.1.map f, run.2.map f) := by
  match xs with
  | [] => rfl
  | [x] => rfl
  | x :: y :: rest =>
    simp only [List.map_cons, leadingRun, runAfter_map]
    cases precedes (f y) (f x) <;> simp

theorem insertByHalves_map (x : β) (xs : List β) :
    insertByHalves precedes (f x) (xs.map f) =
      (insertByHalves (fun a b => precedes (f a) (f b)) x xs).map f := by
  fun_induction insertByHalves (fun a b => precedes (f a) (f b)) x xs with
  | case1 xs h =>
    rw [insertByHalves]
    split
    · rfl
    · next split => simp [← List.map_drop, h] at split
  | case2 xs middle after h before ih =>
    rw [insertByHalves]
    split
    · next split => simp [← List.map_drop, h] at split
    · next middle' after' split =>
      simp only [List.length_map, ← List.map_drop, h, List.map_cons, List.cons.injEq] at split
      obtain ⟨rfl, rfl⟩ := split
      simp [before, ← List.map_take, ih]
  | case3 xs middle after h before ih =>
    rw [insertByHalves]
    split
    · next split => simp [← List.map_drop, h] at split
    · next middle' after' split =>
      simp only [List.length_map, ← List.map_drop, h, List.map_cons, List.cons.injEq] at split
      obtain ⟨rfl, rfl⟩ := split
      simp [before, ← List.map_take, ih]

theorem sortBy_map (xs : List β) :
    sortBy precedes (xs.map f) = (sortBy (fun a b => precedes (f a) (f b)) xs).map f := by
  have inserted (ys sorted : List β) :
      (ys.map f).foldl (fun sorted x => insertByHalves precedes x sorted) (sorted.map f) =
        (ys.foldl (fun sorted x =>
          insertByHalves (fun a b => precedes (f a) (f b)) x sorted) sorted).map f := by
    induction ys generalizing sorted with
    | nil => rfl
    | cons y rest ih => rw [List.map_cons, List.foldl_cons, insertByHalves_map, ih, List.foldl_cons]
  rw [sortBy, leadingRun_map, inserted]
  rfl

variable {precedes}

/-- A list is put in order if its own elements are ordered but for ties, whatever others there are. -/
theorem pairwise_sortBy_of_mem {p : α → Prop} (h : Strict fun a b : Subtype p => precedes a b)
    {xs : List α} (hp : ∀ x ∈ xs, p x) : (sortBy precedes xs).Pairwise (InOrder precedes) := by
  have sorted := pairwise_sortBy h (xs.attachWith p hp)
  have unmarked : sortBy precedes xs =
      (sortBy (fun a b : Subtype p => precedes a b) (xs.attachWith p hp)).map Subtype.val := by
    rw [← sortBy_map, List.attachWith_map_subtype_val]
  rw [unmarked, List.pairwise_map]
  exact sorted

end

end Deliberation
