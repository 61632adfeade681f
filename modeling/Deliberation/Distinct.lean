/-
# Distinct -- each item once, in order of first occurrence
-/

set_option autoImplicit false

namespace Deliberation

variable {α : Type} [BEq α]

/-- The items of a list that are not among those already seen, each once. -/
def distinctFrom (seen : List α) : List α → List α
  | [] => []
  | x :: rest =>
    if seen.contains x then distinctFrom seen rest else x :: distinctFrom (x :: seen) rest

/-- The different items of a list, in order of first occurrence. -/
def distinct (xs : List α) : List α := distinctFrom [] xs

theorem mem_distinctFrom [LawfulBEq α] (seen xs : List α) (x : α) :
    x ∈ distinctFrom seen xs ↔ x ∈ xs ∧ x ∉ seen := by
  induction xs generalizing seen with
  | nil => simp [distinctFrom]
  | cons y rest ih =>
    by_cases h : seen.contains y = true
    · have hy : y ∈ seen := by simpa using h
      simp only [distinctFrom, h, if_true, ih, List.mem_cons]
      constructor
      · rintro ⟨hx, hs⟩; exact ⟨.inr hx, hs⟩
      · rintro ⟨rfl | hx, hs⟩
        · exact absurd hy hs
        · exact ⟨hx, hs⟩
    · have hy : y ∉ seen := by simpa using h
      simp only [distinctFrom, h, Bool.false_eq_true, if_false, List.mem_cons, ih, not_or]
      constructor
      · rintro (rfl | ⟨hx, _, hs⟩)
        · exact ⟨.inl rfl, hy⟩
        · exact ⟨.inr hx, hs⟩
      · rintro ⟨rfl | hx, hs⟩
        · exact .inl rfl
        · by_cases e : x = y
          · exact .inl e
          · exact .inr ⟨hx, e, hs⟩

/-- Nothing is lost and nothing is added. -/
theorem mem_distinct [LawfulBEq α] (xs : List α) (x : α) : x ∈ distinct xs ↔ x ∈ xs := by
  simp [distinct, mem_distinctFrom]

theorem nodup_distinctFrom [LawfulBEq α] (seen xs : List α) : (distinctFrom seen xs).Nodup := by
  induction xs generalizing seen with
  | nil => simp [distinctFrom]
  | cons y rest ih =>
    unfold distinctFrom
    split
    · exact ih seen
    · exact List.nodup_cons.2 ⟨by simp [mem_distinctFrom], ih _⟩

/-- Nothing comes twice. -/
theorem nodup_distinct [LawfulBEq α] (xs : List α) : (distinct xs).Nodup :=
  nodup_distinctFrom [] xs

end Deliberation
