/-
# Proofs.Value.Shapes -- what a shape takes from a value

A value that has a shape is taken apart as the shape says (`Shape.Reads`), in one lemma for each shape: texts
and records of any fields are taken as they are, numbers as their readers convert them, and lists item by
item.  From a record every field of the shape is taken: the field of the given record, or the value stated for
a field that was left out (`Reads.field`).
-/
import Deliberation.Proofs.Fallible
import Deliberation.Value.Shape

set_option autoImplicit false

namespace Deliberation.Shape

-- A shape reads by cases on the value: most kinds of values fail at once, and `simp` says so.
attribute [local simp] read readFields readField

variable {readers : Readers} {v w : Value} {place name : String}

/-! ## Readings put together -/

theorem readIf_eq_ok_iff {holds : Bool} :
    readIf holds place v = .ok w ↔ holds = true ∧ v = w := by
  cases holds <;> simp [readIf]

theorem both_eq_ok_iff {α β γ : Type} {join : α → β → γ} {x : Reading α} {y : Reading β} {c : γ} :
    both join x y = .ok c ↔ ∃ a b, x = .ok a ∧ y = .ok b ∧ join a b = c := by
  cases x <;> cases y <;> simp [both]

theorem each_eq_ok_iff {α β : Type} {read : α → Reading β} {xs : List α} {ys : List β} :
    each read xs = .ok ys ↔ List.Forall₂ (fun x y => read x = .ok y) xs ys := by
  induction xs generalizing ys with
  | nil => simp [each, eq_comm]
  | cons x rest ih =>
      simp only [each, both_eq_ok_iff, ih, List.forall₂_cons_left_iff]
      constructor
      · rintro ⟨y, ys, first, others, rfl⟩
        exact ⟨y, ys, first, others, rfl⟩
      · rintro ⟨y, ys, first, others, rfl⟩
        exact ⟨y, ys, first, others, rfl⟩

/-! ## Texts -/

/-- All readers take texts alike. -/
theorem read_text_eq (readers readers' : Readers) {least : ℕ} {most : Option ℕ} :
    (Shape.text least most).read readers place v = (Shape.text least most).read readers' place v := by
  cases v <;> simp only [read]

theorem read_label_eq (readers readers' : Readers) {labels : List String} :
    (Shape.label labels).read readers place v = (Shape.label labels).read readers' place v := by
  cases v <;> simp only [read]

/-! ## One lemma for each shape -/

/-- The second value is what the shape takes from the first, at whichever place that stands. -/
def Reads (readers : Readers) (shape : Shape) (v w : Value) : Prop :=
  ∃ place, shape.read readers place v = .ok w

namespace Reads

theorem text {least : ℕ} {most : Option ℕ} (reads : (Shape.text least most).Reads readers v w) :
    ∃ s, v = .text s ∧ w = .text s := by
  obtain ⟨place, answer⟩ := reads
  cases v with
  | text s => exact ⟨s, rfl, ((readIf_eq_ok_iff.1 answer).2).symm⟩
  | _ => simp at answer

theorem label {labels : List String} (reads : (Shape.label labels).Reads readers v w) :
    ∃ s ∈ labels, v = .text s ∧ w = .text s := by
  obtain ⟨place, answer⟩ := reads
  cases v with
  | text s =>
      obtain ⟨member, same⟩ := readIf_eq_ok_iff.1 answer
      exact ⟨s, List.contains_iff_mem.1 member, rfl, same.symm⟩
  | _ => simp at answer

theorem count (reads : Shape.count.Reads readers v w) : ∃ n : ℕ, w = .whole n := by
  obtain ⟨place, answer⟩ := reads
  rw [read] at answer
  split at answer
  · rename_i n found
    obtain ⟨nonneg, rfl⟩ := readIf_eq_ok_iff.1 answer
    exact ⟨n.toNat, by rw [Int.toNat_of_nonneg (of_decide_eq_true nonneg)]⟩
  · cases answer

theorem share (reads : Shape.share.Reads readers v w) :
    ∃ x, readers.double? v = some x ∧ w = .real x ∧ (Number.real x).outsideUnit = false := by
  obtain ⟨place, answer⟩ := reads
  rw [read] at answer
  split at answer
  · rename_i x found
    obtain ⟨inside, rfl⟩ := readIf_eq_ok_iff.1 answer
    exact ⟨x, found, rfl, by simpa using inside⟩
  · cases answer

theorem anyRecord (reads : Shape.anyRecord.Reads readers v w) :
    ∃ fields, v = .record fields ∧ w = .record fields := by
  obtain ⟨place, answer⟩ := reads
  cases v with
  | record fields => exact ⟨fields, rfl, (Except.ok.inj answer).symm⟩
  | _ => simp at answer

theorem orNull {shape : Shape} (reads : shape.orNull.Reads readers v w) :
    (v = .null ∧ w = .null) ∨ shape.Reads readers v w := by
  obtain ⟨place, answer⟩ := reads
  cases v with
  | null => exact .inl ⟨rfl, by simpa [eq_comm] using answer⟩
  | _ => exact .inr ⟨place, by simpa only [read] using answer⟩

theorem list {most : Option ℕ} {item : Shape} (reads : (Shape.list most item).Reads readers v w) :
    ∃ items forms, v = .list items ∧ w = .list forms ∧ within most items.length = true ∧
      List.Forall₂ (item.Reads readers) items forms := by
  obtain ⟨place, answer⟩ := reads
  cases v with
  | list items =>
      rw [read] at answer
      split_ifs at answer with short
      obtain ⟨forms, readings, rfl⟩ := map_eq_ok_iff.1 answer
      refine ⟨items, forms, rfl, rfl, short, ?_⟩
      have unnumbered := List.zipIdx_map_fst 0 items
      rw [← unnumbered, List.forall₂_map_left_iff]
      exact (each_eq_ok_iff.1 readings).imp fun _ _ reading => ⟨_, reading⟩
  | _ => simp at answer

variable {fields : List (String × Presence × Shape)} {presence : Presence} {shape : Shape}

theorem lookup_of_readFields {given forms : List (String × Value)}
    (answer : readFields readers place given fields = .ok forms)
    (expects : fields.lookup name = some (presence, shape)) :
    ∃ u, forms.lookup name = some u ∧
      readField readers place given (name, presence, shape) = .ok u := by
  induction fields generalizing forms with
  | nil => cases expects
  | cons field fields ih =>
      obtain ⟨first, rest⟩ := field
      rw [readFields, both_eq_ok_iff] at answer
      obtain ⟨u, others, taken, later, rfl⟩ := answer
      rw [List.lookup_cons] at expects ⊢
      split at expects
      · rename_i same
        obtain rfl : name = first := by simpa using same
        obtain rfl : rest = (presence, shape) := Option.some.inj expects
        exact ⟨u, by simp, taken⟩
      · rename_i other
        simpa only [other] using ih later expects

theorem isRecord (reads : (Shape.record fields).Reads readers v w) :
    (∃ given, v = .record given) ∧ ∃ forms, w = .record forms := by
  obtain ⟨place, answer⟩ := reads
  cases v with
  | record given =>
      obtain ⟨forms, -, rfl⟩ := map_eq_ok_iff.1 (by simpa only [read] using answer)
      exact ⟨⟨given, rfl⟩, forms, rfl⟩
  | _ => simp at answer

/-- A field of the shape is taken from that of the given record, or has the value stated for it. -/
theorem field (reads : (Shape.record fields).Reads readers v w)
    (expects : fields.lookup name = some (presence, shape)) :
    (v.field? name = none ∧ presence = .optional (w.field name)) ∨
      ∃ u, v.field? name = some u ∧ shape.Reads readers u (w.field name) := by
  obtain ⟨place, answer⟩ := reads
  cases v with
  | record given =>
      obtain ⟨forms, taken, rfl⟩ := map_eq_ok_iff.1 (by simpa only [read] using answer)
      obtain ⟨u, found, own⟩ := lookup_of_readFields taken expects
      have same : (Value.record forms).field name = u := by simp [Value.field, Value.field?, found]
      rw [same, Value.field?]
      cases present : given.lookup name with
      | some given' => exact .inr ⟨given', rfl, _, by simpa only [readField, present] using own⟩
      | none =>
          cases presence with
          | required => simp [present] at own
          | optional otherwise =>
              obtain rfl : otherwise = u := by simpa [present] using own
              exact .inl ⟨rfl, rfl⟩
  | _ => simp at answer

/-- A field that may not be left out. -/
theorem required (reads : (Shape.record fields).Reads readers v w)
    (expects : fields.lookup name = some (.required, shape)) :
    shape.Reads readers (v.field name) (w.field name) := by
  rcases reads.field expects with ⟨-, impossible⟩ | ⟨u, present, reads⟩
  · cases impossible
  · rwa [Value.field, present]

/-- A field that may be left out. -/
theorem optional {otherwise : Value} (reads : (Shape.record fields).Reads readers v w)
    (expects : fields.lookup name = some (.optional otherwise, shape)) :
    (v.field? name = none ∧ w.field name = otherwise) ∨
      shape.Reads readers (v.field name) (w.field name) := by
  rcases reads.field expects with ⟨absent, same⟩ | ⟨u, present, reads⟩
  · exact .inl ⟨absent, (Presence.optional.inj same).symm⟩
  · exact .inr (by rwa [Value.field, present])

end Reads

end Deliberation.Shape
