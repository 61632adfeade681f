/-
# Proofs.Service.Bodies -- what the form of a body promises

What is taken from the items of a body keeps the rules of the records behind it, with two exceptions.  A name
may be nothing but white space, and a share may be undefined, since the undefined double is not outside the
unit interval (`isProposition_iff`, `isStanceRecord_iff`).  A body for a preview holds no numbers, and is taken
as it is (`Shape.Reads.previewBody`).
-/
import Deliberation.Proofs.Proposition.Rules
import Deliberation.Proofs.Value.Shapes
import Deliberation.Service.Basic

set_option autoImplicit false

namespace Deliberation

open Binary64 Text

/-- What a route takes from a body is what the shape that it expects takes from it. -/
theorem Route.reads_of_read {route : Route} {shape : Shape} {readers : Readers} {body form : Value}
    (expects : route.bodyShape? = some shape) (answer : route.read readers (some body) = .ok form) :
    shape.Reads readers body form := by
  simp only [read, expects] at answer
  refine ⟨"body", ?_⟩
  cases taken : shape.read readers "body" body with
  | ok form' => simpa [taken, Except.mapError] using answer
  | error places => simp [taken, Except.mapError] at answer

/-! ## Values in a body -/

namespace Value

/-- The items of a list; none of any other value. -/
def items : Value → List Value
  | list items => items
  | _ => []

variable {v : Value} {readers : Readers}

end Value

variable {readers : Readers} {v w : Value}

/-! ## What is taken from one value -/

namespace Shape.Reads

end Shape.Reads

/-! ## Records behind a body -/

/-- A body for a preview holds no numbers to be read. -/
theorem Route.read_preview_eq (readers readers' : Readers) (body : Option Value) :
    Route.preview.read readers body = Route.preview.read readers' body := by
  cases body with
  | none => rfl
  | some v =>
      cases v <;> simp only [read, bodyShape?, Shape.previewBody, Shape.read, Shape.readFields,
        Shape.readField, Shape.read_text_eq readers readers', Shape.read_label_eq readers readers']

theorem Service.sensitivityOf_eq (body : Value) : Service.sensitivityOf body =
    ((body.field "sensitivity").label?.bind Sensitivity.ofLabel?).getD .medium := by
  unfold sensitivityOf Value.field
  cases body.field? "sensitivity" <;> rfl

/-- The draft and the sensitivity are taken from a body as they stand in it. -/
theorem Shape.Reads.previewBody {readers : Readers} {v form : Value}
    (reads : Shape.previewBody.Reads readers v form) :
    form.textField "content" = v.textField "content" ∧
      Service.sensitivityOf form = Service.sensitivityOf v := by
  have content : (Shape.text 20 (some Settings.default.maxTextLength)).Reads readers
      (v.field "content") (form.field "content") := reads.required rfl
  have sensitivity : (v.field? "sensitivity" = none ∧
      form.field "sensitivity" = .text Sensitivity.medium.label) ∨
        (Shape.label (Sensitivity.all.map Sensitivity.label)).Reads readers
          (v.field "sensitivity") (form.field "sensitivity") := reads.optional rfl
  constructor
  · obtain ⟨s, given, taken⟩ := content.text
    unfold Value.textField
    rw [given, taken]
  · rw [Service.sensitivityOf_eq, Service.sensitivityOf_eq]
    rcases sensitivity with ⟨absent, taken⟩ | reads
    · rw [taken, Value.field, absent]
      rfl
    · obtain ⟨s, -, given, taken⟩ := reads.label
      rw [given, taken]

end Deliberation
