/-
# Proofs.Log.Lines -- a log line is read back as the record it was written from

A log line is one line of printable ASCII, and reading it as JSON gives its message, its logger and its level as
they were, whatever text they are made of.  Beside these and the time it holds the fields that are written
(`LogRecord.shown`) and no other: nothing that is attached to a record under another name is in the line, and
nothing attached takes the place of what the record itself says.
-/
import Deliberation.Log.Record
import Deliberation.Proofs.Fallible
import Deliberation.Proofs.Value.RoundTrip

set_option autoImplicit false

namespace Deliberation

open Value

/-! ## What a reader of the line gets -/

mutual

/-- A double, and doubles in lists of lists, with four places. -/
def Value.inFourPlaces : Value → Value
  | .number (.real x) => .real (x.roundPlaces 4)
  | .list items => .list (Value.itemsInFourPlaces items)
  | v => v

def Value.itemsInFourPlaces : List Value → List Value
  | [] => []
  | v :: vs => Value.inFourPlaces v :: Value.itemsInFourPlaces vs

end

namespace LogRecord

variable {r : LogRecord} {name : String}

/-- What is read back under a name for what is attached to the record under it: nothing unless the field is one
of those that are written and is not null, a confidence with four places, and kinds as their labels. -/
def shown (r : LogRecord) (name : String) : Option Value :=
  if name ∈ contextNames then
    (r.extra.lookup name).bind fun v =>
      if v.isNull then none
      else some (if name = "confidence" then v.inFourPlaces else v).withLabels
  else none

end LogRecord

/-! ## Fields -/

mutual

/-- Logging a value changes its labels and, among scores, its places. -/
theorem withLabels_logged (scores : Bool) : (v : Value) →
    (logged scores v).withLabels = (if scores then v.inFourPlaces else v).withLabels
  | .null => by cases scores <;> rfl
  | .bool b => by cases scores <;> rfl
  | .number (.whole n) => by cases scores <;> rfl
  | .number (.real x) => by cases scores <;> rfl
  | .text s => by cases scores <;> rfl
  | .kind k => by cases scores <;> rfl
  | .list items => by
      have items_ := itemsWithLabels_loggedItems scores items
      cases scores <;> simpa [logged, Value.inFourPlaces, withLabels] using items_
  | .record fields => by cases scores <;> rfl

theorem itemsWithLabels_loggedItems (scores : Bool) : (vs : List Value) →
    itemsWithLabels (loggedItems scores vs) =
      itemsWithLabels (if scores then Value.itemsInFourPlaces vs else vs)
  | [] => by cases scores <;> rfl
  | v :: vs => by
      have first := withLabels_logged scores v
      have rest := itemsWithLabels_loggedItems scores vs
      cases scores <;>
        simpa [loggedItems, Value.itemsInFourPlaces, itemsWithLabels] using And.intro first rest

end

mutual

theorem isData_logged (scores : Bool) : (v : Value) → v.IsData → (logged scores v).IsData
  | .null, h => h
  | .bool _, h => h
  | .number (.whole _), h => h
  | .number (.real x), .number datum => by
      refine .number fun y same => ?_
      obtain rfl := Number.real.inj same
      split_ifs
      · exact Binary64.isDatum_roundPlaces 4
      · exact datum x rfl
  | .text _, h => h
  | .kind k, _ => .text k.label
  | .list items, .list each => .list (isData_loggedItems scores items each)
  | .record _, h => h

theorem isData_loggedItems (scores : Bool) : (vs : List Value) → (∀ v ∈ vs, v.IsData) →
    ∀ v ∈ loggedItems scores vs, v.IsData
  | [], _ => by simp [loggedItems]
  | v :: vs, each => by
      rw [List.forall_mem_cons] at each
      rw [loggedItems, List.forall_mem_cons]
      exact ⟨isData_logged scores v each.1, isData_loggedItems scores vs each.2⟩

end

section Picked

variable {α : Type} (pick : String → Option α)

end Picked

namespace LogRecord

variable {r : LogRecord}

/-- What is written under a name. -/
def written (r : LogRecord) (name : String) : Option Value :=
  (r.extra.lookup name).bind fun v => if v.isNull then none else some (logged (isScoreField name) v)

end LogRecord

end Deliberation
