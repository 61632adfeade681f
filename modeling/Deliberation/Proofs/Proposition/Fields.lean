/-
# Proofs.Proposition.Fields -- what is read from the fields of a record

Each field of a record is read by a function of its own, which answers for the values of one kind and refuses
all others.  For every one of them: what it answers, and for which values.
-/
import Deliberation.Proofs.Proposition.Stances

set_option autoImplicit false

namespace Deliberation

open Binary64 Text

/-! ## Kinds of values -/

namespace Value

def IsRecord (v : Value) : Prop := ∃ fields, v = .record fields

def IsText (v : Value) : Prop := ∃ s, v = .text s

/-- A text that is more than white space. -/
def IsName (v : Value) : Prop := ∃ s, v = .text s ∧ isBlankText s = false

/-- A whole number that is not negative. -/
def IsCount (v : Value) : Prop := ∃ n : ℕ, v = .whole n

/-- A number of the unit interval. -/
def IsShare (v : Value) : Prop := ∃ n, v = .number n ∧ OfUnit n.exact

end Value

theorem Value.IsName.not_blank {v : Value} {s : String} (named : v.IsName) (text : v = .text s) :
    isBlankText s = false := by
  obtain ⟨t, rfl, filled⟩ := named
  exact Value.text.inj text ▸ filled

theorem inUnit_iff_ofUnit {a : Number} : a.inUnit = true ↔ OfUnit a.exact := by
  constructor
  · exact ofUnit_of_inUnit
  · rintro ⟨finiteScore, nonneg, le⟩
    have low : Number.real (.finite 0) ≤ a := (le_iff_of_isFinite rfl finiteScore).2 nonneg
    have high : a ≤ Number.real (.finite 1) := (le_iff_of_isFinite finiteScore rfl).2 le
    simp [Number.inUnit, low, high]

/-! ## Readers -/

variable {v : Value}

theorem requireRecord_eq_ok_iff {fault : RecordFault} {u : Unit} :
    requireRecord v fault = .ok u ↔ v.IsRecord := by
  cases v <;> simp [requireRecord, Value.IsRecord]

theorem requireName_eq_ok_iff {fault : RecordFault} {s : String} :
    requireName v fault = .ok s ↔ v = .text s ∧ isBlankText s = false := by
  cases v with
  | text t =>
      rw [requireName, Value.text.injEq]
      constructor
      · intro read
        split_ifs at read with blank
        obtain rfl := Except.ok.inj read
        exact ⟨rfl, Bool.not_eq_true _ ▸ blank⟩
      · rintro ⟨rfl, filled⟩
        rw [filled]
        rfl
  | _ => simp [requireName]

theorem requireStatement_eq_ok_iff {s : String} : requireStatement v = .ok s ↔ v = .text s := by
  cases v <;> simp [requireStatement]

theorem requireCount_eq_ok_iff {name : String} {n : ℕ} :
    requireCount v name = .ok n ↔ v = .whole n := by
  cases v with
  | number a =>
      cases a with
      | whole m =>
          simp only [requireCount, Value.whole, Value.number.injEq, Number.whole.injEq]
          split_ifs with nonneg
          · rw [Except.ok.injEq]
            omega
          · exact iff_of_false (by simp) (by omega)
      | real x => simp [requireCount, Value.whole]
  | _ => simp [requireCount, Value.whole]

theorem optionalMetadata_eq_ok_iff {metadata : Option (List (String × Value))} :
    optionalMetadata v = .ok metadata ↔ v = (metadata.map .record).getD .null := by
  cases metadata <;> cases v <;> simp [optionalMetadata]

theorem optionalNote_eq_ok_iff {note : Option String} :
    optionalNote v = .ok note ↔ v = .optText note := by
  cases note <;> cases v <;> simp [optionalNote, Value.optText]

/-- A share is taken over as the double that compares as it does. -/
def TakesShare (v : Value) (consensus : Option Binary64) : Prop :=
  (v = .null ∧ consensus = none) ∨ ∃ n, v = .number n ∧ consensus = some n.exact

theorem optionalConsensus_eq_ok_iff {consensus : Option Binary64} :
    optionalConsensus v = .ok consensus ↔ TakesShare v consensus ∧ (v = .null ∨ v.IsShare) := by
  cases v with
  | number a =>
      simp only [optionalConsensus, TakesShare, Value.IsShare, Value.number.injEq, reduceCtorEq,
        false_and, false_or, exists_eq_left', ← inUnit_iff_ofUnit]
      split_ifs with unit
      · simp [unit, eq_comm]
      · simp [unit]
  | _ => simp [optionalConsensus, TakesShare, Value.IsShare, eq_comm]

theorem Stance.ofValue?_eq_some_iff {stance : Stance} :
    Stance.ofValue? v = some stance ↔ v = .text stance.label := by
  cases v with
  | text s =>
      rw [Stance.ofValue?, Value.text.injEq]
      constructor
      · intro named
        have same := List.find?_some named
        exact (beq_iff_eq.1 same).symm
      · rintro rfl
        cases stance <;> decide
  | _ => simp [Stance.ofValue?]

end Deliberation
