/-
# Proofs.Proposition.Sides -- records with the two sides exchanged

A record read from values has a mirror image: the counts of support and of opposition change places, and
so do the two stances of the participants.  The same exchange on the values themselves
(`Value.swapSides`) renames the two counts and the two stances and touches nothing else.  Reading goes
along with it: what is accepted is accepted with the sides exchanged, as the mirror images of the records
(`readStanceRecords_swapSides`).
-/
import Deliberation.Proofs.Proposition.Fields
import Mathlib.Logic.Function.Basic

set_option autoImplicit false

namespace Deliberation

/-! ## Records -/

/-- Support for opposition, and opposition for support. -/
def Stance.opposite : Stance → Stance
  | support => oppose
  | oppose => support
  | nuanced => nuanced

@[simp] theorem Stance.opposite_opposite (s : Stance) : s.opposite.opposite = s := by
  cases s <;> rfl

theorem Stance.opposite_eq_iff (s t : Stance) : s.opposite = t ↔ s = t.opposite := by
  cases s <;> cases t <;> decide

def Alignment.swapped (a : Alignment) : Alignment := { a with stance := a.stance.opposite }

@[simp] theorem Alignment.swapped_swapped (a : Alignment) : a.swapped.swapped = a := by
  simp [swapped]

namespace StanceRecord

/-- The record with support and opposition exchanged, in the counts and in every alignment. -/
def swapped (r : StanceRecord) : StanceRecord :=
  { r with
    support := r.oppose
    oppose := r.support
    alignments := r.alignments.map Alignment.swapped }

@[simp] theorem swapped_swapped (r : StanceRecord) : r.swapped.swapped = r := by
  simp [swapped, Function.comp_def]

theorem map_swapped_swapped (records : List StanceRecord) :
    (records.map swapped).map swapped = records := by
  simp [Function.comp_def]

@[simp] theorem total_swapped (r : StanceRecord) : r.swapped.total = r.total := by
  simp only [swapped, total]
  omega

end StanceRecord

/-! ## Values -/

namespace Value

/-- The fields of a record, each under a new name and with a value changed by its old one. -/
def mapFields (name : String → String) (change : String → Value → Value) : Value → Value
  | record fields => record (fields.map fun field => (name field.1, change field.1 field.2))
  | v => v

def mapItems (f : Value → Value) : Value → Value
  | list items => list (items.map f)
  | v => v

variable {name : String → String} {change : String → Value → Value}

theorem lookup_map (injective : Function.Injective name) (change : String → Value → Value)
    (fields : List (String × Value)) (k : String) :
    (fields.map fun field => (name field.1, change field.1 field.2)).lookup (name k) =
      (fields.lookup k).map (change k) := by
  induction fields with
  | nil => rfl
  | cons field rest ih =>
      obtain ⟨n, w⟩ := field
      by_cases same : k = n
      · simp [same]
      · have kept : (k == n) = false := by simpa using same
        have renamed : (name k == name n) = false := by
          simpa using fun equal => same (injective equal)
        simp [List.lookup_cons, kept, renamed, ih]

/-- The field under a new name is the changed old one, also where there is none. -/
theorem field_mapFields (injective : Function.Injective name) (null : ∀ n, change n .null = .null)
    (v : Value) (k : String) : (v.mapFields name change).field (name k) = change k (v.field k) := by
  cases v with
  | record fields =>
      have found := lookup_map injective change fields k
      simp only [field, mapFields, field?, found]
      cases fields.lookup k with
      | none => exact (null k).symm
      | some w => rfl
  | _ => exact (null k).symm

theorem requireRecord_mapFields (v : Value) (fault : RecordFault) :
    requireRecord (v.mapFields name change) fault = requireRecord v fault := by
  cases v <;> rfl

@[simp] theorem isEmpty_mapItems (f : Value → Value) (v : Value) :
    (v.mapItems f).isEmpty = v.isEmpty := by
  cases v <;> simp [mapItems, isEmpty]

/-- The name of the opposite stance; what names no stance stays as it is. -/
def oppositeStance (v : Value) : Value :=
  match Stance.ofValue? v with
  | some stance => .text stance.opposite.label
  | none => v

theorem ofValue?_oppositeStance (v : Value) :
    Stance.ofValue? v.oppositeStance = (Stance.ofValue? v).map Stance.opposite := by
  unfold oppositeStance
  cases named : Stance.ofValue? v with
  | none => exact named
  | some stance => exact Stance.ofValue?_eq_some_iff.2 rfl

/-- An alignment with the opposite stance. -/
def swapStance : Value → Value :=
  mapFields id fun n w => if n = "stance" then w.oppositeStance else w

/-- The name of the count of the other side; any other name as it is. -/
def otherSide (n : String) : String :=
  if n = "support_count" then "oppose_count" else if n = "oppose_count" then "support_count" else n

theorem otherSide_injective : Function.Injective otherSide := by
  have involutive : Function.Involutive otherSide := by
    intro n
    unfold otherSide
    split_ifs <;> simp_all
  exact involutive.injective

/-- A record with its two counts exchanged, and the opposite stance in each of its alignments. -/
def swapRecord : Value → Value :=
  mapFields otherSide fun n w => if n = "alignments" then w.mapItems swapStance else w

/-- A list of records, each with its two sides exchanged. -/
def swapSides : Value → Value := mapItems swapRecord

theorem field_swapStance (v : Value) (k : String) : v.swapStance.field k =
    if k = "stance" then (v.field k).oppositeStance else v.field k :=
  field_mapFields Function.injective_id (fun n => by split_ifs <;> rfl) v k

theorem field_swapRecord (v : Value) (k : String) : v.swapRecord.field (otherSide k) =
    if k = "alignments" then (v.field k).mapItems swapStance else v.field k :=
  field_mapFields otherSide_injective (fun n => by split_ifs <;> rfl) v k

end Value

/-! ## Reading -/

open Value

theorem Alignment.ofValue_swapStance (v : Value) :
    Alignment.ofValue v.swapStance = Alignment.swapped <$> Alignment.ofValue v := by
  unfold Alignment.ofValue
  rw [field_swapStance, field_swapStance, field_swapStance, if_neg (by decide), if_pos rfl,
    if_neg (by decide), ofValue?_oppositeStance, swapStance, requireRecord_mapFields]
  cases requireRecord v .notStance with
  | error fault => rfl
  | ok _ =>
      cases requireName (v.field "user_id") .blankUser with
      | error fault => rfl
      | ok user =>
          cases Stance.ofValue? (v.field "stance") with
          | none => rfl
          | some stance => cases optionalNote (v.field "nuance_explanation") <;> rfl

theorem alignmentsFrom_map (index position : ℕ) (vs : List Value) :
    alignmentsFrom index position (vs.map swapStance) =
      List.map Alignment.swapped <$> alignmentsFrom index position vs := by
  induction vs generalizing position with
  | nil => rfl
  | cons v rest ih =>
      rw [List.map_cons, alignmentsFrom, alignmentsFrom, Alignment.ofValue_swapStance, ih]
      cases Alignment.ofValue v with
      | error fault => rfl
      | ok a => cases alignmentsFrom index (position + 1) rest <;> rfl

theorem readAlignments_mapItems (index : ℕ) (v : Value) :
    readAlignments index (v.mapItems swapStance) =
      List.map Alignment.swapped <$> readAlignments index v := by
  unfold readAlignments
  rw [isEmpty_mapItems]
  split_ifs with empty
  · rfl
  · cases v with
    | list items => exact alignmentsFrom_map index 0 items
    | _ => rfl

/-- The fields of a record with its sides exchanged are those of the record, the counts exchanged. -/
theorem StanceRecord.headOfValue_swapRecord {v : Value} {head : StanceRecord}
    (h : StanceRecord.headOfValue v = .ok head) : StanceRecord.headOfValue v.swapRecord =
      .ok { head with support := head.oppose, oppose := head.support } := by
  have kept (k : String) (own : otherSide k = k) (notStances : k ≠ "alignments") :
      v.swapRecord.field k = v.field k := by
    have changed := field_swapRecord v k
    rwa [own, if_neg notStances] at changed
  have exchangedSupport : v.swapRecord.field "oppose_count" = v.field "support_count" :=
    field_swapRecord v "support_count"
  have exchangedOppose : v.swapRecord.field "support_count" = v.field "oppose_count" :=
    field_swapRecord v "oppose_count"
  simp only [StanceRecord.headOfValue, bind_eq_ok_iff, pure_eq_ok, Except.ok.injEq,
    requireCount_eq_ok_iff] at h ⊢
  obtain ⟨⟨⟩, isRecord, id, hid, statement, hstatement, support, hsupport, oppose, hoppose, nuanced,
    hnuanced, consensus, hconsensus, rfl⟩ := h
  rw [kept "id" (by decide) (by decide), kept "statement" (by decide) (by decide),
    kept "nuanced_count" (by decide) (by decide), kept "consensus_score" (by decide) (by decide),
    exchangedSupport, exchangedOppose, swapRecord, requireRecord_mapFields]
  exact ⟨(), isRecord, id, hid, statement, hstatement, oppose, hoppose, support, hsupport, nuanced,
    hnuanced, consensus, hconsensus, rfl⟩

theorem StanceRecord.ofValue_swapRecord {index : ℕ} {v : Value} {r : StanceRecord}
    (h : StanceRecord.ofValue index v = .ok r) :
    StanceRecord.ofValue index v.swapRecord = .ok r.swapped := by
  unfold StanceRecord.ofValue at h ⊢
  cases head : StanceRecord.headOfValue v with
  | error fault => simp [head] at h
  | ok head' =>
      have stances : v.swapRecord.field "alignments" = (v.field "alignments").mapItems swapStance :=
        field_swapRecord v "alignments"
      simp only [head, bind_eq_ok_iff, pure_eq_ok, Except.ok.injEq] at h
      obtain ⟨alignments, read, rfl⟩ := h
      rw [headOfValue_swapRecord head, stances]
      dsimp only
      rw [readAlignments_mapItems, read]
      rfl

theorem stanceRecordsFrom_map {index : ℕ} {vs : List Value} {records : List StanceRecord}
    (h : stanceRecordsFrom index vs = .ok records) :
    stanceRecordsFrom index (vs.map swapRecord) = .ok (records.map StanceRecord.swapped) := by
  induction vs generalizing index records with
  | nil =>
      obtain rfl : [] = records := Except.ok.inj h
      rfl
  | cons v rest ih =>
      simp only [stanceRecordsFrom, bind_eq_ok_iff, map_eq_ok_iff] at h
      obtain ⟨r, read, others, readRest, rfl⟩ := h
      rw [List.map_cons, stanceRecordsFrom, StanceRecord.ofValue_swapRecord read, ok_bind, ih readRest]
      rfl

/-- **What is accepted is accepted with the sides exchanged**, as the mirror images of the records. -/
theorem readStanceRecords_swapSides {v : Value} {records : List StanceRecord}
    (accepted : readStanceRecords v = .ok records) :
    readStanceRecords v.swapSides = .ok (records.map StanceRecord.swapped) := by
  cases v with
  | list items => exact stanceRecordsFrom_map accepted
  | _ => simp [readStanceRecords] at accepted

end Deliberation
