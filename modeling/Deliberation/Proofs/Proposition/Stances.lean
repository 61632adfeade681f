/-
# Proofs.Proposition.Stances -- which stance records are accepted

A list of values is accepted as stance records where every single value is, and then as those records one
by one (`readStanceRecords_eq_ok_iff`): indices matter to faults only, and no record depends on another
one.  So every sublist of an accepted list is accepted (`readStanceRecords_filter`).  A recorded consensus
is a number of the unit interval (`ofUnit_of_accepted`).
-/
import Deliberation.Proposition.Validation
import Deliberation.Proofs.Number.Means

set_option autoImplicit false

namespace Deliberation

open Binary64

/-! ## Indices -/

theorem alignmentsFrom_eq_ok_iff {index position : ℕ} {vs : List Value} {alignments : List Alignment} :
    alignmentsFrom index position vs = .ok alignments ↔
      vs.mapM Alignment.ofValue = .ok alignments := by
  induction vs generalizing position alignments with
  | nil => simp [alignmentsFrom]
  | cons v rest ih =>
      rw [alignmentsFrom, List.mapM_cons]
      cases Alignment.ofValue v with
      | error fault => simp
      | ok a => simp [map_eq_ok_iff, bind_eq_ok_iff, ih]

theorem readAlignments_eq_ok_iff {index index' : ℕ} {v : Value} {alignments : List Alignment} :
    readAlignments index v = .ok alignments ↔ readAlignments index' v = .ok alignments := by
  unfold readAlignments
  split_ifs with empty
  · exact Iff.rfl
  · cases v with
    | list items => exact alignmentsFrom_eq_ok_iff.trans alignmentsFrom_eq_ok_iff.symm
    | _ => simp

/-- A record is read at every index alike. -/
theorem StanceRecord.ofValue_eq_ok_iff {index index' : ℕ} {v : Value} {r : StanceRecord} :
    StanceRecord.ofValue index v = .ok r ↔ StanceRecord.ofValue index' v = .ok r := by
  unfold StanceRecord.ofValue
  cases StanceRecord.headOfValue v with
  | error fault => simp
  | ok head =>
      simp only [bind_eq_ok_iff]
      constructor
      · rintro ⟨alignments, read, same⟩
        exact ⟨alignments, readAlignments_eq_ok_iff.1 read, same⟩
      · rintro ⟨alignments, read, same⟩
        exact ⟨alignments, readAlignments_eq_ok_iff.1 read, same⟩

theorem stanceRecordsFrom_eq_ok_iff {index : ℕ} {vs : List Value} {records : List StanceRecord} :
    stanceRecordsFrom index vs = .ok records ↔
      List.Forall₂ (fun v r => StanceRecord.ofValue 0 v = .ok r) vs records := by
  induction vs generalizing index records with
  | nil => simp [stanceRecordsFrom, eq_comm]
  | cons v rest ih =>
      simp only [stanceRecordsFrom, bind_eq_ok_iff, map_eq_ok_iff, List.forall₂_cons_left_iff]
      constructor
      · rintro ⟨r, read, others, readRest, rfl⟩
        exact ⟨r, others, StanceRecord.ofValue_eq_ok_iff.1 read, ih.1 readRest, rfl⟩
      · rintro ⟨r, others, read, readRest, rfl⟩
        exact ⟨r, StanceRecord.ofValue_eq_ok_iff.1 read, others, ih.2 readRest, rfl⟩

/-! ## Lists -/

/-- **A list is accepted where each of its values is**, as the records of its values. -/
theorem readStanceRecords_eq_ok_iff {vs : List Value} {records : List StanceRecord} :
    readStanceRecords (.list vs) = .ok records ↔
      List.Forall₂ (fun v r => StanceRecord.ofValue 0 v = .ok r) vs records :=
  stanceRecordsFrom_eq_ok_iff

theorem exists_list_of_accepted {v : Value} {records : List StanceRecord}
    (accepted : readStanceRecords v = .ok records) : ∃ vs, v = .list vs := by
  cases v with
  | list vs => exact ⟨vs, rfl⟩
  | _ => simp [readStanceRecords] at accepted

/-- The values whose records pass a test. -/
def valuesWhere (keep : StanceRecord → Bool) (vs : List Value) (records : List StanceRecord) :
    List Value :=
  ((vs.zip records).filter fun pair => keep pair.2).map Prod.fst

/-- The values whose records pass a test are accepted, as those records. -/
theorem readStanceRecords_filter {vs : List Value} {records : List StanceRecord}
    (accepted : readStanceRecords (.list vs) = .ok records) (keep : StanceRecord → Bool) :
    readStanceRecords (.list (valuesWhere keep vs records)) = .ok (records.filter keep) := by
  rw [readStanceRecords_eq_ok_iff] at accepted ⊢
  unfold valuesWhere
  induction accepted with
  | nil => exact .nil
  | @cons v r _ _ read _ ih =>
      rw [List.zip_cons_cons, List.filter_cons, List.filter_cons]
      cases keep r with
      | false => exact ih
      | true => exact .cons read ih

/-! ## Recorded consensus -/

theorem ofUnit_of_inUnit {a : Number} (h : a.inUnit = true) : OfUnit a.exact := by
  have finiteScore := (Number.isScore_of_inUnit h).isFinite
  unfold Number.inUnit at h
  simp only [Bool.and_eq_true, decide_eq_true_eq] at h
  exact ⟨finiteScore, (le_iff_of_isFinite rfl finiteScore).1 h.1,
    (le_iff_of_isFinite finiteScore rfl).1 h.2⟩

theorem ofUnit_of_optionalConsensus {v : Value} {score : Binary64}
    (h : optionalConsensus v = .ok (some score)) : OfUnit score := by
  unfold optionalConsensus at h
  split at h
  · cases h
  · next n =>
      split_ifs at h with unit
      obtain rfl : n.exact = score := by simpa using h
      exact ofUnit_of_inUnit unit
  · cases h

/-- The consensus that an accepted record comes with is a score. -/
theorem ofUnit_of_accepted {v : Value} {records : List StanceRecord}
    (accepted : readStanceRecords v = .ok records) {r : StanceRecord} (hr : r ∈ records)
    {score : Binary64} (recorded : r.consensus = some score) : OfUnit score := by
  obtain ⟨vs, rfl⟩ := exists_list_of_accepted accepted
  obtain ⟨w, -, read⟩ := exists_mem_of_forall₂ (readStanceRecords_eq_ok_iff.1 accepted) hr
  unfold StanceRecord.ofValue at read
  cases head : StanceRecord.headOfValue w with
  | error fault => simp [head] at read
  | ok head' =>
      simp only [head, bind_eq_ok_iff, pure_eq_ok, Except.ok.injEq] at read
      obtain ⟨alignments, -, rfl⟩ := read
      simp only [StanceRecord.headOfValue, bind_eq_ok_iff, pure_eq_ok, Except.ok.injEq] at head
      obtain ⟨-, -, id, -, statement, -, support, -, oppose, -, nuanced, -, consensus, given, rfl⟩ :=
        head
      obtain rfl : consensus = some score := recorded
      exact ofUnit_of_optionalConsensus given

end Deliberation
