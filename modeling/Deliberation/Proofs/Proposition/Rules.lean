/-
# Proofs.Proposition.Rules -- which values are records

The rules for a proposition, for the stance of a participant and for a stance record, each said of the value
and its fields (`IsProposition`, `IsAlignment`, `IsStanceRecord`), and what a record takes over from its
value (`Reads`).  A value is read exactly where it keeps the rules, and then as the record with its fields
unchanged (`Proposition.ofValue_eq_ok_iff_reads` and its two siblings, field by field).
-/
import Deliberation.Proofs.Proposition.Accepted
import Deliberation.Proofs.Proposition.Fields

set_option autoImplicit false

namespace Deliberation

open Binary64 Text

variable {v : Value}

/-! ## Propositions -/

/-- The rules for a proposition: a record under a name, with a statement, and with metadata if any. -/
structure IsProposition (v : Value) : Prop where
  record : v.IsRecord
  id : (v.field "id").IsName
  statement : (v.field "statement").IsText
  metadata : v.field "metadata" = .null ∨ (v.field "metadata").IsRecord

/-- The proposition has the fields of the value. -/
structure Proposition.Reads (v : Value) (p : Proposition) : Prop where
  id : v.field "id" = .text p.id
  statement : v.field "statement" = .text p.statement
  metadata : v.field "metadata" = (p.metadata.map .record).getD .null

theorem Proposition.ofValue_eq_ok_iff_reads {p : Proposition} :
    Proposition.ofValue v = .ok p ↔ IsProposition v ∧ p.Reads v := by
  simp only [ofValue, bind_eq_ok_iff, pure_eq_ok, Except.ok.injEq, requireRecord_eq_ok_iff,
    requireName_eq_ok_iff, requireStatement_eq_ok_iff, optionalMetadata_eq_ok_iff]
  constructor
  · rintro ⟨-, record, id, ⟨hid, named⟩, statement, hstatement, metadata, hmetadata, rfl⟩
    refine ⟨⟨record, ⟨id, hid, named⟩, ⟨statement, hstatement⟩, ?_⟩, ⟨hid, hstatement, hmetadata⟩⟩
    cases metadata with
    | none => exact .inl hmetadata
    | some fields => exact .inr ⟨fields, hmetadata⟩
  · rintro ⟨rules, reads⟩
    exact ⟨(), rules.record, p.id, ⟨reads.id, rules.id.not_blank reads.id⟩, p.statement, reads.statement, p.metadata,
      reads.metadata, rfl⟩

theorem IsProposition.exists_reads (rules : IsProposition v) : ∃ p : Proposition, p.Reads v := by
  obtain ⟨id, hid, -⟩ := rules.id
  obtain ⟨statement, hstatement⟩ := rules.statement
  rcases rules.metadata with absent | ⟨fields, present⟩
  · exact ⟨⟨id, statement, none⟩, hid, hstatement, absent⟩
  · exact ⟨⟨id, statement, some fields⟩, hid, hstatement, present⟩

/-! ## Stances -/

/-- The rules for the stance of a participant: a record with a name and a stance, and with a note if any. -/
structure IsAlignment (v : Value) : Prop where
  record : v.IsRecord
  user : (v.field "user_id").IsName
  stance : ∃ stance : Stance, v.field "stance" = .text stance.label
  note : v.field "nuance_explanation" = .null ∨ (v.field "nuance_explanation").IsText

/-- The stance has the fields of the value. -/
structure Alignment.Reads (v : Value) (a : Alignment) : Prop where
  user : v.field "user_id" = .text a.user
  stance : v.field "stance" = .text a.stance.label
  note : v.field "nuance_explanation" = .optText a.note

theorem Alignment.ofValue_eq_ok_iff {a : Alignment} : Alignment.ofValue v = .ok a ↔
    v.IsRecord ∧ (v.field "user_id" = .text a.user ∧ isBlankText a.user = false) ∧
      Stance.ofValue? (v.field "stance") = some a.stance ∧
      optionalNote (v.field "nuance_explanation") = .ok a.note := by
  simp only [ofValue, bind_eq_ok_iff, requireRecord_eq_ok_iff, requireName_eq_ok_iff]
  constructor
  · rintro ⟨-, record, user, named, read⟩
    split at read
    · cases read
    · rename_i stance found
      obtain ⟨note, hnote, same⟩ := bind_eq_ok_iff.1 read
      obtain rfl := Except.ok.inj same
      exact ⟨record, named, found, hnote⟩
  · rintro ⟨record, named, found, hnote⟩
    refine ⟨(), record, a.user, named, ?_⟩
    rw [found, hnote]
    rfl

theorem Alignment.ofValue_eq_ok_iff_reads {a : Alignment} :
    Alignment.ofValue v = .ok a ↔ IsAlignment v ∧ a.Reads v := by
  rw [ofValue_eq_ok_iff, Stance.ofValue?_eq_some_iff, optionalNote_eq_ok_iff]
  constructor
  · rintro ⟨record, ⟨huser, named⟩, stance, hnote⟩
    refine ⟨⟨record, ⟨a.user, huser, named⟩, ⟨a.stance, stance⟩, ?_⟩, ⟨huser, stance, hnote⟩⟩
    cases note : a.note with
    | none => exact .inl (by rw [hnote, note]; rfl)
    | some s => exact .inr ⟨s, by rw [hnote, note]; rfl⟩
  · rintro ⟨rules, reads⟩
    exact ⟨rules.record, ⟨reads.user, rules.user.not_blank reads.user⟩, reads.stance, reads.note⟩

theorem IsAlignment.exists_reads (rules : IsAlignment v) : ∃ a : Alignment, a.Reads v := by
  obtain ⟨user, huser, -⟩ := rules.user
  obtain ⟨stance, hstance⟩ := rules.stance
  rcases rules.note with absent | ⟨note, present⟩
  · exact ⟨⟨user, stance, none⟩, huser, hstance, absent⟩
  · exact ⟨⟨user, stance, some note⟩, huser, hstance, present⟩

/-! ## Stance records -/

/-- The rules for a field of stances: what counts as nothing, or a list of stances. -/
def AreAlignments (v : Value) : Prop :=
  v.isEmpty = true ∨ ∃ items, v = .list items ∧ ∀ w ∈ items, IsAlignment w

/-- The stances are those of the field, in order. -/
def ReadAlignments (v : Value) (alignments : List Alignment) : Prop :=
  (v.isEmpty = true ∧ alignments = []) ∨
    ∃ items, v = .list items ∧ List.Forall₂ (fun w a => Alignment.Reads w a) items alignments

/-- The rules for a stance record: a record under a name, with a statement and three counts, with a share for
its consensus if any, and with a list of stances or nothing in its place. -/
structure IsStanceRecord (v : Value) : Prop where
  record : v.IsRecord
  id : (v.field "id").IsName
  statement : (v.field "statement").IsText
  support : (v.field "support_count").IsCount
  oppose : (v.field "oppose_count").IsCount
  nuanced : (v.field "nuanced_count").IsCount
  consensus : v.field "consensus_score" = .null ∨ (v.field "consensus_score").IsShare
  alignments : AreAlignments (v.field "alignments")

/-- The stance record has the fields of the value. -/
structure StanceRecord.Reads (v : Value) (r : StanceRecord) : Prop where
  id : v.field "id" = .text r.id
  statement : v.field "statement" = .text r.statement
  support : v.field "support_count" = .whole r.support
  oppose : v.field "oppose_count" = .whole r.oppose
  nuanced : v.field "nuanced_count" = .whole r.nuanced
  consensus : TakesShare (v.field "consensus_score") r.consensus
  alignments : ReadAlignments (v.field "alignments") r.alignments

theorem mapM_alignment_eq_ok_iff {items : List Value} {alignments : List Alignment} :
    items.mapM Alignment.ofValue = .ok alignments ↔
      (∀ w ∈ items, IsAlignment w) ∧
        List.Forall₂ (fun w a => Alignment.Reads w a) items alignments := by
  rw [mapM_eq_ok_iff]
  simp only [Alignment.ofValue_eq_ok_iff_reads]
  exact List.forall₂_and_left items alignments

theorem readAlignments_eq_ok_iff_reads {index : ℕ} {alignments : List Alignment} :
    readAlignments index v = .ok alignments ↔ AreAlignments v ∧ ReadAlignments v alignments := by
  unfold readAlignments AreAlignments ReadAlignments
  split_ifs with empty
  · cases v with
    | list items =>
        obtain rfl : items = [] := List.isEmpty_iff.1 empty
        simp [empty, eq_comm]
    | _ => simp [empty, eq_comm]
  · cases v with
    | list items =>
        simp [empty, alignmentsFrom_eq_ok_iff, mapM_alignment_eq_ok_iff]
    | _ => simp [empty]

namespace StanceRecord

variable {index : ℕ} {r : StanceRecord}

theorem ofValue_eq_ok_iff_head : ofValue index v = .ok r ↔
    headOfValue v = .ok { r with alignments := [] } ∧
      readAlignments index (v.field "alignments") = .ok r.alignments := by
  unfold ofValue
  cases read : headOfValue v with
  | error fault => simp
  | ok head =>
      simp only [bind_eq_ok_iff, pure_eq_ok, Except.ok.injEq]
      have noneYet : head.alignments = [] := by
        simp only [headOfValue, bind_eq_ok_iff, pure_eq_ok, Except.ok.injEq] at read
        obtain ⟨-, -, id, -, statement, -, support, -, oppose, -, nuanced, -, consensus, -, rfl⟩ := read
        rfl
      constructor
      · rintro ⟨alignments, answer, rfl⟩
        rw [← noneYet]
        exact ⟨rfl, answer⟩
      · rintro ⟨rfl, answer⟩
        exact ⟨r.alignments, answer, rfl⟩

theorem ofValue_eq_ok_iff_reads : ofValue index v = .ok r ↔ IsStanceRecord v ∧ r.Reads v := by
  rw [ofValue_eq_ok_iff_head, readAlignments_eq_ok_iff_reads]
  simp only [headOfValue, bind_eq_ok_iff, pure_eq_ok, Except.ok.injEq, requireRecord_eq_ok_iff,
    requireName_eq_ok_iff, requireStatement_eq_ok_iff, requireCount_eq_ok_iff,
    optionalConsensus_eq_ok_iff, StanceRecord.mk.injEq]
  constructor
  · rintro ⟨⟨-, record, id, ⟨hid, named⟩, statement, hstatement, support, hsupport, oppose, hoppose,
      nuanced, hnuanced, consensus, ⟨taken, share⟩, rfl, rfl, rfl, rfl, rfl, rfl, -⟩, rules, reads⟩
    exact ⟨⟨record, ⟨_, hid, named⟩, ⟨_, hstatement⟩, ⟨_, hsupport⟩, ⟨_, hoppose⟩, ⟨_, hnuanced⟩, share,
      rules⟩, ⟨hid, hstatement, hsupport, hoppose, hnuanced, taken, reads⟩⟩
  · rintro ⟨rules, reads⟩
    exact ⟨⟨(), rules.record, r.id, ⟨reads.id, rules.id.not_blank reads.id⟩, r.statement, reads.statement, r.support, reads.support,
      r.oppose, reads.oppose, r.nuanced, reads.nuanced, r.consensus, ⟨reads.consensus, rules.consensus⟩,
      rfl, rfl, rfl, rfl, rfl, rfl, trivial⟩, rules.alignments, reads.alignments⟩

end StanceRecord

theorem AreAlignments.exists_reads (rules : AreAlignments v) :
    ∃ alignments, ReadAlignments v alignments := by
  rcases rules with empty | ⟨items, rfl, each⟩
  · exact ⟨[], .inl ⟨empty, rfl⟩⟩
  · obtain ⟨alignments, read⟩ := exists_mapM_eq_ok (f := Alignment.ofValue) fun w hw =>
      have ⟨a, reads⟩ := (each w hw).exists_reads
      ⟨a, Alignment.ofValue_eq_ok_iff_reads.2 ⟨each w hw, reads⟩⟩
    exact ⟨alignments, .inr ⟨items, rfl, (mapM_alignment_eq_ok_iff.1 read).2⟩⟩

theorem IsStanceRecord.exists_reads (rules : IsStanceRecord v) : ∃ r : StanceRecord, r.Reads v := by
  obtain ⟨id, hid, -⟩ := rules.id
  obtain ⟨statement, hstatement⟩ := rules.statement
  obtain ⟨support, hsupport⟩ := rules.support
  obtain ⟨oppose, hoppose⟩ := rules.oppose
  obtain ⟨nuanced, hnuanced⟩ := rules.nuanced
  obtain ⟨alignments, halignments⟩ := rules.alignments.exists_reads
  rcases rules.consensus with absent | ⟨share, present, -⟩
  · exact ⟨⟨id, statement, support, oppose, nuanced, none, alignments⟩,
      ⟨hid, hstatement, hsupport, hoppose, hnuanced, .inl ⟨absent, rfl⟩, halignments⟩⟩
  · exact ⟨⟨id, statement, support, oppose, nuanced, some share.exact, alignments⟩,
      ⟨hid, hstatement, hsupport, hoppose, hnuanced, .inr ⟨share, present, rfl⟩, halignments⟩⟩

end Deliberation
