/-
# Proofs.Proposition.Normal -- what was read once is read again as it is

An entry is read as the value that shows it (`Entry.shown`, `StanceEntry.shown`), with the same fault at the
same place: the attributes of an object are checked as the fields of a record (`readPropositionEntries_eq`,
`readStanceEntries_eq`; and from values to objects `readPropositionEntries_objectOf`,
`readStanceEntries_objectOf`).  What was read keeps the rules as a value, and is read from there unchanged
(`Proposition.ofValue_toValue` and its siblings): names stay names, counts stay counts, and a consensus that
came as a whole number is by now the double that it equals.  So one reading settles a list, and an analysis
answers alike on a list and on what was read from it.
-/
import Deliberation.Clustering.Report
import Deliberation.CommonGround.Divergence
import Deliberation.Proofs.Proposition.Rules

set_option autoImplicit false

namespace Deliberation

open Binary64 Text

/-! ## Entries as values -/

/-- The value that is read as an entry is; null in place of an object of another class. -/
def Entry.shown (expected : RecordClass) : Entry → Value
  | .value v => v
  | .object owner attributes => if owner = expected then .record attributes else .null

theorem Proposition.ofEntry_eq (e : Entry) : ofEntry e = ofValue (e.shown .proposition) := by
  cases e with
  | value v => rfl
  | object owner attributes => cases owner <;> rfl

theorem propositionEntriesFrom_eq (index : ℕ) (taken : List String) (entries : List Entry) :
    propositionEntriesFrom index taken entries =
      propositionsFrom index taken (entries.map (Entry.shown .proposition)) := by
  induction entries generalizing index taken with
  | nil => rfl
  | cons e rest ih =>
      rw [List.map_cons, propositionEntriesFrom, propositionsFrom, Proposition.ofEntry_eq]
      cases Proposition.ofValue (e.shown .proposition) with
      | error fault => rfl
      | ok p => simp only [ih]

/-- Propositions are read from entries as from the values that show them. -/
theorem readPropositionEntries_eq (entries : List Entry) : readPropositionEntries entries =
    readPropositions (.list (entries.map (Entry.shown .proposition))) :=
  propositionEntriesFrom_eq 0 [] entries

theorem Alignment.ofEntry_eq (e : Entry) : ofEntry e = ofValue (e.shown .alignment) := by
  cases e with
  | value v => rfl
  | object owner attributes => cases owner <;> rfl

theorem alignmentEntriesFrom_eq (index position : ℕ) (entries : List Entry) :
    alignmentEntriesFrom index position entries =
      alignmentsFrom index position (entries.map (Entry.shown .alignment)) := by
  induction entries generalizing position with
  | nil => rfl
  | cons e rest ih =>
      rw [List.map_cons, alignmentEntriesFrom, alignmentsFrom, Alignment.ofEntry_eq]
      cases Alignment.ofValue (e.shown .alignment) with
      | error fault => rfl
      | ok a => simp only [ih]

def AlignmentEntries.shown : AlignmentEntries → Value
  | .value v => v
  | .items entries => .list (entries.map (Entry.shown .alignment))

theorem AlignmentEntries.read_eq (index : ℕ) (field : AlignmentEntries) :
    field.read index = readAlignments index field.shown := by
  cases field with
  | value v => rfl
  | items entries =>
      -- as a value, an empty list counts as nothing and is not looked into
      cases entries with
      | nil => rfl
      | cons e rest => exact alignmentEntriesFrom_eq index 0 (e :: rest)

/-- The value that is read as an entry for a stance record is. -/
def StanceEntry.shown (e : StanceEntry) : Value :=
  match e.head.shown .stanceRecord with
  | .record fields => .record (Value.setField "alignments" e.alignments.shown fields)
  | v => v

namespace StanceRecord

theorem headOfEntry_eq (e : Entry) : headOfEntry e = headOfValue (e.shown .stanceRecord) := by
  cases e with
  | value v => rfl
  | object owner attributes => cases owner <;> rfl

/-- The fields beside the alignments are read without them. -/
theorem headOfValue_setField (v : Value) (fields : List (String × Value)) :
    headOfValue (.record (Value.setField "alignments" v fields)) = headOfValue (.record fields) := by
  have beside : ∀ name : String, name ≠ "alignments" →
      (Value.record (Value.setField "alignments" v fields)).field name =
        (Value.record fields).field name := fun name ne =>
    congrArg (·.getD .null) (Value.lookup_setField_of_ne ne v fields)
  unfold headOfValue
  rw [beside "id" (by decide), beside "statement" (by decide), beside "support_count" (by decide),
    beside "oppose_count" (by decide), beside "nuanced_count" (by decide),
    beside "consensus_score" (by decide)]
  -- what is left is that either value is a record
  rfl

/-- An entry is read as a value whose fields beside the alignments are read alike, and whose alignments are
those shown. -/
theorem ofEntry_eq_ofValue {e : StanceEntry} {v : Value} (head : headOfEntry e.head = headOfValue v)
    (alignments : v.IsRecord → e.alignments.shown = v.field "alignments") (index : ℕ) :
    ofEntry index e = ofValue index v := by
  rw [ofEntry, ofValue, head]
  cases read : headOfValue v with
  | error fault => rfl
  | ok r =>
      have record : v.IsRecord := by
        simp only [headOfValue, bind_eq_ok_iff, requireRecord_eq_ok_iff] at read
        obtain ⟨-, record, -⟩ := read
        exact record
      simp only [AlignmentEntries.read_eq, alignments record]

theorem ofEntry_eq (index : ℕ) (e : StanceEntry) : ofEntry index e = ofValue index e.shown := by
  refine ofEntry_eq_ofValue ?_ ?_ index
  · rw [headOfEntry_eq, StanceEntry.shown]
    cases e.head.shown .stanceRecord with
    | record fields => exact (headOfValue_setField e.alignments.shown fields).symm
    | _ => rfl
  · unfold StanceEntry.shown
    cases e.head.shown .stanceRecord with
    | record fields =>
        intro _
        exact (congrArg (·.getD .null)
          (Value.lookup_setField "alignments" e.alignments.shown fields)).symm
    | _ => rintro ⟨_, ⟨⟩⟩

end StanceRecord

theorem stanceEntriesFrom_congr {entries : List StanceEntry} {vs : List Value}
    (same : List.Forall₂ (fun e v => ∀ index, StanceRecord.ofEntry index e = StanceRecord.ofValue index v)
      entries vs) (index : ℕ) : stanceEntriesFrom index entries = stanceRecordsFrom index vs := by
  induction same generalizing index with
  | nil => rfl
  | cons first _ ih =>
      rw [stanceEntriesFrom, stanceRecordsFrom, first]
      simp only [ih]

/-- Stance records are read from entries as from the values that show them. -/
theorem readStanceEntries_eq (entries : List StanceEntry) :
    readStanceEntries entries = readStanceRecords (.list (entries.map StanceEntry.shown)) := by
  refine stanceEntriesFrom_congr ?_ 0
  rw [List.forall₂_map_right_iff, List.forall₂_same]
  exact fun e _ index => StanceRecord.ofEntry_eq index e

/-! ## Values as entries -/

theorem Entry.shown_objectOf (expected : RecordClass) (v : Value) :
    (Entry.objectOf expected v).shown expected = v := by
  cases v with
  | record fields => exact if_pos rfl
  | _ => rfl

theorem Entry.map_shown_objectOf (expected : RecordClass) (vs : List Value) :
    (vs.map (Entry.objectOf expected)).map (Entry.shown expected) = vs := by
  rw [List.map_map]
  exact List.map_id'' (Entry.shown_objectOf expected) vs

/-- Propositions are read from objects as from values with the same fields. -/
theorem readPropositionEntries_objectOf (vs : List Value) :
    readPropositionEntries (vs.map (Entry.objectOf .proposition)) = readPropositions (.list vs) := by
  rw [readPropositionEntries_eq, Entry.map_shown_objectOf]

theorem StanceEntry.shown_alignments_objectOf (v : Value) :
    (StanceEntry.objectOf v).alignments.shown = v.field "alignments" := by
  rw [StanceEntry.objectOf]
  cases v.field "alignments" with
  | list stances => exact congrArg Value.list (Entry.map_shown_objectOf .alignment stances)
  | _ => rfl

theorem StanceRecord.ofEntry_objectOf (index : ℕ) (v : Value) :
    ofEntry index (.objectOf v) = ofValue index v := by
  refine ofEntry_eq_ofValue ?_ (fun _ => StanceEntry.shown_alignments_objectOf v) index
  rw [headOfEntry_eq]
  exact congrArg headOfValue (Entry.shown_objectOf .stanceRecord v)

/-- Stance records are read from objects, and their stances too, as from values with the same fields. -/
theorem readStanceEntries_objectOf (vs : List Value) :
    readStanceEntries (vs.map StanceEntry.objectOf) = readStanceRecords (.list vs) := by
  refine stanceEntriesFrom_congr ?_ 0
  rw [List.forall₂_map_left_iff, List.forall₂_same]
  exact fun v _ index => StanceRecord.ofEntry_objectOf index v

/-! ## Records as values -/

theorem Proposition.ofValue_toValue {p : Proposition} (named : isBlankText p.id = false) :
    ofValue p.toValue = .ok p := by
  have metadata : p.toValue.field "metadata" = .null ∨ (p.toValue.field "metadata").IsRecord := by
    change (p.metadata.map Value.record).getD .null = .null ∨
      ((p.metadata.map Value.record).getD .null).IsRecord
    cases p.metadata with
    | none => exact .inl rfl
    | some fields => exact .inr ⟨fields, rfl⟩
  exact ofValue_eq_ok_iff_reads.2
    ⟨⟨⟨_, rfl⟩, ⟨p.id, rfl, named⟩, ⟨p.statement, rfl⟩, metadata⟩, ⟨rfl, rfl, rfl⟩⟩

theorem Alignment.ofValue_toValue {a : Alignment} (named : isBlankText a.user = false) :
    ofValue a.toValue = .ok a :=
  ofValue_eq_ok_iff.2 ⟨⟨_, rfl⟩, ⟨rfl, named⟩, Stance.ofValue?_eq_some_iff.2 rfl,
    optionalNote_eq_ok_iff.2 rfl⟩

namespace StanceRecord

variable {index : ℕ} {v : Value} {r : StanceRecord}

/-- What is left of the rules in a stance record that was read. -/
structure Keeps (r : StanceRecord) : Prop where
  id : isBlankText r.id = false
  consensus : ∀ score, r.consensus = some score → OfUnit score
  users : ∀ a ∈ r.alignments, isBlankText a.user = false

theorem users_of_readAlignments {alignments : List Alignment}
    (read : readAlignments index v = .ok alignments) :
    ∀ a ∈ alignments, isBlankText a.user = false := by
  unfold readAlignments at read
  split_ifs at read with empty
  · obtain rfl := Except.ok.inj read
    simp
  · cases v with
    | list items =>
        intro a ha
        obtain ⟨w, -, readOne⟩ := exists_step_of_mapM (alignmentsFrom_eq_ok_iff.1 read) ha
        exact (Alignment.ofValue_eq_ok_iff.1 readOne).2.1.2
    | _ => cases read

theorem keeps_of_ofValue (read : ofValue index v = .ok r) : r.Keeps := by
  obtain ⟨rules, reads⟩ := ofValue_eq_ok_iff_reads.1 read
  refine ⟨rules.id.not_blank reads.id, fun score recorded => ?_,
    users_of_readAlignments (ofValue_eq_ok_iff_head.1 read).2⟩
  rcases reads.consensus with ⟨-, none⟩ | ⟨n, number, taken⟩
  · cases recorded.symm.trans none
  · -- a whole number that was taken over as a double is within the unit interval as that double
    obtain rfl : n.exact = score := Option.some.inj (taken.symm.trans recorded)
    rcases rules.consensus with null | ⟨m, share, unit⟩
    · cases number.symm.trans null
    · cases number.symm.trans share
      exact unit

theorem takesShare_toValue (r : StanceRecord) :
    TakesShare (r.toValue.field "consensus_score") r.consensus := by
  change TakesShare ((r.consensus.map Value.real).getD .null) r.consensus
  cases r.consensus with
  | none => exact .inl ⟨rfl, rfl⟩
  | some score => exact .inr ⟨.real score, rfl, rfl⟩

theorem Keeps.share_toValue (keeps : r.Keeps) :
    r.toValue.field "consensus_score" = .null ∨ (r.toValue.field "consensus_score").IsShare := by
  change (r.consensus.map Value.real).getD .null = .null ∨
    ((r.consensus.map Value.real).getD .null).IsShare
  cases recorded : r.consensus with
  | none => exact .inl rfl
  | some score => exact .inr ⟨.real score, rfl, keeps.consensus score recorded⟩

theorem Keeps.alignments_toValue (keeps : r.Keeps) :
    readAlignments index (.list (r.alignments.map Alignment.toValue)) = .ok r.alignments := by
  have each : (r.alignments.map Alignment.toValue).mapM Alignment.ofValue = .ok r.alignments := by
    rw [mapM_eq_ok_iff, List.forall₂_map_left_iff, List.forall₂_same]
    exact fun a ha => Alignment.ofValue_toValue (keeps.users a ha)
  unfold readAlignments
  split_ifs with empty
  · obtain none : r.alignments = [] := List.map_eq_nil_iff.1 (List.isEmpty_iff.1 empty)
    rw [none]
  · exact alignmentsFrom_eq_ok_iff.2 each

/-- A stance record that keeps the rules is read from its value as it is. -/
theorem ofValue_toValue (keeps : r.Keeps) : ofValue index r.toValue = .ok r := by
  have stances : readAlignments index (.list (r.alignments.map Alignment.toValue)) =
    .ok r.alignments := keeps.alignments_toValue
  obtain ⟨rules, reads⟩ := readAlignments_eq_ok_iff_reads.1 stances
  exact ofValue_eq_ok_iff_reads.2
    ⟨⟨⟨_, rfl⟩, ⟨r.id, rfl, keeps.id⟩, ⟨r.statement, rfl⟩, ⟨r.support, rfl⟩, ⟨r.oppose, rfl⟩,
      ⟨r.nuanced, rfl⟩, keeps.share_toValue, rules⟩,
      ⟨rfl, rfl, rfl, rfl, rfl, r.takesShare_toValue, reads⟩⟩

end StanceRecord

/-! ## Reading again -/

/-- Propositions that come back when they are read, as objects and as values. -/
structure ArePropositionsSettled (ps : List Proposition) : Prop where
  objects : readPropositionEntries (ps.map Proposition.toEntry) = .ok ps
  values : readPropositions (.list (ps.map Proposition.toValue)) = .ok ps

/-- Stance records that come back when they are read, as objects and as values. -/
structure AreStancesSettled (records : List StanceRecord) : Prop where
  objects : readStanceEntries (records.map StanceRecord.toEntry) = .ok records
  values : readStanceRecords (.list (records.map StanceRecord.toValue)) = .ok records

section Again

variable {v : Value} {ps : List Proposition} {records : List StanceRecord}

theorem propositions_settle (accepted : readPropositions v = .ok ps) : ArePropositionsSettled ps := by
  have values : readPropositions (.list (ps.map Proposition.toValue)) = .ok ps := by
    cases v with
    | list vs =>
        obtain ⟨read, distinct⟩ := readPropositions_eq_ok_iff.1 accepted
        rw [readPropositions_eq_ok_iff, mapM_eq_ok_iff, List.forall₂_map_left_iff, List.forall₂_same]
        refine ⟨fun p hp => Proposition.ofValue_toValue ?_, distinct⟩
        obtain ⟨w, -, readOne⟩ := exists_step_of_mapM read hp
        obtain ⟨rules, reads⟩ := Proposition.ofValue_eq_ok_iff_reads.1 readOne
        exact rules.id.not_blank reads.id
    | _ => cases accepted
  have objects : ps.map Proposition.toEntry =
      (ps.map Proposition.toValue).map (Entry.objectOf .proposition) := by
    rw [List.map_map]
    rfl
  refine ⟨?_, values⟩
  rw [objects, readPropositionEntries_objectOf, values]

theorem stances_settle (accepted : readStanceRecords v = .ok records) : AreStancesSettled records := by
  have values : readStanceRecords (.list (records.map StanceRecord.toValue)) = .ok records := by
    obtain ⟨vs, rfl⟩ := exists_list_of_accepted accepted
    rw [readStanceRecords_eq_ok_iff, List.forall₂_map_left_iff, List.forall₂_same]
    intro r hr
    obtain ⟨w, -, readOne⟩ := exists_mem_of_forall₂ (readStanceRecords_eq_ok_iff.1 accepted) hr
    exact StanceRecord.ofValue_toValue (StanceRecord.keeps_of_ofValue readOne)
  have objects : records.map StanceRecord.toEntry =
      (records.map StanceRecord.toValue).map StanceEntry.objectOf := by
    rw [List.map_map]
    rfl
  refine ⟨?_, values⟩
  rw [objects, readStanceEntries_objectOf, values]

theorem Clustering.runOn_eq (c : Clustering) (topic : Value) (entries : List Entry) (given : Value) :
    c.runOn topic entries given =
      c.run topic (.list (entries.map (Entry.shown .proposition))) given := by
  rw [runOn, run, readPropositionEntries_eq]

theorem Synthesis.runOn_eq (s : Synthesis) (entries : List StanceEntry) :
    s.runOn entries = s.run (.list (entries.map StanceEntry.shown)) := by
  rw [runOn, run, readStanceEntries_eq]

theorem Divergence.runOn_eq (d : Divergence) (topic : Value) (entries : List StanceEntry) :
    d.runOn topic entries = d.run topic (.list (entries.map StanceEntry.shown)) := by
  rw [runOn, run, readStanceEntries_eq]

theorem Clustering.runOn_toEntry (c : Clustering) (topic given : Value)
    (accepted : readPropositions v = .ok ps) :
    c.runOn topic (ps.map Proposition.toEntry) given = c.run topic v given := by
  rw [runOn, run, (propositions_settle accepted).objects, accepted]

theorem Synthesis.runOn_toEntry (s : Synthesis) (accepted : readStanceRecords v = .ok records) :
    s.runOn (records.map StanceRecord.toEntry) = s.run v := by
  rw [runOn, run, (stances_settle accepted).objects, accepted]

theorem Divergence.runOn_toEntry (d : Divergence) (topic : Value)
    (accepted : readStanceRecords v = .ok records) :
    d.runOn topic (records.map StanceRecord.toEntry) = d.run topic v := by
  rw [runOn, run, (stances_settle accepted).objects, accepted]

end Again

/-- **One reading settles an input.**  What was read from a value, or from a list with objects among its
entries, is read again as it is; and every analysis answers on it, as objects, what it answers on the input,
with the same fault if any. -/
theorem one_reading_settles :
    (∀ (v : Value) (ps : List Proposition), readPropositions v = .ok ps →
      ArePropositionsSettled ps ∧ ∀ (c : Clustering) (topic given : Value),
        c.runOn topic (ps.map Proposition.toEntry) given = c.run topic v given) ∧
    (∀ (v : Value) (records : List StanceRecord), readStanceRecords v = .ok records →
      AreStancesSettled records ∧
      (∀ s : Synthesis, s.runOn (records.map StanceRecord.toEntry) = s.run v) ∧
      ∀ (d : Divergence) (topic : Value),
        d.runOn topic (records.map StanceRecord.toEntry) = d.run topic v) ∧
    (∀ (entries : List Entry) (ps : List Proposition), readPropositionEntries entries = .ok ps →
      ArePropositionsSettled ps ∧ ∀ (c : Clustering) (topic given : Value),
        c.runOn topic (ps.map Proposition.toEntry) given = c.runOn topic entries given) ∧
    (∀ (entries : List StanceEntry) (records : List StanceRecord),
      readStanceEntries entries = .ok records →
      AreStancesSettled records ∧
      (∀ s : Synthesis, s.runOn (records.map StanceRecord.toEntry) = s.runOn entries) ∧
      ∀ (d : Divergence) (topic : Value),
        d.runOn topic (records.map StanceRecord.toEntry) = d.runOn topic entries) := by
  refine ⟨fun v ps accepted => ?_, fun v records accepted => ?_, fun entries ps accepted => ?_,
    fun entries records accepted => ?_⟩
  · exact ⟨propositions_settle accepted, fun c topic given => c.runOn_toEntry topic given accepted⟩
  · exact ⟨stances_settle accepted, fun s => s.runOn_toEntry accepted,
      fun d topic => d.runOn_toEntry topic accepted⟩
  · rw [readPropositionEntries_eq] at accepted
    refine ⟨propositions_settle accepted, fun c topic given => ?_⟩
    rw [c.runOn_toEntry topic given accepted, c.runOn_eq]
  · rw [readStanceEntries_eq] at accepted
    refine ⟨stances_settle accepted, fun s => ?_, fun d topic => ?_⟩
    · rw [s.runOn_toEntry accepted, s.runOn_eq]
    · rw [d.runOn_toEntry topic accepted, d.runOn_eq]

/-- An object whose consensus is a whole number, with an object and a value for its stances; and a value
with a truth value in place of its stances. -/
def oddEntries : List StanceEntry := [
  ⟨.object .stanceRecord [("id", .text "p1"), ("statement", .text "Build the bridge"),
      ("support_count", .whole 8), ("oppose_count", .whole 1), ("nuanced_count", .whole 1),
      ("consensus_score", .whole 1)],
    .items [
      .object .alignment [("user_id", .text "u1"), ("stance", .text "SUPPORT")],
      .value (.record [("user_id", .text "u2"), ("stance", .text "NUANCED"),
        ("nuance_explanation", .text "Shorter commute")])]⟩,
  ⟨.value (.record [("id", .text "p2"), ("statement", .text ""), ("support_count", .whole 0),
    ("oppose_count", .whole 0), ("nuanced_count", .whole 0)]), .value (.bool false)⟩]

def oddRecords : List StanceRecord := [
  ⟨"p1", "Build the bridge", 8, 1, 1, some (.finite 1),
    [⟨"u1", .support, none⟩, ⟨"u2", .nuanced, some "Shorter commute"⟩]⟩,
  ⟨"p2", "", 0, 0, 0, none, []⟩]

theorem odd_entries_settle :
    readStanceEntries oddEntries = .ok oddRecords ∧ AreStancesSettled oddRecords ∧
      Synthesis.default.runOn (oddRecords.map StanceRecord.toEntry) =
        Synthesis.default.runOn oddEntries := by
  have accepted : readStanceEntries oddEntries = .ok oddRecords := by rfl
  obtain ⟨settled, synthesis, -⟩ := one_reading_settles.2.2.2 oddEntries oddRecords accepted
  exact ⟨accepted, settled, synthesis Synthesis.default⟩

end Deliberation
