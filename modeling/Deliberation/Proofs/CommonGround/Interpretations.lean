/-
# Proofs.CommonGround.Interpretations -- how the readings of nuanced participants add up

Only a nuanced participant with a note that is not blank counts (`Alignment.explains`).  A note may lean both
ways and then counts for two readings; one that leans neither way counts for the third.  So the readings
cover all notes and count those that lean both ways twice (`countP_overlapping`).  They depend on the notes
as a bag: not on their order, and on no participant who does not explain.
-/
import Deliberation.CommonGround.Notes
import Mathlib.Data.List.Basic
import Mathlib.Tactic.Linarith

set_option autoImplicit false

namespace Deliberation

open Text

/-! ## Who explains -/

namespace Alignment

/-- A nuanced participant who left a note that is not blank. -/
def explains (a : Alignment) : Bool :=
  decide (a.stance = .nuanced) && a.note.any fun note => !isBlankText note

/-- A nuanced participant whose note is not blank and passes a test. -/
def explainsWith (test : String → Bool) (a : Alignment) : Bool := a.explains && a.note.any test

/-- A participant who takes a side, or who left no note that is more than white space. -/
def IsSilent (a : Alignment) : Prop :=
  a.stance = .support ∨ a.stance = .oppose ∨ ∀ note, a.note = some note → isBlankText note = true

theorem IsSilent.not_explains {a : Alignment} (silent : a.IsSilent) : ¬a.explains = true := by
  rcases silent with support | oppose | blank
  · simp [explains, support]
  · simp [explains, oppose]
  · cases note : a.note with
    | none => simp [explains, note]
    | some s => simp [explains, note, blank s note]

end Alignment

namespace StanceRecord

variable {r : StanceRecord}

theorem notes_nuanced (r : StanceRecord) : r.notes [.nuanced] =
    (r.alignments.filter Alignment.explains).filterMap Alignment.note := by
  rw [notes, List.filterMap_filter, List.filterMap_filter]
  refine List.filterMap_congr fun a _ => ?_
  obtain ⟨user, stance, note⟩ := a
  cases stance with
  | nuanced => cases note <;> simp [Alignment.explains, Option.filter]
  | _ => simp [Alignment.explains]

theorem countP_notes_nuanced (r : StanceRecord) (test : String → Bool) :
    (r.notes [.nuanced]).countP test = r.alignments.countP (Alignment.explainsWith test) := by
  rw [notes_nuanced, List.countP_filterMap, List.countP_filter]
  refine List.countP_congr fun a _ => ?_
  cases note : a.note <;> simp [Alignment.explainsWith, note, and_comm]

theorem length_notes_nuanced (r : StanceRecord) :
    (r.notes [.nuanced]).length = r.alignments.countP Alignment.explains := by
  rw [notes_nuanced, List.length_filterMap_eq_countP, List.countP_filter]
  refine List.countP_congr fun a _ => ?_
  cases note : a.note <;> simp [Alignment.explains, note]

/-! ## Overlapping counts -/

/-- Those that pass either test or none are all, and who passes both is counted twice. -/
theorem countP_overlapping {α : Type} (p q : α → Bool) (xs : List α) :
    xs.countP p + xs.countP q + xs.countP (fun x => !(p x || q x)) =
      xs.length + xs.countP fun x => p x && q x := by
  induction xs with
  | nil => rfl
  | cons x rest ih =>
      rw [List.countP_cons, List.countP_cons, List.countP_cons, List.countP_cons, List.length_cons]
      cases p x <;> cases q x <;> grind

/-- Readings that nobody shares do not matter to the sum. -/
theorem sum_count_shared (found : List Interpretation) :
    ((found.filter fun i => decide (0 < i.count)).map Interpretation.count).sum =
      (found.map Interpretation.count).sum := by
  induction found with
  | nil => rfl
  | cons i rest ih =>
      rw [List.filter_cons]
      split_ifs with shared
      · simp [ih]
      · have nobody : i.count = 0 := by simpa using shared
        simp [ih, nobody]

/-! ## Readings -/

/-- A reading is found where somebody shares it. -/
theorem mem_interpretations_iff {i : Interpretation} : i ∈ r.interpretations ↔ 0 < i.count ∧
    (i = ⟨supportLabel, r.alignments.countP (Alignment.explainsWith leansSupport)⟩ ∨
      i = ⟨opposeLabel, r.alignments.countP (Alignment.explainsWith leansOppose)⟩ ∨
      i = ⟨contextLabel, r.alignments.countP
        (Alignment.explainsWith fun note => !(leansSupport note || leansOppose note))⟩) := by
  simp only [interpretations, List.mem_filter, List.mem_cons, List.not_mem_nil, or_false,
    decide_eq_true_eq, countP_notes_nuanced, and_comm]

theorem countP_explainsWith_le (test : String → Bool) (alignments : List Alignment) :
    alignments.countP (Alignment.explainsWith test) ≤ alignments.countP Alignment.explains :=
  List.countP_mono_left fun _ _ passed => (Bool.and_eq_true_iff.1 passed).1

theorem sum_interpretations (r : StanceRecord) :
    (r.interpretations.map Interpretation.count).sum = r.alignments.countP Alignment.explains +
      r.alignments.countP (Alignment.explainsWith fun note => leansSupport note && leansOppose note) := by
  have counted := countP_overlapping leansSupport leansOppose (r.notes [.nuanced])
  rw [interpretations, sum_count_shared, ← length_notes_nuanced, ← countP_notes_nuanced, ← counted]
  simp [Nat.add_assoc]

/-- The readings depend on those who explain, and on these as a bag. -/
theorem interpretations_congr {r' : StanceRecord}
    (same : (r.alignments.filter Alignment.explains).Perm (r'.alignments.filter Alignment.explains)) :
    r.interpretations = r'.interpretations := by
  have notes : (r.notes [.nuanced]).Perm (r'.notes [.nuanced]) := by
    rw [notes_nuanced, notes_nuanced]
    exact same.filterMap _
  simp only [interpretations, notes.countP_eq]

/-- How the readings of a record add up: `all` participants explain themselves, `both` of them with a note
that leans both ways and `neither` of them with one that leans neither way. -/
structure AddsUp (found : List Interpretation) (all both neither : ℕ) : Prop where
  /-- The readings stand in fixed order, each at most once, -/
  ordered : (found.map Interpretation.label).Sublist [supportLabel, opposeLabel, contextLabel]
  /-- and each is shared by some and by no more than there are. -/
  shared : ∀ i ∈ found, 0 < i.count ∧ i.count ≤ all
  total : (found.map Interpretation.count).sum = all + both
  context (n : ℕ) : ⟨contextLabel, n⟩ ∈ found ↔ 0 < n ∧ n = neither

/-- **The readings add up to the notes and those among them that lean both ways**, of every record.  They
stay the same when its participants come in another order, and when some come or go who take a side or
leave no note that is more than white space. -/
theorem interpretations_add_up (r : StanceRecord) :
    AddsUp r.interpretations (r.alignments.countP Alignment.explains)
        (r.alignments.countP (Alignment.explainsWith fun note => leansSupport note && leansOppose note))
        (r.alignments.countP
          (Alignment.explainsWith fun note => !(leansSupport note || leansOppose note))) ∧
      (∀ reordered, r.alignments.Perm reordered →
        { r with alignments := reordered }.interpretations = r.interpretations) ∧
      ∀ before silent after, r.alignments = before ++ after → (∀ a ∈ silent, a.IsSilent) →
        { r with alignments := before ++ silent ++ after }.interpretations = r.interpretations := by
  refine ⟨⟨?_, fun i member => ?_, sum_interpretations r, fun n => ?_⟩, fun reordered perm => ?_,
    fun before silent after split silence => ?_⟩
  · exact List.filter_sublist.map Interpretation.label
  · obtain ⟨shared, rfl | rfl | rfl⟩ := mem_interpretations_iff.1 member <;>
      exact ⟨shared, countP_explainsWith_le _ _⟩
  · rw [mem_interpretations_iff]
    simp [supportLabel, opposeLabel, contextLabel]
  · exact interpretations_congr (perm.symm.filter _)
  · have none : silent.filter Alignment.explains = [] :=
      List.filter_eq_nil_iff.2 fun a member => (silence a member).not_explains
    refine interpretations_congr ?_
    rw [split, List.filter_append, List.filter_append, List.filter_append, none, List.append_nil]

/-- Two notes that lean one way or both, one that leans neither way, and one that is blank. -/
def mixedNotes : StanceRecord where
  id := "p1"
  statement := "Parks should close at night."
  support := 1
  oppose := 0
  nuanced := 4
  consensus := none
  alignments := [
    ⟨"u1", .nuanced, some "I disagree."⟩, ⟨"u2", .support, some "I agree."⟩,
    ⟨"u3", .nuanced, some "I favour it in winter, and oppose it in summer."⟩,
    ⟨"u4", .nuanced, some "  "⟩, ⟨"u5", .nuanced, some "It depends on the season."⟩]

/-- Who disagrees is not counted among those who agree, and who favours and opposes is counted twice. -/
theorem mixed_notes_add_up :
    AddsUp [⟨supportLabel, 1⟩, ⟨opposeLabel, 2⟩, ⟨contextLabel, 1⟩] 3 1 1 ∧
    mixedNotes.alignments.Perm mixedNotes.alignments.reverse ∧
    { mixedNotes with alignments := mixedNotes.alignments.reverse }.interpretations =
      [⟨supportLabel, 1⟩, ⟨opposeLabel, 2⟩, ⟨contextLabel, 1⟩] := by
  obtain ⟨sums, reorder, -⟩ := interpretations_add_up mixedNotes
  have found : mixedNotes.interpretations =
      [⟨supportLabel, 1⟩, ⟨opposeLabel, 2⟩, ⟨contextLabel, 1⟩] := by decide +kernel
  have perm := (List.reverse_perm mixedNotes.alignments).symm
  have all : mixedNotes.alignments.countP Alignment.explains = 3 := by decide +kernel
  have both : mixedNotes.alignments.countP
      (Alignment.explainsWith fun note => leansSupport note && leansOppose note) = 1 := by decide +kernel
  have neither : mixedNotes.alignments.countP
      (Alignment.explainsWith fun note => !(leansSupport note || leansOppose note)) = 1 := by
    decide +kernel
  rw [found, all, both, neither] at sums
  exact ⟨sums, perm, (reorder _ perm).trans found⟩

end StanceRecord

end Deliberation
