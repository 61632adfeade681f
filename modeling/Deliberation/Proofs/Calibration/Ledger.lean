/-
# Proofs.Calibration.Ledger -- the books of a benchmark

Every outcome is counted once for each kind, in one of four cells (`KindMetrics.tally_total`).  Over the
kinds, an outcome that is right is one true positive, and any other one false positive, one false
negative and one misclassification.  The ledger keeps these books with every outcome that it records
(`Ledger.Accounts.record`), so that they are right for all outcomes (`Ledger.accounts_of`).

Two tallies commute (`KindMetrics.tally_comm`), so that what is counted for the kinds does not depend on
the order of the outcomes (`Ledger.metrics_of_perm`).
-/
import Deliberation.Calibration.Benchmark
import Deliberation.Proofs.Fallible
import Mathlib.Tactic.Linarith
import Mathlib.Data.List.Induction

set_option autoImplicit false

namespace Deliberation

/-! ## One outcome, counted for one kind -/

namespace Outcome

def isTruePositive (o : Outcome) (kind : FeedbackKind) : Bool :=
  (o.result.kind = kind) && (o.sample.expected = kind)

def isFalsePositive (o : Outcome) (kind : FeedbackKind) : Bool :=
  (o.result.kind = kind) && !(o.sample.expected = kind)

def isFalseNegative (o : Outcome) (kind : FeedbackKind) : Bool :=
  !(o.result.kind = kind) && (o.sample.expected = kind)

/-- What is right is a true positive for one kind. -/
theorem countP_isTruePositive (o : Outcome) :
    FeedbackKind.all.countP o.isTruePositive = if o.isRight then 1 else 0 := by
  unfold isTruePositive isRight
  cases o.result.kind <;> cases o.sample.expected <;> rfl

/-- What is wrong is a false positive for one kind, and a false negative for another. -/
theorem countP_isFalsePositive (o : Outcome) :
    FeedbackKind.all.countP o.isFalsePositive = if o.isRight then 0 else 1 := by
  unfold isFalsePositive isRight
  cases o.result.kind <;> cases o.sample.expected <;> rfl

theorem countP_isFalseNegative (o : Outcome) :
    FeedbackKind.all.countP o.isFalseNegative = if o.isRight then 0 else 1 := by
  unfold isFalseNegative isRight
  cases o.result.kind <;> cases o.sample.expected <;> rfl

end Outcome

namespace KindMetrics

variable {m : KindMetrics} {o : Outcome}

/-- All that was counted for the kind. -/
def total (m : KindMetrics) : ℤ :=
  m.truePositives + m.falsePositives + m.falseNegatives + m.trueNegatives

@[simp] theorem tally_kind (m : KindMetrics) (o : Outcome) : (m.tally o).kind = m.kind := by
  unfold tally
  split_ifs <;> rfl

/-- **Every outcome is counted once.** -/
theorem tally_total (m : KindMetrics) (o : Outcome) : (m.tally o).total = m.total + 1 := by
  unfold tally total
  split_ifs <;> dsimp only <;> omega

theorem tally_truePositives (o : Outcome) (m : KindMetrics) : (m.tally o).truePositives =
    m.truePositives + if o.isTruePositive m.kind then 1 else 0 := by
  unfold tally Outcome.isTruePositive
  split_ifs <;> simp_all

theorem tally_falsePositives (o : Outcome) (m : KindMetrics) : (m.tally o).falsePositives =
    m.falsePositives + if o.isFalsePositive m.kind then 1 else 0 := by
  unfold tally Outcome.isFalsePositive
  split_ifs <;> simp_all

theorem tally_falseNegatives (o : Outcome) (m : KindMetrics) : (m.tally o).falseNegatives =
    m.falseNegatives + if o.isFalseNegative m.kind then 1 else 0 := by
  unfold tally Outcome.isFalseNegative
  split_ifs <;> simp_all

theorem tally_support (m : KindMetrics) (o : Outcome) :
    (m.tally o).support = m.support + if o.sample.expected = m.kind then 1 else 0 := by
  unfold tally support
  split_ifs <;> dsimp only <;> omega

theorem tally_comm (m : KindMetrics) (a b : Outcome) :
    (m.tally a).tally b = (m.tally b).tally a := by
  unfold tally
  split_ifs <;> simp_all

/-- What was counted is not negative. -/
structure Counts (m : KindMetrics) : Prop where
  truePositives : 0 ≤ m.truePositives
  falsePositives : 0 ≤ m.falsePositives
  falseNegatives : 0 ≤ m.falseNegatives

theorem Counts.tally (h : m.Counts) (o : Outcome) : (m.tally o).Counts := by
  obtain ⟨tp, fp, fn⟩ := h
  unfold KindMetrics.tally
  split_ifs <;> constructor <;> dsimp only <;> omega

/-- Over some metrics, a cell grows by the number of kinds for which the outcome counts there. -/
theorem sum_map_tally {cell : KindMetrics → ℤ} {counts : FeedbackKind → Bool}
    (step : ∀ m, cell (m.tally o) = cell m + if counts m.kind then 1 else 0)
    (ms : List KindMetrics) :
    ((ms.map (tally · o)).map cell).sum = (ms.map cell).sum + (ms.map kind).countP counts := by
  induction ms with
  | nil => rfl
  | cons m rest ih =>
      simp only [List.map_cons, List.sum_cons, List.countP_cons, ih, step]
      split_ifs <;> push_cast <;> omega

end KindMetrics

/-! ## The books of the ledger -/

namespace Ledger

variable {l : Ledger} {seen outcomes others : List Outcome}

/-- What one more outcome adds to every book. -/
theorem record_eq (l : Ledger) (o : Outcome) : l.record o = {
    metrics := l.metrics.map (KindMetrics.tally · o)
    right := l.right + if o.isRight then 1 else 0
    subtypesChecked := l.subtypesChecked + if o.checksSubtype then 1 else 0
    subtypesRight := l.subtypesRight + if o.checksSubtype && o.subtypeIsRight then 1 else 0
    confidencesRight := l.confidencesRight ++ if o.isRight then [o.result.confidence] else []
    confidencesWrong := l.confidencesWrong ++ if o.isRight then [] else [o.result.confidence]
    misclassifications := l.misclassifications ++
      if o.isRight then [] else [o.misclassification] } := by
  have checked : o.checksSubtype = true → o.isRight = true := by
    simp +contextual [Outcome.checksSubtype]
  unfold record
  dsimp only
  split_ifs <;> simp_all

/-- The books of a ledger are right about the outcomes seen. -/
structure Accounts (l : Ledger) (seen : List Outcome) : Prop where
  kinds : l.metrics.map KindMetrics.kind = FeedbackKind.all
  counts : ∀ m ∈ l.metrics, m.Counts
  total : ∀ m ∈ l.metrics, m.total = seen.length
  support : ∀ m ∈ l.metrics, m.support = seen.countP fun o => o.sample.expected = m.kind
  truePositives : (l.metrics.map KindMetrics.truePositives).sum = l.right
  falsePositives : (l.metrics.map KindMetrics.falsePositives).sum = l.misclassifications.length
  falseNegatives : (l.metrics.map KindMetrics.falseNegatives).sum = l.misclassifications.length
  right : l.right = seen.countP Outcome.isRight
  subtypesChecked : l.subtypesChecked = seen.countP Outcome.checksSubtype
  subtypesRight : l.subtypesRight = seen.countP fun o => o.checksSubtype && o.subtypeIsRight
  confidencesRight : l.confidencesRight =
    (seen.filter Outcome.isRight).map fun o => o.result.confidence
  confidencesWrong : l.confidencesWrong =
    (seen.filter fun o => !o.isRight).map fun o => o.result.confidence
  misclassifications : l.misclassifications =
    (seen.filter fun o => !o.isRight).map Outcome.misclassification

theorem accounts_empty : Ledger.empty.Accounts [] where
  kinds := rfl
  counts := by
    intro m member
    obtain ⟨kind, -, rfl⟩ := List.mem_map.1 member
    exact ⟨le_rfl, le_rfl, le_rfl⟩
  total := by simp [empty, KindMetrics.zero, KindMetrics.total]
  support := by simp [empty, KindMetrics.zero, KindMetrics.support]
  truePositives := rfl
  falsePositives := rfl
  falseNegatives := rfl
  right := rfl
  subtypesChecked := rfl
  subtypesRight := rfl
  confidencesRight := rfl
  confidencesWrong := rfl
  misclassifications := rfl

/-- **One more outcome keeps the books right.** -/
theorem Accounts.record (h : l.Accounts seen) (o : Outcome) :
    (l.record o).Accounts (seen ++ [o]) := by
  rw [record_eq]
  constructor
  case kinds => simpa [Function.comp_def] using h.kinds
  case counts =>
    intro m' member
    obtain ⟨m, hm, rfl⟩ := List.mem_map.1 member
    exact (h.counts m hm).tally o
  case total =>
    intro m' member
    obtain ⟨m, hm, rfl⟩ := List.mem_map.1 member
    rw [KindMetrics.tally_total, h.total m hm]
    simp
  case support =>
    intro m' member
    obtain ⟨m, hm, rfl⟩ := List.mem_map.1 member
    rw [KindMetrics.tally_support, h.support m hm, List.countP_append]
    simp
  case truePositives =>
    rw [KindMetrics.sum_map_tally (KindMetrics.tally_truePositives o), h.truePositives, h.kinds,
      Outcome.countP_isTruePositive]
    push_cast
    rfl
  case falsePositives =>
    rw [KindMetrics.sum_map_tally (KindMetrics.tally_falsePositives o), h.falsePositives, h.kinds,
      Outcome.countP_isFalsePositive]
    split_ifs <;> simp
  case falseNegatives =>
    rw [KindMetrics.sum_map_tally (KindMetrics.tally_falseNegatives o), h.falseNegatives, h.kinds,
      Outcome.countP_isFalseNegative]
    split_ifs <;> simp
  case right => simp [h.right, List.countP_append]
  case subtypesChecked => simp [h.subtypesChecked, List.countP_append]
  case subtypesRight => simp [h.subtypesRight, List.countP_append]
  case confidencesRight =>
    cases right : o.isRight <;> simp [h.confidencesRight, right]
  case confidencesWrong =>
    cases right : o.isRight <;> simp [h.confidencesWrong, right]
  case misclassifications =>
    cases right : o.isRight <;> simp [h.misclassifications, right]

theorem accounts_of (outcomes : List Outcome) : (Ledger.of outcomes).Accounts outcomes := by
  -- on the outcomes recorded last
  induction outcomes using List.reverseRecOn with
  | nil => exact accounts_empty
  | append_singleton seen o ih =>
      rw [Ledger.of, List.foldl_append]
      exact ih.record o

/-- The order in which outcomes are recorded is of no account for what is counted for the kinds. -/
theorem metrics_of_perm (h : others.Perm outcomes) :
    (Ledger.of others).metrics = (Ledger.of outcomes).metrics := by
  have tallied (outcomes : List Outcome) : (Ledger.of outcomes).metrics =
      outcomes.foldl (fun ms o => ms.map (KindMetrics.tally · o)) Ledger.empty.metrics := by
    refine (List.foldl_hom metrics fun l o => ?_).symm
    rw [record_eq]
  rw [tallied, tallied]
  refine h.foldl_eq' (fun a _ b _ ms => ?_) _
  simp [KindMetrics.tally_comm _ a b]

end Ledger

end Deliberation
