/-
# Proofs.Calibration.Conservation -- what a benchmark reports adds up

A report takes its counts from the ledger of the outcomes (`ReportsOn`).  So every sample lies in one
cell for each kind, the true positives are the samples that were classified right, and false positives,
false negatives and misclassifications are as many as the others (`Conserves`).  Only the list of
misclassifications follows the order of the samples; the counts and shares do not (`SameCounts`).

Every panel that answers for each sample gets a report (`exists_report`): its confidences lie in the unit
interval, and no share has more parts than its whole.
-/
import Deliberation.Proofs.Calibration.Ledger
import Deliberation.Proofs.Feedback.Panel

set_option autoImplicit false

namespace Deliberation

open Binary64

/-! ## Rates have answers -/

theorem exists_rate {part whole : ℕ} (le : part ≤ whole) : ∃ x, rate part whole = .ok x := by
  unfold rate
  split_ifs
  · obtain ⟨share, answer, -⟩ := exists_ofRatio le
    exact ⟨share, answer⟩
  · exact ⟨_, rfl⟩

namespace KindMetrics

variable {m : KindMetrics}

theorem exists_precisionRate (h : m.Counts) : ∃ x, m.precisionRate = .ok x := by
  obtain ⟨tp, htp⟩ := Int.eq_ofNat_of_zero_le h.truePositives
  obtain ⟨fp, hfp⟩ := Int.eq_ofNat_of_zero_le h.falsePositives
  rw [precisionRate, htp, hfp]
  exact_mod_cast exists_rate (Nat.le_add_right tp fp)

theorem exists_recallRate (h : m.Counts) : ∃ x, m.recallRate = .ok x := by
  obtain ⟨tp, htp⟩ := Int.eq_ofNat_of_zero_le h.truePositives
  obtain ⟨fn, hfn⟩ := Int.eq_ofNat_of_zero_le h.falseNegatives
  rw [recallRate, support, htp, hfn]
  exact_mod_cast exists_rate (Nat.le_add_right tp fn)

theorem exists_f1 (h : m.Counts) : ∃ x, m.f1 = .ok x := by
  obtain ⟨p, hp⟩ := exists_precisionRate h
  obtain ⟨r, hr⟩ := exists_recallRate h
  unfold f1
  rw [hp, hr, ok_bind, ok_bind]
  dsimp only
  split_ifs <;> exact ⟨_, rfl⟩

end KindMetrics

namespace Benchmark

variable {panel : Panel} {samples : List Sample} {outcomes others : List Outcome}
  {r : BenchmarkReport}

theorem exists_share {part whole : ℕ} (le : part ≤ whole) : ∃ x, share part whole = .ok x := by
  obtain ⟨x, answer⟩ := exists_rate le
  exact ⟨_, map_eq_ok_iff.2 ⟨x, answer, rfl⟩⟩

theorem exists_macroMean {f : KindMetrics → Except NumberFault Binary64} {metrics : List KindMetrics}
    (answers : ∀ m ∈ metrics, ∃ x, f m = .ok x) : ∃ x, macroMean f metrics = .ok x := by
  obtain ⟨rates, hrates⟩ := exists_mapM_eq_ok answers
  exact ⟨_, map_eq_ok_iff.2 ⟨rates, hrates, rfl⟩⟩

theorem exists_meanConfidence {confidences : List Number}
    (unit : ∀ c ∈ confidences, c.inUnit = true) : ∃ x, meanConfidence confidences = .ok x := by
  obtain ⟨doubles, hdoubles⟩ : ∃ doubles, confidences.mapM Number.toBinary64 = .ok doubles :=
    exists_mapM_eq_ok fun c member => ⟨_, (Number.isScore_of_inUnit (unit c member)).toBinary64⟩
  exact ⟨_, map_eq_ok_iff.2 ⟨doubles, hdoubles, rfl⟩⟩

theorem exists_subtypeShare {l : Ledger} (le : l.subtypesRight ≤ l.subtypesChecked) :
    ∃ x, subtypeShare l = .ok x := by
  unfold subtypeShare
  split_ifs
  · exact ⟨_, rfl⟩
  · obtain ⟨x, answer⟩ := exists_share le
    exact ⟨some x, map_eq_ok_iff.2 ⟨x, answer, rfl⟩⟩

/-! ## The report -/

/-- **Outcomes with confidences from the unit interval get a report.** -/
theorem exists_report (unit : ∀ o ∈ outcomes, o.result.confidence.inUnit = true) :
    ∃ r, report outcomes = .ok r := by
  have books := Ledger.accounts_of outcomes
  have active {m : KindMetrics}
      (hm : m ∈ (Ledger.of outcomes).metrics.filter fun m => decide (0 < m.support)) : m.Counts :=
    books.counts m (List.mem_of_mem_filter hm)
  have confident {keep : Outcome → Bool} : ∀ c ∈ (outcomes.filter keep).map fun o => o.result.confidence,
      c.inUnit = true := by
    intro c member
    obtain ⟨o, ho, rfl⟩ := List.mem_map.1 member
    exact unit o (List.mem_of_mem_filter ho)
  obtain ⟨subtypes, hsubtypes⟩ : ∃ x, subtypeShare (Ledger.of outcomes) = .ok x := by
    apply exists_subtypeShare
    rw [books.subtypesRight, books.subtypesChecked]
    exact List.countP_mono_left fun o _ both => (Bool.and_eq_true_iff.1 both).1
  obtain ⟨accuracy, haccuracy⟩ : ∃ x, share (Ledger.of outcomes).right outcomes.length = .ok x :=
    exists_share (books.right ▸ List.countP_le_length)
  obtain ⟨precisionMean, hprecision⟩ :=
    exists_macroMean fun m hm => KindMetrics.exists_precisionRate (active hm)
  obtain ⟨recallMean, hrecall⟩ := exists_macroMean fun m hm => KindMetrics.exists_recallRate (active hm)
  obtain ⟨f1Mean, hf1⟩ := exists_macroMean fun m hm => KindMetrics.exists_f1 (active hm)
  obtain ⟨whenRight, hright⟩ := exists_meanConfidence (books.confidencesRight ▸ confident)
  obtain ⟨whenWrong, hwrong⟩ := exists_meanConfidence (books.confidencesWrong ▸ confident)
  simp only [report, pure_eq_ok, hsubtypes, haccuracy, hprecision, hrecall, hf1, hright, hwrong, ok_bind]
  exact ⟨_, rfl⟩

/-- Where a report has its counts and shares from. -/
structure ReportsOn (outcomes : List Outcome) (r : BenchmarkReport) : Prop where
  totalSamples : r.totalSamples = outcomes.length
  cleanSamples : r.cleanSamples = outcomes.countP fun o => o.sample.isClean
  flaggedSamples : r.flaggedSamples = r.totalSamples - r.cleanSamples
  metrics : r.metrics = (Ledger.of outcomes).metrics
  accuracy : share (Ledger.of outcomes).right outcomes.length = .ok r.accuracy
  subtypeAccuracy : subtypeShare (Ledger.of outcomes) = .ok r.subtypeAccuracy
  misclassifications : r.misclassifications = (Ledger.of outcomes).misclassifications

theorem reportsOn (h : report outcomes = .ok r) : ReportsOn outcomes r := by
  simp only [report, pure_eq_ok, bind_eq_ok_iff, Except.ok.injEq] at h
  obtain ⟨subtypes, hsubtypes, accuracy, haccuracy, -, -, -, -, -, -, -, -, -, -, rfl⟩ := h
  exact ⟨rfl, rfl, rfl, rfl, haccuracy, hsubtypes, rfl⟩

/-! ## The counts add up -/

/-- The counts of a report on some outcomes add up. -/
structure Conserves (outcomes : List Outcome) (r : BenchmarkReport) : Prop where
  total : r.totalSamples = outcomes.length
  kinds : r.metrics.map KindMetrics.kind = FeedbackKind.all
  cells : ∀ m ∈ r.metrics, m.truePositives + m.falsePositives + m.falseNegatives +
    m.trueNegatives = r.totalSamples
  truePositives : (r.metrics.map KindMetrics.truePositives).sum = outcomes.countP Outcome.isRight
  falsePositives : (r.metrics.map KindMetrics.falsePositives).sum = r.misclassifications.length
  falseNegatives : (r.metrics.map KindMetrics.falseNegatives).sum = r.misclassifications.length
  supports : (r.metrics.map KindMetrics.support).sum = r.totalSamples
  clean : ∀ m ∈ r.metrics, m.kind = .affirmation → m.support = r.cleanSamples
  flagged : r.cleanSamples + r.flaggedSamples = r.totalSamples
  misclassifications : r.misclassifications =
    (outcomes.filter fun o => !o.isRight).map Outcome.misclassification

theorem conserves (h : report outcomes = .ok r) : Conserves outcomes r := by
  have books := Ledger.accounts_of outcomes
  obtain ⟨total, cleanCount, flagged, metrics, -, -, wrong⟩ := reportsOn h
  constructor
  case total => exact total
  case kinds => rw [metrics, books.kinds]
  case cells =>
    intro m hm
    rw [metrics] at hm
    rw [total]
    exact books.total m hm
  case truePositives => rw [metrics, books.truePositives, books.right]
  case falsePositives => rw [metrics, wrong, books.falsePositives]
  case falseNegatives => rw [metrics, wrong, books.falseNegatives]
  case supports =>
    -- every sample is a true positive or was missed
    have missed : (Ledger.of outcomes).misclassifications.length =
        outcomes.countP fun o => !o.isRight := by
      rw [books.misclassifications, List.length_map, List.countP_eq_length_filter]
    have split := List.length_eq_countP_add_countP Outcome.isRight (l := outcomes)
    have sums : ((Ledger.of outcomes).metrics.map KindMetrics.support).sum =
        ((Ledger.of outcomes).metrics.map KindMetrics.truePositives).sum +
          ((Ledger.of outcomes).metrics.map KindMetrics.falseNegatives).sum :=
      List.sum_map_add
    rw [total, metrics, sums, books.truePositives, books.falseNegatives, books.right, missed, split]
    simp
  case clean =>
    intro m hm affirmation
    rw [metrics] at hm
    rw [books.support m hm, cleanCount, affirmation]
    rfl
  case flagged => omega
  case misclassifications => rw [wrong, books.misclassifications]

/-! ## The order of the samples -/

/-- Two reports with the same counts and shares; the misclassifications may stand in another order. -/
structure SameCounts (r r' : BenchmarkReport) : Prop where
  totalSamples : r.totalSamples = r'.totalSamples
  cleanSamples : r.cleanSamples = r'.cleanSamples
  flaggedSamples : r.flaggedSamples = r'.flaggedSamples
  metrics : r.metrics = r'.metrics
  accuracy : r.accuracy = r'.accuracy
  subtypeAccuracy : r.subtypeAccuracy = r'.subtypeAccuracy
  misclassifications : r.misclassifications.Perm r'.misclassifications

theorem sameCounts {r' : BenchmarkReport} (perm : others.Perm outcomes) (h : report others = .ok r)
    (h' : report outcomes = .ok r') : SameCounts r r' := by
  have books := Ledger.accounts_of others
  have books' := Ledger.accounts_of outcomes
  obtain ⟨total, clean, flagged, metrics, accuracy, subtypes, wrong⟩ := reportsOn h
  obtain ⟨total', clean', flagged', metrics', accuracy', subtypes', wrong'⟩ := reportsOn h'
  have sameTotal : r.totalSamples = r'.totalSamples := by rw [total, total', perm.length_eq]
  have sameClean : r.cleanSamples = r'.cleanSamples := by rw [clean, clean', perm.countP_eq]
  have sameRight : (Ledger.of others).right = (Ledger.of outcomes).right := by
    rw [books.right, books'.right, perm.countP_eq]
  have sameSubtypes : subtypeShare (Ledger.of others) = subtypeShare (Ledger.of outcomes) := by
    rw [subtypeShare, subtypeShare, books.subtypesChecked, books.subtypesRight,
      books'.subtypesChecked, books'.subtypesRight, perm.countP_eq, perm.countP_eq]
  constructor
  case totalSamples => exact sameTotal
  case cleanSamples => exact sameClean
  case flaggedSamples => rw [flagged, flagged', sameTotal, sameClean]
  case metrics => rw [metrics, metrics', Ledger.metrics_of_perm perm]
  case accuracy =>
    rw [sameRight, perm.length_eq, accuracy'] at accuracy
    exact (Except.ok.inj accuracy).symm
  case subtypeAccuracy =>
    rw [sameSubtypes, subtypes'] at subtypes
    exact (Except.ok.inj subtypes).symm
  case misclassifications =>
    rw [wrong, wrong', books.misclassifications, books'.misclassifications]
    exact (perm.filter _).map _

/-! ## Samples that a panel answers -/

/-- The outcome of a sample is what the panel answers for it. -/
def OutcomeOf (panel : Panel) (s : Sample) (o : Outcome) : Prop :=
  o.sample = s ∧ panel.analyze s.text = .ok o.result

theorem outcomes_eq_ok_iff : Benchmark.outcomes panel samples = .ok outcomes ↔
    List.Forall₂ (OutcomeOf panel) samples outcomes := by
  have step (s : Sample) (o : Outcome) :
      ((do return ⟨s, ← panel.analyze s.text⟩ : Except Fault Outcome) = .ok o) ↔
        OutcomeOf panel s o := by
    rw [bind_eq_ok_iff]
    constructor
    · rintro ⟨a, answer, made⟩
      obtain rfl := Except.ok.inj made
      exact ⟨rfl, answer⟩
    · rintro ⟨rfl, answer⟩
      exact ⟨o.result, answer, rfl⟩
  simp only [Benchmark.outcomes, mapM_eq_ok_iff, step]

theorem evaluate_eq_ok (answered : List.Forall₂ (OutcomeOf panel) samples outcomes)
    (h : report outcomes = .ok r) : evaluate panel samples = .ok r :=
  bind_eq_ok_iff.2 ⟨outcomes, outcomes_eq_ok_iff.2 answered, lift_eq_ok_iff.2 h⟩

theorem exists_report_of_answered (answered : List.Forall₂ (OutcomeOf panel) samples outcomes) :
    ∃ r, report outcomes = .ok r := by
  refine exists_report fun o member => ?_
  obtain ⟨s, -, -, answer⟩ := exists_mem_of_forall₂ answered member
  exact Panel.inUnit_of_analyze answer

/-- **What a benchmark counts adds up.**  A panel that answers for every sample gets a report whose counts
add up, and samples in another order get one with the same counts and shares. -/
theorem conserved (answers : ∀ s ∈ samples, ∃ a, panel.analyze s.text = .ok a) :
    ∃ outcomes r, List.Forall₂ (OutcomeOf panel) samples outcomes ∧
      evaluate panel samples = .ok r ∧ Conserves outcomes r ∧
      ∀ shuffled, shuffled.Perm samples →
        ∃ r', evaluate panel shuffled = .ok r' ∧ SameCounts r' r := by
  obtain ⟨outcomes, houtcomes⟩ : ∃ outcomes, Benchmark.outcomes panel samples = .ok outcomes := by
    refine exists_mapM_eq_ok fun s member => ?_
    obtain ⟨a, answer⟩ := answers s member
    exact ⟨⟨s, a⟩, map_eq_ok_iff.2 ⟨a, answer, rfl⟩⟩
  have answered := outcomes_eq_ok_iff.1 houtcomes
  obtain ⟨r, hr⟩ := exists_report_of_answered answered
  refine ⟨outcomes, r, answered, evaluate_eq_ok answered hr, conserves hr, ?_⟩
  intro shuffled perm
  obtain ⟨others, answered', perm'⟩ := List.perm_comp_forall₂ perm answered
  obtain ⟨r', hr'⟩ := exists_report_of_answered answered'
  exact ⟨r', evaluate_eq_ok answered' hr', sameCounts perm' hr' hr⟩

/-- A panel that minds one word only. -/
def minding : Panel where
  tone := ⟨"ToneAnalyzer", fun text =>
    .ok (if text = "Nonsense!" then some (.ofHundredths .inflammatory 80) else none)⟩
  fallacy := ⟨"FallacyDetector", fun _ => .ok none⟩
  clarity := ⟨"ClarityAnalyzer", fun _ => .ok none⟩
  tieEpsilon := Panel.defaultTieEpsilon

/-- An attack that is found, a fallacy that is missed, and a clean text. -/
def threeSamples : List Sample := [
  { text := "Nonsense!", expected := .inflammatory, subtype := none, source := "", notes := "" },
  { text := "You say so.", expected := .fallacy, subtype := none, source := "", notes := "" },
  { text := "Libraries help.", expected := .affirmation, subtype := none, source := "", notes := "" }]

theorem threeSamples_conserved :
    (∀ s ∈ threeSamples, ∃ a, minding.analyze s.text = .ok a) ∧
      ∃ outcomes r, evaluate minding threeSamples = .ok r ∧ Conserves outcomes r ∧
        outcomes.countP Outcome.isRight = 2 ∧ r.misclassifications.length = 1 ∧
        ∃ r', evaluate minding threeSamples.reverse = .ok r' ∧ SameCounts r' r := by
  have answers : ∀ s ∈ threeSamples, ∃ a, minding.analyze s.text = .ok a := by
    have ok : ∀ s ∈ threeSamples, (minding.analyze s.text).isOk = true := by decide +kernel
    intro s member
    have hs := ok s member
    cases h : minding.analyze s.text with
    | error fault => simp [h, Except.isOk, Except.toBool] at hs
    | ok a => exact ⟨a, rfl⟩
  obtain ⟨outcomes, r, answered, evaluated, conserves, unshuffled⟩ := conserved answers
  have right : (Benchmark.outcomes minding threeSamples).toOption.map
      (fun outcomes => (outcomes.countP Outcome.isRight, outcomes.length)) = some (2, 3) := by
    decide +kernel
  rw [outcomes_eq_ok_iff.2 answered] at right
  obtain ⟨two, three⟩ := Prod.mk.inj (Option.some.inj right)
  refine ⟨answers, outcomes, r, evaluated, conserves, two, ?_, unshuffled _ threeSamples.reverse_perm⟩
  have split : outcomes.length =
      outcomes.countP Outcome.isRight + outcomes.countP fun o => !o.isRight := by
    simpa using List.length_eq_countP_add_countP Outcome.isRight (l := outcomes)
  rw [conserves.misclassifications, List.length_map, ← List.countP_eq_length_filter]
  omega

end Benchmark

end Deliberation
