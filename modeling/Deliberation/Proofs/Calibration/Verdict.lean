/-
# Proofs.Calibration.Verdict -- what the gate says about an accuracy

The gate fails a corpus where the accuracy of its report is below the minimum.  This accuracy is the share of
right outcomes to four places, so the gate is not exact: of three samples two pass a minimum of 0.66668
(`two_thirds_pass_a_higher_minimum`).  It is exact for every minimum that is further from the share than
rounding can go, and for every share that has no more than four places; against a minimum of four places it
never fails a share that reaches it (`Decides`).

Every corpus that parses gets such a verdict (`verdict`): the numbers of a report are doubles, so that it can
be printed (`Printable`), and the shipped panel answers for every text of a possible length.
-/
import Deliberation.Calibration.Gate
import Deliberation.Proofs.Calibration.Conservation
import Deliberation.Proofs.Feedback.Readiness
import Deliberation.Proofs.Number.Places

set_option autoImplicit false

namespace Deliberation

open Binary64

/-! ## Reports can be printed -/

def Number.IsReal (n : Number) : Prop := ∃ x, n = .real x

theorem Number.IsReal.toBinary64 {n : Number} (h : n.IsReal) : ∃ x, n.toBinary64 = .ok x := by
  obtain ⟨x, rfl⟩ := h
  exact ⟨x, rfl⟩

namespace KindMetrics

variable {m : KindMetrics}

theorem exists_row (h : m.Counts) : ∃ row, m.row = .ok row := by
  obtain ⟨p, hp⟩ := exists_precisionRate h
  obtain ⟨r, hr⟩ := exists_recallRate h
  obtain ⟨f, hf⟩ := exists_f1 h
  simp only [row, hp, hr, hf, ok_bind, pure_eq_ok]
  exact ⟨_, rfl⟩

theorem exists_toValue (h : m.Counts) : ∃ value, m.toValue = .ok value := by
  obtain ⟨p, hp⟩ := exists_precisionRate h
  obtain ⟨r, hr⟩ := exists_recallRate h
  obtain ⟨f, hf⟩ := exists_f1 h
  simp only [toValue, hp, hr, hf, ok_bind, pure_eq_ok]
  exact ⟨_, rfl⟩

end KindMetrics

namespace BenchmarkReport

variable {r : BenchmarkReport}

/-- The shares and means of a report are doubles, and what it counted is not negative. -/
structure Printable (r : BenchmarkReport) : Prop where
  metrics : ∀ m ∈ r.metrics, m.Counts
  accuracy : r.accuracy.IsReal
  macroPrecision : r.macroPrecision.IsReal
  macroRecall : r.macroRecall.IsReal
  macroF1 : r.macroF1.IsReal
  subtypeAccuracy : ∀ n ∈ r.subtypeAccuracy, n.IsReal
  confidenceWhenRight : r.confidenceWhenRight.IsReal
  confidenceWhenWrong : r.confidenceWhenWrong.IsReal

namespace Printable

theorem exists_sortedMetrics (h : r.Printable) :
    ∃ sorted, r.sortedMetrics = .ok sorted ∧ ∀ m ∈ sorted, m.Counts := by
  obtain ⟨scored, hscored⟩ : ∃ scored,
      (r.metrics.mapM fun m => do return (m, ← m.f1) : Except NumberFault _) = .ok scored := by
    refine exists_mapM_eq_ok fun m member => ?_
    obtain ⟨x, answer⟩ := KindMetrics.exists_f1 (h.metrics m member)
    exact ⟨(m, x), by rw [answer]; rfl⟩
  refine ⟨_, by rw [sortedMetrics, hscored]; rfl, ?_⟩
  intro m member
  obtain ⟨⟨m, x⟩, among, rfl⟩ := List.mem_map.1 member
  obtain ⟨m', hm', same⟩ := exists_step_of_mapM hscored ((sortBy_perm _ _).mem_iff.1 among)
  obtain ⟨_, -, same⟩ := bind_eq_ok_iff.1 same
  obtain ⟨rfl, -⟩ := Prod.mk.inj (Except.ok.inj same)
  exact h.metrics _ hm'

theorem exists_format (h : r.Printable) : ∃ text, r.format = .ok text := by
  obtain ⟨sorted, hsorted, counts⟩ := h.exists_sortedMetrics
  obtain ⟨rows, hrows⟩ : ∃ rows, (sorted.filter KindMetrics.isActive).mapM KindMetrics.row = .ok rows :=
    exists_mapM_eq_ok fun m member => KindMetrics.exists_row (counts m (List.mem_of_mem_filter member))
  obtain ⟨accuracy, haccuracy⟩ := h.accuracy.toBinary64
  obtain ⟨precisionMean, hprecision⟩ := h.macroPrecision.toBinary64
  obtain ⟨recallMean, hrecall⟩ := h.macroRecall.toBinary64
  obtain ⟨f1Mean, hf1⟩ := h.macroF1.toBinary64
  obtain ⟨whenRight, hright⟩ := h.confidenceWhenRight.toBinary64
  obtain ⟨whenWrong, hwrong⟩ := h.confidenceWhenWrong.toBinary64
  have subtypes := h.subtypeAccuracy
  unfold format
  simp only [hsorted, hrows, haccuracy, hprecision, hrecall, hf1, hright, hwrong, ok_bind, pure_eq_ok]
  cases hs : r.subtypeAccuracy with
  | none => exact ⟨_, rfl⟩
  | some n =>
      obtain ⟨x, hx⟩ := (subtypes n (hs ▸ rfl)).toBinary64
      simp only [hx, ok_bind]
      exact ⟨_, rfl⟩

theorem exists_toValue (h : r.Printable) : ∃ value, r.toValue = .ok value := by
  obtain ⟨kinds, hkinds⟩ : ∃ kinds, ((r.metrics.filter KindMetrics.isActive).mapM fun m => do
      return (m.kind.label, ← m.toValue) : Except NumberFault _) = .ok kinds := by
    refine exists_mapM_eq_ok fun m member => ?_
    obtain ⟨value, answer⟩ := KindMetrics.exists_toValue (h.metrics m (List.mem_of_mem_filter member))
    exact ⟨(m.kind.label, value), by rw [answer]; rfl⟩
  rw [toValue, hkinds]
  exact ⟨_, rfl⟩

end Printable

end BenchmarkReport

namespace Benchmark

variable {panel : Panel} {samples : List Sample} {outcomes : List Outcome} {r : BenchmarkReport}

/-- The share of right outcomes. -/
def rightShare (outcomes : List Outcome) : ℚ := outcomes.countP Outcome.isRight / outcomes.length

theorem rightShare_nonneg (outcomes : List Outcome) : 0 ≤ rightShare outcomes := by
  unfold rightShare
  positivity

theorem rightShare_le_one (outcomes : List Outcome) : rightShare outcomes ≤ 1 :=
  div_le_one_of_le₀ (by exact_mod_cast List.countP_le_length) (Nat.cast_nonneg _)

theorem ofRatio_eq_ofRat {part whole : ℕ} (le : part ≤ whole) :
    ofRatio part whole = .ok (ofRat ((part : ℚ) / whole)) := by
  obtain ⟨q, hq, -⟩ := upTo_share le
  simp [ofRatio, hq]

/-- The accuracy of a report is the share of right outcomes to four places. -/
theorem accuracy_of_report (nonempty : outcomes ≠ []) (h : report outcomes = .ok r) :
    r.accuracy = .real ((ofRat (rightShare outcomes)).roundPlaces 4) := by
  have accuracy := (reportsOn h).accuracy
  have positive : (0 : ℤ) < outcomes.length := by exact_mod_cast List.length_pos_iff.2 nonempty
  rw [(Ledger.accounts_of outcomes).right, share, rate, if_pos positive,
    ofRatio_eq_ofRat List.countP_le_length] at accuracy
  exact (Except.ok.inj accuracy).symm

theorem printable (h : report outcomes = .ok r) : r.Printable := by
  have rounded {α : Type} {x : Except NumberFault α} {f : α → Binary64} {n : Number}
      (answer : (do return .real (f (← x)) : Except NumberFault Number) = .ok n) : n.IsReal := by
    obtain ⟨a, -, made⟩ := bind_eq_ok_iff.1 answer
    exact ⟨f a, (Except.ok.inj made).symm⟩
  have books := Ledger.accounts_of outcomes
  simp only [report, pure_eq_ok, bind_eq_ok_iff, Except.ok.injEq] at h
  obtain ⟨subtypes, hsubtypes, accuracy, haccuracy, precisionMean, hprecision, recallMean, hrecall,
    f1Mean, hf1, whenRight, hright, whenWrong, hwrong, rfl⟩ := h
  constructor
  case metrics => exact books.counts
  case accuracy => exact rounded haccuracy
  case macroPrecision => exact rounded hprecision
  case macroRecall => exact rounded hrecall
  case macroF1 => exact rounded hf1
  case confidenceWhenRight => exact rounded hright
  case confidenceWhenWrong => exact rounded hwrong
  case subtypeAccuracy =>
    intro n among
    unfold subtypeShare at hsubtypes
    split_ifs at hsubtypes
    · rw [← Except.ok.inj hsubtypes] at among
      cases among
    · obtain ⟨n', answer, made⟩ := map_eq_ok_iff.1 hsubtypes
      obtain rfl : n' = n := Option.some.inj (made.trans among)
      exact rounded answer

end Benchmark

/-! ## The verdict -/

open Benchmark

/-- The status of the gate for a share of right outcomes and a minimum.  It compares the share to four places,
so it is exact where the minimum is further away than rounding goes, and where the share has no more places.
Where the minimum has no more places, it is wrong in letting pass only. -/
structure Decides (share : ℚ) (minimum : Binary64) (status : ℕ) : Prop where
  rounded : status = if (ofRat share).roundPlaces 4 < minimum then 2 else 0
  apart : (minimum.isFinite = true → 1 / (2 * 10 ^ 4) + 1 / 2 ^ 53 < |share - minimum.toRat|) →
    (status = 2 ↔ finite share < minimum) ∧ (status = 2 ↔ ofRat share < minimum)
  fourPlaces : (∃ k : ℤ, share * 10 ^ 4 = k) → (status = 2 ↔ ofRat share < minimum)
  noFalseAlarm : (∃ d : ℕ, d ≤ 10 ^ 4 ∧ minimum = .ofDecimal d 4) → status = 2 → ofRat share < minimum

theorem decides {share : ℚ} (nonneg : 0 ≤ share) (le : share ≤ 1) (minimum : Binary64) :
    Decides share minimum (if (ofRat share).roundPlaces 4 < minimum then 2 else 0) := by
  obtain ⟨r, double, r0, r1, close⟩ := exists_ofRat_unit nonneg le
  have two : (if (ofRat share).roundPlaces 4 < minimum then 2 else 0) = 2 ↔
      (ofRat share).roundPlaces 4 < minimum := by
    split_ifs with below <;> simp [below]
  refine ⟨rfl, fun apart => ?_, ?_, ?_⟩
  · rw [two]
    have roundedFinite : ((ofRat share).roundPlaces 4).isFinite = true := by
      rw [double]
      exact (upTo_roundPlaces r0 r1).isFinite
    have fromShare : (ofRat share).roundPlaces 4 < minimum ↔ finite share < minimum :=
      lt_iff_of_error roundedFinite rfl (roundPlaces_ofRat_error nonneg le 4) apart
    have fromDouble : ofRat share < minimum ↔ finite share < minimum := by
      refine lt_iff_of_error (by rw [double]; rfl) rfl ?_ apart
      calc |(ofRat share).toRat - share| ≤ 1 / 2 ^ 54 := ofRat_error nonneg le
        _ ≤ 1 / (2 * 10 ^ 4) + 1 / 2 ^ 53 := by norm_num
    exact ⟨fromShare, fromShare.trans fromDouble.symm⟩
  · rintro ⟨k, digits⟩
    rw [two, roundPlaces_of_digits nonneg le (by norm_num) digits]
  · rintro ⟨d, small, rfl⟩ failed
    have below := two.1 failed
    obtain ⟨m, minimum, m0, fixed⟩ := exists_ofDecimal small (by norm_num)
    rw [minimum, double] at below ⊢
    by_contra reaches
    -- what is not below the minimum stays so when both are rounded
    have ordered : (finite m).roundPlaces 4 ≤ (finite r).roundPlaces 4 :=
      roundPlaces_le_roundPlaces m0 (not_lt.1 (mt finite_lt_finite_iff.2 reaches))
    rw [fixed] at ordered
    exact Binary64.not_le_of_lt below ordered

namespace GateOptions

variable {panel : Panel} {samples : List Sample} {outcomes : List Outcome} {r : BenchmarkReport}
  {entries : List (String × Directory.Entry)} {writable : String → Except Fault Unit}

/-- A report that can be printed is judged by its accuracy. -/
theorem exists_judge (o : GateOptions) (directory output : String) (minimum : Binary64) (count : ℕ)
    (h : r.Printable) : ∃ outcome, o.judge directory output minimum count r = .ok outcome ∧
      outcome.status = if fails minimum r then 2 else 0 := by
  obtain ⟨text, htext⟩ := h.exists_format
  obtain ⟨value, hvalue⟩ := h.exists_toValue
  unfold judge
  rw [htext, hvalue]
  exact ⟨_, rfl, rfl⟩

/-- **The gate compares the share of right outcomes, to four places, with the minimum.** -/
theorem run_of_answered (directory output : String) (json : Bool) (minimum : Binary64)
    (parsed : Corpus.parseAll entries = .ok samples) (nonempty : samples ≠ [])
    (answered : List.Forall₂ (OutcomeOf panel) samples outcomes) (saved : writable output = .ok ()) :
    ∃ outcome,
      run ⟨some directory, some output, json, some minimum⟩ panel (some entries) writable = .ok outcome ∧
        outcome.status = if (ofRat (rightShare outcomes)).roundPlaces 4 < minimum then 2 else 0 := by
  obtain ⟨r, hr⟩ := exists_report_of_answered answered
  have notEmpty : samples.isEmpty = false := by simpa using nonempty
  have someOutcomes : outcomes ≠ [] := by
    rintro rfl
    exact nonempty (List.forall₂_nil_right_iff.1 answered)
  have benchmark : Benchmark.run panel (Directory.plain directory) entries = .ok r := by
    unfold Benchmark.run
    rw [parsed, ok_bind, notEmpty]
    exact evaluate_eq_ok answered hr
  obtain ⟨outcome, judged, status⟩ := exists_judge ⟨some directory, some output, json, some minimum⟩
    (Directory.plain directory) output minimum samples.length (printable hr)
  refine ⟨outcome, ?_, ?_⟩
  · unfold run
    simp only [needed, ok_bind, parsed, notEmpty, benchmark, saved, judged]
    rfl
  · rw [status, fails, accuracy_of_report someOutcomes hr]
    simp only [decide_eq_true_eq]
    rfl

end GateOptions

/-! ## The shipped panel -/

/-- The shipped panel answers for every text of a possible length. -/
theorem Panel.exists_analyze {text : String} (short : text.length < maxItems) :
    ∃ a, shipped.analyze text = .ok a := by
  obtain ⟨found, hfound⟩ := exists_detections short
  obtain ⟨results, hresults⟩ := exists_analyzeAll hfound (isScored_of_detections hfound)
    (by decide +kernel)
  exact ⟨_, by rw [analyze, hresults]; rfl⟩

theorem Panel.exists_outcomes {samples : List Sample} (short : ∀ s ∈ samples, s.text.length < maxItems) :
    ∃ outcomes, List.Forall₂ (OutcomeOf shipped) samples outcomes := by
  obtain ⟨outcomes, houtcomes⟩ : ∃ outcomes, Benchmark.outcomes shipped samples = .ok outcomes := by
    refine exists_mapM_eq_ok fun s member => ?_
    obtain ⟨a, answer⟩ := exists_analyze (short s member)
    exact ⟨⟨s, a⟩, map_eq_ok_iff.2 ⟨a, answer, rfl⟩⟩
  exact ⟨outcomes, outcomes_eq_ok_iff.1 houtcomes⟩

/-- **Every corpus that parses gets a verdict**: 2 where the share of right outcomes, to four places, is below
the minimum, and else 0.  A minimum that is not near the share, or a share of four places, makes it exact. -/
theorem verdict (directory output : String) (json : Bool) (minimum : Binary64)
    {entries : List (String × Directory.Entry)} {samples : List Sample}
    {writable : String → Except Fault Unit} (parsed : Corpus.parseAll entries = .ok samples)
    (nonempty : samples ≠ []) (short : ∀ s ∈ samples, s.text.length < maxItems)
    (saved : writable output = .ok ()) :
    ∃ outcomes outcome, List.Forall₂ (OutcomeOf Panel.shipped) samples outcomes ∧
      GateOptions.run ⟨some directory, some output, json, some minimum⟩ Panel.shipped (some entries)
        writable = .ok outcome ∧
      Decides (rightShare outcomes) minimum outcome.status := by
  obtain ⟨outcomes, answered⟩ := Panel.exists_outcomes short
  obtain ⟨outcome, done, status⟩ :=
    GateOptions.run_of_answered directory output json minimum parsed nonempty answered saved
  refine ⟨outcomes, outcome, answered, done, ?_⟩
  rw [status]
  exact decides (rightShare_nonneg outcomes) (rightShare_le_one outcomes) minimum

/-- Three labelled texts.  Nothing in the last one is the fallacy that its label asks for. -/
def threeLabels : List Sample := [
  { text := "Shut up!", expected := .inflammatory, subtype := none, source := "unknown", notes := "" },
  { text := "Libraries help.", expected := .affirmation, subtype := none, source := "unknown", notes := "" },
  { text := "Libraries help.", expected := .fallacy, subtype := none, source := "unknown", notes := "" }]

/-- A directory with one file, which holds the three texts. -/
def threeLabelsCorpus : List (String × Directory.Entry) := [("a.txt", .file (
  "---\nexpected: INFLAMMATORY\n\nShut up!\n" ++ "---\nexpected: AFFIRMATION\n\nLibraries help.\n" ++
  "---\nexpected: FALLACY\n\nLibraries help.\n---\n"))]

theorem parseAll_threeLabelsCorpus : Corpus.parseAll threeLabelsCorpus = .ok threeLabels := by
  decide +kernel

theorem short_threeLabels : ∀ s ∈ threeLabels, s.text.length < maxItems := by decide +kernel

/-- Reports can be written to any directory. -/
def writesAnywhere (_directory : String) : Except Fault Unit := .ok ()

/-- Two of the three labels are met. -/
theorem rightShare_threeLabels {outcomes : List Outcome}
    (answered : List.Forall₂ (OutcomeOf Panel.shipped) threeLabels outcomes) :
    rightShare outcomes = 2 / 3 := by
  have right : (Benchmark.outcomes Panel.shipped threeLabels).toOption.map
      (fun outcomes => (outcomes.countP Outcome.isRight, outcomes.length)) = some (2, 3) := by
    decide +kernel
  rw [outcomes_eq_ok_iff.2 answered] at right
  obtain ⟨two, three⟩ := Prod.mk.inj (Option.some.inj right)
  rw [rightShare, two, three]
  norm_num

/-- Two thirds are well below seven tenths, and the gate says so. -/
theorem two_thirds_fail_seven_tenths :
    Corpus.parseAll threeLabelsCorpus = .ok threeLabels ∧ threeLabels ≠ [] ∧
      (∀ s ∈ threeLabels, s.text.length < maxItems) ∧
      ∃ outcomes outcome, rightShare outcomes = 2 / 3 ∧
        GateOptions.run ⟨some "corpus", some "reports", true, some (.ofDecimal 7 1)⟩ Panel.shipped
          (some threeLabelsCorpus) writesAnywhere = .ok outcome ∧
        outcome.status = 2 := by
  have nonempty : threeLabels ≠ [] := by decide
  refine ⟨parseAll_threeLabelsCorpus, nonempty, short_threeLabels, ?_⟩
  obtain ⟨outcomes, outcome, answered, done, decided⟩ := verdict "corpus" "reports" true (.ofDecimal 7 1)
    parseAll_threeLabelsCorpus nonempty short_threeLabels (rfl : writesAnywhere "reports" = .ok ())
  have share := rightShare_threeLabels answered
  refine ⟨outcomes, outcome, share, done, (decided.apart fun _ => ?_).1.2 ?_⟩
  · rw [share]
    decide +kernel
  · rw [share]
    decide +kernel

/-- Two thirds are below 0.66668, but not to four places, and the gate lets them pass. -/
theorem two_thirds_pass_a_higher_minimum :
    Corpus.parseAll threeLabelsCorpus = .ok threeLabels ∧
      finite (2 / 3) < .ofDecimal 66668 5 ∧ ofRat (2 / 3) < .ofDecimal 66668 5 ∧
      ∃ outcomes outcome, List.Forall₂ (OutcomeOf Panel.shipped) threeLabels outcomes ∧
        rightShare outcomes = 2 / 3 ∧
        GateOptions.run ⟨some "corpus", some "reports", true, some (.ofDecimal 66668 5)⟩ Panel.shipped
          (some threeLabelsCorpus) writesAnywhere = .ok outcome ∧
        outcome.status = 0 := by
  refine ⟨parseAll_threeLabelsCorpus, by decide +kernel, by decide +kernel, ?_⟩
  obtain ⟨outcomes, answered⟩ := Panel.exists_outcomes short_threeLabels
  have share := rightShare_threeLabels answered
  obtain ⟨outcome, done, status⟩ := GateOptions.run_of_answered "corpus" "reports" true
    (.ofDecimal 66668 5) parseAll_threeLabelsCorpus (by decide) answered
    (rfl : writesAnywhere "reports" = .ok ())
  refine ⟨outcomes, outcome, answered, share, done, ?_⟩
  rw [status, share]
  decide +kernel

end Deliberation
