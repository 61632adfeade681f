/-
# Proofs.Feedback.Readiness -- what keeps a draft from being posted

With the shipped tables a draft is not ready to post exactly when some rule of inflammatory language
matches, when fallacies weigh two, when unsourced claims weigh two and a half, or when there are none of
those and biased framing weighs four (`not_ready_iff`).  So inflammatory language always stands against
posting, a single fallacy never does, and bias does only where no claim lacks its source.

Each detector contributes one condition (`Reports.critical_iff`).  Weights are multiples of one half,
and those of biased framing whole, so that no total falls between the one that stays below a critical
threshold and the next one, which reaches it.
-/
import Deliberation.Proofs.Feedback.Panel
import Deliberation.Proofs.Feedback.Reports

set_option autoImplicit false

namespace Deliberation

open Binary64 Text

/-! ## One detector -/

section

variable {kind : FeedbackKind} {rules : List Rule} {m : ConfidenceModel} {text : String}
  {outcome : Option Detection} {answer : Except NumberFault (Option Detection)}

/-- **A detector stands against posting exactly when its total reaches the critical one.** -/
theorem Reports.critical_iff (h : Reports kind rules m text answer) (reported : answer = .ok outcome)
    (halves : ∀ rule ∈ rules, rule.InHalves) (notBlank : isBlankText text = false)
    {threshold : Number} (critical : kind.criticalThreshold = some threshold) {below above : ℚ}
    (crosses : m.Crosses threshold below above) (positive : 0 < above)
    (small : below < 2 ^ 50) (small' : above ≤ 2 ^ 50)
    (apart : weightedTotal rules text ≤ below ∨ above ≤ weightedTotal rules text) :
    (∃ d ∈ outcome, d.IsCritical) ↔ above ≤ weightedTotal rules text := by
  cases outcome with
  | none =>
      have noFindings := h.findings_eq_nil reported
      rw [findings_of_not_blank notBlank] at noFindings
      have total := sum_matchTable rules text
      rw [noFindings, List.map_nil, List.sum_nil] at total
      simp [← total, positive]
  | some d =>
      obtain ⟨-, ofKind, -⟩ := h.of_some reported
      rw [← h.reaches_iff reported halves notBlank crosses small small' apart]
      simp [Detection.IsCritical, ofKind, critical]

end

/-! ## The shipped detectors -/

variable {text : String} {outcome : Option Detection}

/-- Inflammatory language stands against posting, however little there is. -/
theorem Inflammatory.critical_iff (notBlank : isBlankText text = false)
    (h : detector.detect text = .ok outcome) :
    (∃ d ∈ outcome, d.IsCritical) ↔ SomeRuleMatches rules text := by
  have reports := reports rules .tone text
  have reported : analyze rules .tone text = .ok outcome := Detector.detect_ofAnalysis_iff.1 h
  cases outcome with
  | none =>
      have noFindings := reports.findings_eq_nil reported
      rw [findings_of_not_blank notBlank, matchTable_eq_nil_iff] at noFindings
      simpa using noFindings
  | some d =>
      obtain ⟨found, ofKind, -⟩ := reports.of_some reported
      have matched := (findings_ne_nil_iff.1 found).2
      obtain ⟨w, x, families, s, hx, tracks, score, confidence⟩ :=
        reports.exists_total reported inHalves notBlank
      refine iff_of_true ⟨d, rfl, .real (.ofDecimal 75 2), by rw [ofKind]; rfl, ?_⟩ matched
      rw [confidence]
      exact ConfidenceModel.le_score_tone hx tracks.nonneg.2 score

theorem Fallacy.critical_iff (notBlank : isBlankText text = false)
    (h : detector.detect text = .ok outcome) :
    (∃ d ∈ outcome, d.IsCritical) ↔ 2 ≤ weightedTotal rules text := by
  refine (reports rules .fallacy text).critical_iff (Detector.detect_ofAnalysis_iff.1 h) inHalves
    notBlank rfl ConfidenceModel.crosses_fallacy (by norm_num) (by norm_num) (by norm_num) ?_
  have halves := weightedTotal_le_or_ge_half inHalves text 3
  norm_num at halves ⊢
  exact halves

theorem Clarity.critical_iff (notBlank : isBlankText text = false)
    (h : detector.detect text = .ok outcome) :
    (∃ d ∈ outcome, d.IsCritical) ↔
      (SomeRuleMatches unsourcedRules text ∧ 5 / 2 ≤ weightedTotal unsourcedRules text) ∨
        (¬SomeRuleMatches unsourcedRules text ∧ 4 ≤ weightedTotal biasRules text) := by
  have reported : analyze .shipped text = .ok outcome := Detector.detect_ofAnalysis_iff.1 h
  have matched : findings unsourcedRules text = [] ↔ ¬SomeRuleMatches unsourcedRules text := by
    rw [findings_of_not_blank notBlank, matchTable_eq_nil_iff]
  by_cases noFindings : findings unsourcedRules text = []
  · have none := matched.1 noFindings
    have apart : weightedTotal biasRules text ≤ 3 ∨ 4 ≤ weightedTotal biasRules text := by
      have whole := weightedTotal_le_or_ge_whole weight_bias text 3
      norm_num at whole
      exact whole
    rw [(reports_bias .shipped noFindings).critical_iff reported inHalves_bias notBlank rfl
      ConfidenceModel.crosses_bias (by norm_num) (by norm_num) (by norm_num) apart]
    simp [none, Settings.shipped]
  · have some := not_not.1 (mt matched.2 noFindings)
    have apart : weightedTotal unsourcedRules text ≤ 2 ∨
        5 / 2 ≤ weightedTotal unsourcedRules text := by
      have halves := weightedTotal_le_or_ge_half inHalves_unsourced text 4
      norm_num at halves ⊢
      exact halves
    rw [(reports_unsourced .shipped noFindings).critical_iff reported inHalves_unsourced notBlank
      rfl ConfidenceModel.crosses_unsourced (by norm_num) (by norm_num) (by norm_num) apart]
    simp [some, Settings.shipped]

/-! ## The shipped panel -/

/-- Whichever table answers, it weighs in halves and its model is regular. -/
theorem Clarity.exists_reports (text : String) : ∃ kind rules m,
    Reports kind rules m text (analyze .shipped text) ∧ (∀ rule ∈ rules, rule.InHalves) ∧ m.Regular := by
  by_cases noFindings : findings unsourcedRules text = []
  · exact ⟨_, _, _, reports_bias .shipped noFindings, inHalves_bias,
      ConfidenceModel.crosses_bias.regular⟩
  · exact ⟨_, _, _, reports_unsourced .shipped noFindings, inHalves_unsourced,
      ConfidenceModel.crosses_unsourced.regular⟩

namespace Panel

theorem isScored_of_detections {found : List Detection} (hfound : shipped.detections text = .ok found) :
    ∀ d ∈ found, d.confidence.inUnit = true := by
  obtain ⟨tone, fallacy, clarity, htone, hfallacy, hclarity, rfl⟩ := detections_eq_ok_iff.1 hfound
  intro d member
  apply Detection.inUnit_of_upTo
  simp only [List.mem_filterMap, id, List.mem_cons, List.not_mem_nil, or_false] at member
  obtain ⟨outcome, rfl | rfl | rfl, rfl⟩ := member
  · exact (Inflammatory.reports _ _ text).upTo_confidence (Detector.detect_ofAnalysis_iff.1 htone)
  · exact (Fallacy.reports _ _ text).upTo_confidence (Detector.detect_ofAnalysis_iff.1 hfallacy)
  · obtain ⟨kind, rules, m, reports, -, -⟩ := Clarity.exists_reports text
    exact reports.upTo_confidence (Detector.detect_ofAnalysis_iff.1 hclarity)

/-- The shipped detectors answer for every text of a possible length. -/
theorem exists_detections (short : text.length < maxItems) :
    ∃ found, shipped.detections text = .ok found := by
  obtain ⟨tone, htone⟩ := (Inflammatory.reports Inflammatory.rules .tone text).exists_ok
    (exists_scoreOf Inflammatory.inHalves ConfidenceModel.regular_tone short)
  obtain ⟨fallacy, hfallacy⟩ := (Fallacy.reports Fallacy.rules .fallacy text).exists_ok
    (exists_scoreOf Fallacy.inHalves ConfidenceModel.crosses_fallacy.regular short)
  obtain ⟨kind, rules, m, reports, halves, regular⟩ := Clarity.exists_reports text
  obtain ⟨clarity, hclarity⟩ := reports.exists_ok (exists_scoreOf halves regular short)
  exact ⟨_, detections_eq_ok_iff.2 ⟨tone, fallacy, clarity, Detector.detect_ofAnalysis_iff.2 htone,
    Detector.detect_ofAnalysis_iff.2 hfallacy, Detector.detect_ofAnalysis_iff.2 hclarity, rfl⟩⟩

end Panel

/-- Something in a text stands against posting it: inflammatory language of any weight, fallacies that
weigh two, unsourced claims that weigh two and a half, or, where no claim lacks its source, bias
that weighs four. -/
def StandsAgainst (text : String) : Prop :=
  SomeRuleMatches Inflammatory.rules text ∨
    2 ≤ weightedTotal Fallacy.rules text ∨
    (SomeRuleMatches Clarity.unsourcedRules text ∧
      5 / 2 ≤ weightedTotal Clarity.unsourcedRules text) ∨
    (¬SomeRuleMatches Clarity.unsourcedRules text ∧ 4 ≤ weightedTotal Clarity.biasRules text)

instance (text : String) : Decidable (StandsAgainst text) := inferInstanceAs (Decidable (_ ∨ _))

/-- Some detection of the shipped panel is critical exactly when a finding stands against posting. -/
theorem critical_iff_standsAgainst (notBlank : isBlankText text = false) {found : List Detection}
    (hfound : Panel.shipped.detections text = .ok found) :
    (∃ d ∈ found, d.IsCritical) ↔ StandsAgainst text := by
  obtain ⟨tone, fallacy, clarity, htone, hfallacy, hclarity, rfl⟩ :=
    Panel.detections_eq_ok_iff.1 hfound
  rw [StandsAgainst, ← Inflammatory.critical_iff notBlank htone,
    ← Fallacy.critical_iff notBlank hfallacy, ← Clarity.critical_iff notBlank hclarity]
  cases tone <;> cases fallacy <;> cases clarity <;> simp

/-- **A draft is not ready exactly when it is not blank and a finding stands against it**, at every
sensitivity; and there is a preview of every text of a possible length. -/
theorem not_ready_iff (text : String) (sensitivity : Sensitivity) (elapsed : Number) :
    (text.length < maxItems → (∃ millis, elapsed.truncate = .ok millis) →
      ∃ results preview, Panel.shipped.analyzeAll text = .ok results ∧
        Preview.build results sensitivity elapsed = .ok preview) ∧
    ∀ results preview, Panel.shipped.analyzeAll text = .ok results →
      Preview.build results sensitivity elapsed = .ok preview →
        (preview.readyToPost = false ↔ isBlankText text = false ∧ StandsAgainst text) ∧
          ((∃ d, Inflammatory.detector.detect text = .ok (some d)) → preview.readyToPost = false) := by
  have iff (results : List Analysis) (preview : Preview)
      (analyzed : Panel.shipped.analyzeAll text = .ok results)
      (built : Preview.build results sensitivity elapsed = .ok preview) :
      preview.readyToPost = false ↔ isBlankText text = false ∧ StandsAgainst text := by
    cases blank : isBlankText text with
    | true => simp [Preview.ready_of_blank blank analyzed built]
    | false =>
        obtain ⟨found, hfound⟩ := Panel.exists_detections_of_analyzeAll blank analyzed
        rw [Preview.not_ready_iff_of_detections blank hfound analyzed built,
          critical_iff_standsAgainst blank hfound, and_iff_right rfl]
  refine ⟨?_, ?_⟩
  · rintro short ⟨millis, truncated⟩
    obtain ⟨found, hfound⟩ := Panel.exists_detections short
    obtain ⟨results, analyzed⟩ := Panel.exists_analyzeAll hfound (Panel.isScored_of_detections hfound)
      (by decide +kernel)
    obtain ⟨preview, built⟩ := Preview.exists_build results sensitivity truncated
    exact ⟨results, preview, analyzed, built⟩
  · intro results preview analyzed built
    refine ⟨iff results preview analyzed built, ?_⟩
    rintro ⟨d, fires⟩
    obtain ⟨found, -⟩ := (Inflammatory.reports Inflammatory.rules .tone text).of_some
      (Detector.detect_ofAnalysis_iff.1 fires)
    obtain ⟨notBlank, matched⟩ := findings_ne_nil_iff.1 found
    exact (iff results preview analyzed built).2 ⟨notBlank, .inl matched⟩

/-- One fallacy leaves a draft ready, two weigh just enough against it, and so does one attack. -/
theorem one_fallacy_ready_two_not :
    (∃ results preview, Panel.shipped.analyzeAll "By that logic we stop." = .ok results ∧
      Preview.build results .medium (.whole 0) = .ok preview ∧ preview.readyToPost = true) ∧
    (∃ results preview,
      Panel.shipped.analyzeAll "By that logic, this will lead to ruin." = .ok results ∧
        Preview.build results .medium (.whole 0) = .ok preview ∧ preview.readyToPost = false) ∧
    (∃ d, Inflammatory.detector.detect "Shut up!" = .ok (some d)) ∧
    ∃ results preview, Panel.shipped.analyzeAll "Shut up!" = .ok results ∧
      Preview.build results .medium (.whole 0) = .ok preview ∧ preview.readyToPost = false := by
  refine ⟨?_, ?_, ?_⟩
  · obtain ⟨answers, ready⟩ := not_ready_iff "By that logic we stop." .medium (.whole 0)
    obtain ⟨results, preview, analyzed, built⟩ := answers (by decide +kernel) ⟨0, rfl⟩
    have none : ¬StandsAgainst "By that logic we stop." := by decide +kernel
    have notKept := mt (ready results preview analyzed built).1.1 fun kept => none kept.2
    exact ⟨results, preview, analyzed, built, Bool.not_eq_false _ ▸ notKept⟩
  · obtain ⟨answers, ready⟩ :=
      not_ready_iff "By that logic, this will lead to ruin." .medium (.whole 0)
    obtain ⟨results, preview, analyzed, built⟩ := answers (by decide +kernel) ⟨0, rfl⟩
    exact ⟨results, preview, analyzed, built,
      (ready results preview analyzed built).1.2 (by decide +kernel)⟩
  · let report := (Inflammatory.detector.detect "Shut up!").toOption.bind id
    have fires : ∃ d, Inflammatory.detector.detect "Shut up!" = .ok (some d) :=
      ⟨report.get (by decide +kernel), by decide +kernel⟩
    obtain ⟨answers, ready⟩ := not_ready_iff "Shut up!" .medium (.whole 0)
    obtain ⟨results, preview, analyzed, built⟩ := answers (by decide +kernel) ⟨0, rfl⟩
    exact ⟨fires, results, preview, analyzed, built, (ready results preview analyzed built).2 fires⟩

end Deliberation
