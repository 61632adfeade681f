/-
# Proofs.Feedback.Recasing -- the case of letters hides no issue

The shipped tables of fallacies, of unsourced claims and of biased framing match without regard to case
(`Rule.CaseBlind`), so each rule has the recased matches in a recasing of a text (`findings_recased`).  All
that a detection says of the issue, its kind, subtype, count, confidence, suggestion and reading, is computed
from the rules and the number of their matches; only what it quotes differs.  So the detectors of fallacies
and of clarity answer alike on two recasings (`case_hides_no_issue`).
-/
import Deliberation.Proofs.Feedback.Readiness
import Deliberation.Proofs.Pattern.Recasing

set_option autoImplicit false

namespace Deliberation

open Text

/-! ## What a table finds -/

/-- The pattern of the rule matches without regard to case. -/
structure Rule.CaseBlind (rule : Rule) : Prop where
  flat : rule.pattern.flat = true
  caseless : rule.pattern.caseless = true

instance (rule : Rule) : Decidable rule.CaseBlind :=
  decidable_of_iff (rule.pattern.flat = true ∧ rule.pattern.caseless = true)
    ⟨fun ⟨flat, caseless⟩ => ⟨flat, caseless⟩, fun ⟨flat, caseless⟩ => ⟨flat, caseless⟩⟩

/-- The matches of one rule in a text and in a recasing of it. -/
structure RuleMatch.Recased (m m' : RuleMatch) : Prop where
  position : m.position = m'.position
  rule : m.rule = m'.rule
  spans : List.Forall₂ (fun span span' : String => Deliberation.Recased span.toList span'.toList)
    m.spans m'.spans

namespace RuleMatch.Recased

variable {m m' : RuleMatch}

theorem count (recased : m.Recased m') : m.count = m'.count := recased.spans.length_eq

theorem isEmpty_eq (recased : m.Recased m') : m.spans.isEmpty = m'.spans.isEmpty := by
  rw [Bool.eq_iff_iff, List.isEmpty_iff_length_eq_zero, List.isEmpty_iff_length_eq_zero,
    recased.spans.length_eq]

end RuleMatch.Recased

variable {rules : List Rule} {text text' : String} {found found' : List RuleMatch}

theorem matchTable_recased (blind : ∀ rule ∈ rules, rule.CaseBlind)
    (recased : Recased text.toList text'.toList) :
    List.Forall₂ RuleMatch.Recased (matchTable text rules) (matchTable text' rules) := by
  apply List.rel_filter
  · intro m m' same
    simp only [same.isEmpty_eq]
  · rw [List.forall₂_map_left_iff, List.forall₂_map_right_iff, List.forall₂_same]
    intro (rule, place) member
    obtain ⟨flat, caseless⟩ := blind rule (List.fst_mem_of_mem_zipIdx member)
    exact ⟨rfl, rfl, Pattern.spans_recased flat caseless recased⟩

theorem findings_recased (blind : ∀ rule ∈ rules, rule.CaseBlind)
    (recased : Recased text.toList text'.toList) :
    List.Forall₂ RuleMatch.Recased (findings rules text) (findings rules text') := by
  have blank : isBlankText text = isBlankText text' := recased.all_isBlank_eq
  unfold findings
  rw [blank]
  split
  · exact .nil
  · exact matchTable_recased blind recased

/-! ## What is counted -/

section Counts

variable (recased : List.Forall₂ RuleMatch.Recased found found')

include recased

theorem totalMatches_recased : totalMatches found = totalMatches found' := by
  have counts := map_eq_map_of_forall₂ (recased.imp fun _ _ same => same.count)
  rw [totalMatches, totalMatches, counts]

theorem subtypeCount_recased (subtype : String) :
    subtypeCount found subtype = subtypeCount found' subtype := by
  apply totalMatches_recased
  apply List.rel_filter
  · intro m m' same
    simp only [same.rule]
  · exact recased

theorem leadingSubtype_recased (order : List String) :
    leadingSubtype found order = leadingSubtype found' order := by
  unfold leadingSubtype
  simp only [subtypeCount_recased recased]

theorem subtypeCounts_recased : subtypeCounts found = subtypeCounts found' := by
  have subtypes : (found.map fun m => m.rule.subtype) = found'.map fun m => m.rule.subtype :=
    map_eq_map_of_forall₂ (recased.imp fun _ _ same => congrArg Rule.subtype same.rule)
  unfold subtypeCounts
  simp only [subtypes, subtypeCount_recased recased]

theorem weightedMatches_recased : weightedMatches found = weightedMatches found' := by
  unfold weightedMatches
  generalize Number.whole 0 = start
  induction recased generalizing start with
  | nil => rfl
  | cons same _ ih => simp only [List.foldlM_cons, same.count, same.rule, ih]

theorem scoreOf_recased (model : ConfidenceModel) : model.scoreOf found = model.scoreOf found' := by
  unfold ConfidenceModel.scoreOf
  rw [weightedMatches_recased recased, subtypeCounts_recased recased]

end Counts

/-! ## What is reported -/

/-- Two detections of one issue.  They may quote different text. -/
structure Detection.SameIssue (d d' : Detection) : Prop where
  kind : d.kind = d'.kind
  subtype : d.subtype = d'.subtype
  matchCount : d.matchCount = d'.matchCount
  confidence : d.confidence = d'.confidence
  suggestion : d.suggestion = d'.suggestion
  resources : d.resources = d'.resources

/-- Both report nothing, or both the same issue, or both fail for the same reason. -/
inductive AnswersAlike {ε : Type} :
    Except ε (Option Detection) → Except ε (Option Detection) → Prop where
  | failed (reason : ε) : AnswersAlike (.error reason) (.error reason)
  | nothing : AnswersAlike (.ok none) (.ok none)
  | issue {d d' : Detection} (same : d.SameIssue d') : AnswersAlike (.ok (some d)) (.ok (some d'))

/-- Detections that are made from one score. -/
theorem AnswersAlike.of_score {ε : Type} (score : Except ε Binary64)
    {detection detection' : Binary64 → Detection}
    (same : ∀ s, (detection s).SameIssue (detection' s)) :
    AnswersAlike (some <$> detection <$> score) (some <$> detection' <$> score) := by
  cases score with
  | error reason => exact .failed reason
  | ok s => exact .issue (same s)

theorem AnswersAlike.ofAnalysis {name : String}
    {analyze : String → Except NumberFault (Option Detection)}
    (alike : AnswersAlike (analyze text) (analyze text')) :
    AnswersAlike ((Detector.ofAnalysis name analyze).detect text)
      ((Detector.ofAnalysis name analyze).detect text') := by
  simp only [Detector.ofAnalysis]
  generalize analyze text = answer, analyze text' = answer' at alike
  cases alike with
  | failed reason => exact .failed _
  | nothing => exact .nothing
  | issue same => exact .issue same

theorem AnswersAlike.exists_issue {ε : Type} {answer answer' : Except ε (Option Detection)}
    (alike : AnswersAlike answer answer') {d : Detection} (reported : answer = .ok (some d)) :
    ∃ d', answer' = .ok (some d') ∧ d.SameIssue d' := by
  cases alike with
  | failed reason => cases reported
  | nothing => cases reported
  | issue same =>
      cases reported
      exact ⟨_, rfl, same⟩

section Reports

variable (recased : List.Forall₂ RuleMatch.Recased found found') (rules : List Rule)
  (model : ConfidenceModel)

include recased

theorem Fallacy.report_recased : AnswersAlike (some <$> Fallacy.report rules model found)
    (some <$> Fallacy.report rules model found') := by
  unfold Fallacy.report
  rw [scoreOf_recased recased]
  refine .of_score _ fun s => ?_
  constructor <;> simp only [totalMatches_recased recased, leadingSubtype_recased recased]

theorem Clarity.reportUnsourced_recased : AnswersAlike (some <$> Clarity.reportUnsourced rules model found)
    (some <$> Clarity.reportUnsourced rules model found') := by
  unfold Clarity.reportUnsourced
  rw [scoreOf_recased recased]
  refine .of_score _ fun s => ?_
  constructor <;> simp only [totalMatches_recased recased, leadingSubtype_recased recased]

theorem Clarity.reportBias_recased : AnswersAlike (some <$> Clarity.reportBias rules model found)
    (some <$> Clarity.reportBias rules model found') := by
  unfold Clarity.reportBias
  rw [scoreOf_recased recased]
  refine .of_score _ fun s => ?_
  constructor <;> simp only [totalMatches_recased recased, leadingSubtype_recased recased]

end Reports

theorem Fallacy.analyze_recased (blind : ∀ rule ∈ rules, rule.CaseBlind)
    (recased : Recased text.toList text'.toList) (model : ConfidenceModel) :
    AnswersAlike (Fallacy.analyze rules model text) (Fallacy.analyze rules model text') := by
  have alike := findings_recased blind recased
  unfold Fallacy.analyze
  generalize findings rules text = found, findings rules text' = found' at alike
  cases alike with
  | nil => exact .nothing
  | cons same others => exact Fallacy.report_recased (.cons same others) rules model

theorem Clarity.analyze_recased (settings : Clarity.Settings)
    (blindUnsourced : ∀ rule ∈ settings.unsourced, rule.CaseBlind)
    (blindBias : ∀ rule ∈ settings.bias, rule.CaseBlind) (recased : Recased text.toList text'.toList) :
    AnswersAlike (Clarity.analyze settings text) (Clarity.analyze settings text') := by
  have unsourced := findings_recased blindUnsourced recased
  have bias := findings_recased blindBias recased
  unfold Clarity.analyze
  generalize findings settings.unsourced text = claims,
    findings settings.unsourced text' = claims' at unsourced
  generalize findings settings.bias text = found, findings settings.bias text' = found' at bias
  cases unsourced with
  | cons same others => exact Clarity.reportUnsourced_recased (.cons same others) _ _
  | nil =>
      cases bias with
      | nil => exact .nothing
      | cons same others => exact Clarity.reportBias_recased (.cons same others) _ _

/-! ## The shipped tables -/

theorem Fallacy.caseBlind : ∀ rule ∈ Fallacy.rules, rule.CaseBlind := by decide +kernel

theorem Clarity.caseBlind_unsourced : ∀ rule ∈ unsourcedRules, rule.CaseBlind := by decide +kernel

theorem Clarity.caseBlind_bias : ∀ rule ∈ biasRules, rule.CaseBlind := by decide +kernel

/-- **The case of letters hides no issue.**  On a text and any recasing of it the detector of fallacies
reports the same issue or nothing on both, and so does the detector of unsourced claims and bias.  Both
answer for every text of a possible length. -/
theorem case_hides_no_issue (recased : Recased text.toList text'.toList) :
    AnswersAlike (Fallacy.detector.detect text) (Fallacy.detector.detect text') ∧
      AnswersAlike (Clarity.detector.detect text) (Clarity.detector.detect text') ∧
      (text.length < maxItems →
        (∃ outcome, Fallacy.detector.detect text = .ok outcome) ∧
          ∃ outcome, Clarity.detector.detect text = .ok outcome) := by
  refine ⟨?_, ?_, ?_⟩
  · exact .ofAnalysis (Fallacy.analyze_recased Fallacy.caseBlind recased .fallacy)
  · exact .ofAnalysis
      (Clarity.analyze_recased .shipped Clarity.caseBlind_unsourced Clarity.caseBlind_bias recased)
  · intro short
    obtain ⟨found, hfound⟩ := Panel.exists_detections short
    obtain ⟨_, fallacy, clarity, -, hfallacy, hclarity, -⟩ := Panel.detections_eq_ok_iff.1 hfound
    exact ⟨⟨fallacy, hfallacy⟩, ⟨clarity, hclarity⟩⟩

/-- Shouting changes neither the fallacy nor the missing source that is reported. -/
theorem shouted_issues_same :
    Recased "studies show that by that logic 9% lose".toList
        "Studies SHOW that BY THAT LOGIC 9% lose".toList ∧
      (∃ d d', Fallacy.detector.detect "studies show that by that logic 9% lose" = .ok (some d) ∧
        Fallacy.detector.detect "Studies SHOW that BY THAT LOGIC 9% lose" = .ok (some d') ∧
        d.SameIssue d') ∧
      ∃ d d', Clarity.detector.detect "studies show that by that logic 9% lose" = .ok (some d) ∧
        Clarity.detector.detect "Studies SHOW that BY THAT LOGIC 9% lose" = .ok (some d') ∧
        d.SameIssue d' := by
  have recased : Recased "studies show that by that logic 9% lose".toList
      "Studies SHOW that BY THAT LOGIC 9% lose".toList := by decide +kernel
  obtain ⟨fallacy, clarity, answers⟩ := case_hides_no_issue recased
  obtain ⟨⟨found, hfound⟩, ⟨claim, hclaim⟩⟩ := answers (by decide +kernel)
  have someFallacy : (Fallacy.detector.detect
      "studies show that by that logic 9% lose").toOption ≠ some none := by decide +kernel
  have someClaim : (Clarity.detector.detect
      "studies show that by that logic 9% lose").toOption ≠ some none := by decide +kernel
  refine ⟨recased, ?_, ?_⟩
  · cases found with
    | none => exact absurd (congrArg Except.toOption hfound) someFallacy
    | some d =>
        obtain ⟨d', found', same⟩ := fallacy.exists_issue hfound
        exact ⟨d, d', hfound, found', same⟩
  · cases claim with
    | none => exact absurd (congrArg Except.toOption hclaim) someClaim
    | some d =>
        obtain ⟨d', claim', same⟩ := clarity.exists_issue hclaim
        exact ⟨d, d', hclaim, claim', same⟩

end Deliberation
