/-
# Proofs.Feedback.Panel -- from detections to pieces of feedback

A panel finds what its three detectors report, in their order (`detections_eq_ok_iff`).  What it answers
for a text that is not blank are these detections, ranked, each as a piece of feedback
(`analyzeAll_eq_ok_iff`); there is an answer as soon as the confidences lie in the unit interval
(`exists_analyzeAll`).  So a preview of the answer is ready exactly when no detection reaches the
critical threshold of its kind (`not_ready_iff_of_detections`).
-/
import Deliberation.Feedback.Panel
import Deliberation.Feedback.Preview
import Deliberation.Proofs.Feedback.Ranking

set_option autoImplicit false

namespace Deliberation

open Text

/-- A detection sure enough to stand against posting. -/
def Detection.IsCritical (d : Detection) : Prop :=
  ∃ threshold, d.kind.criticalThreshold = some threshold ∧ threshold ≤ d.confidence

/-- What was scored within the unit interval lies in it. -/
theorem Detection.inUnit_of_upTo {d : Detection}
    (scored : ∃ s, d.confidence = .real s ∧ Binary64.UpTo 1 s) : d.confidence.inUnit = true := by
  obtain ⟨s, confidence, q, rfl, -, nonneg, le⟩ := scored
  have low : Number.real (.finite 0) ≤ Number.real (.finite q) := Binary64.finite_le_finite nonneg
  have high : Number.real (.finite q) ≤ Number.real (.finite 1) := Binary64.finite_le_finite le
  rw [confidence]
  simp [Number.inUnit, low, high]

namespace Analysis

variable {d : Detection} {a : Analysis}

/-- A piece of feedback says all that its detection says; an empty list of resources is none. -/
structure Carries (d : Detection) (a : Analysis) : Prop where
  kind : a.kind = d.kind
  subtype : a.subtype = d.subtype
  suggestion : a.suggestion = d.suggestion
  reasoning : a.reasoning = d.reasoning
  confidence : a.confidence = d.confidence
  resources : a.resources = if d.resources = [] then none else some d.resources

theorem ofDetection_eq_ok (h : ofDetection d = .ok a) : Carries d a := by
  unfold ofDetection at h
  split at h
  · obtain rfl := Except.ok.inj h
    exact ⟨rfl, rfl, rfl, rfl, rfl, by simp⟩
  · cases h

theorem Carries.isCritical_iff (h : Carries d a) :
    (a.isIssue && a.isCritical) = true ↔ d.IsCritical := by
  unfold isIssue isCritical Detection.IsCritical
  rw [h.kind, h.confidence]
  cases d.kind <;> simp [FeedbackKind.criticalThreshold]

end Analysis

namespace Panel

variable {p : Panel} {text : String} {found : List Detection} {results : List Analysis}

theorem detections_eq_ok_iff : p.detections text = .ok found ↔
    ∃ tone fallacy clarity, p.tone.detect text = .ok tone ∧ p.fallacy.detect text = .ok fallacy ∧
      p.clarity.detect text = .ok clarity ∧ found = [tone, fallacy, clarity].filterMap id := by
  simp only [detections, detectors, List.mapM_cons, List.mapM_nil]
  cases p.tone.detect text with
  | error reason => simp [Detector.report]
  | ok tone =>
      cases p.fallacy.detect text with
      | error reason => simp [Detector.report]
      | ok fallacy => cases p.clarity.detect text <;> simp [Detector.report, eq_comm]

theorem analyzeAll_of_blank (p : Panel) (blank : isBlankText text = true) :
    p.analyzeAll text = .ok [Analysis.affirmation] := by
  simp [analyzeAll, blank]

theorem exists_detections_of_analyzeAll (notBlank : isBlankText text = false)
    (h : p.analyzeAll text = .ok results) : ∃ found, p.detections text = .ok found := by
  unfold analyzeAll at h
  rw [if_neg (by simp [notBlank])] at h
  obtain ⟨found, hfound, -⟩ := bind_eq_ok_iff.1 h
  exact ⟨found, hfound⟩

/-- What a panel answers, in terms of what it finds. -/
theorem analyzeAll_eq_ok_iff (notBlank : isBlankText text = false)
    (hfound : p.detections text = .ok found) :
    p.analyzeAll text = .ok results ↔
      (found = [] ∧ results = [Analysis.affirmation]) ∨ (found ≠ [] ∧
        ∃ ranked, Ranking.rank found p.tieEpsilon = .ok ranked ∧
          ranked.mapM Analysis.ofDetection = .ok results) := by
  unfold analyzeAll
  rw [hfound]
  cases found with
  | nil => simp [answer, notBlank, eq_comm]
  | cons d rest => simp [answer, notBlank, bind_eq_ok_iff]

/-- Confidences from the unit interval are answered. -/
theorem exists_analyzeAll (hfound : p.detections text = .ok found)
    (unit : ∀ d ∈ found, d.confidence.inUnit = true)
    (defined : p.tieEpsilon.exact.isNaN = false) : ∃ results, p.analyzeAll text = .ok results := by
  cases blank : isBlankText text with
  | true => exact ⟨_, p.analyzeAll_of_blank blank⟩
  | false =>
      by_cases none : found = []
      · exact ⟨_, (analyzeAll_eq_ok_iff blank hfound).2 (.inl ⟨none, rfl⟩)⟩
      have scores : ∀ d ∈ found, Ranking.HasScore d :=
        fun d member => Number.isScore_of_inUnit (unit d member)
      obtain ⟨ranked, hranked⟩ := Ranking.exists_rank scores defined
      obtain ⟨results, hresults⟩ : ∃ results, ranked.mapM Analysis.ofDetection = .ok results := by
        refine exists_mapM_eq_ok fun d member => ?_
        exact (Analysis.ofDetection_eq_ok_iff d).2
          (unit d ((Ranking.rank_perm hranked).mem_iff.1 member))
      exact ⟨results, (analyzeAll_eq_ok_iff blank hfound).2 (.inr ⟨none, ranked, hranked, hresults⟩)⟩

theorem inUnit_of_analyzeAll (h : p.analyzeAll text = .ok results) :
    ∀ a ∈ results, a.confidence.inUnit = true := by
  have affirmed : Analysis.affirmation.confidence.inUnit = true := by decide +kernel
  cases blank : isBlankText text with
  | true =>
      rw [p.analyzeAll_of_blank blank] at h
      obtain rfl := Except.ok.inj h
      simpa using affirmed
  | false =>
      obtain ⟨found, hfound⟩ := exists_detections_of_analyzeAll blank h
      rcases (analyzeAll_eq_ok_iff blank hfound).1 h with ⟨-, rfl⟩ | ⟨-, ranked, -, made⟩
      · simpa using affirmed
      · intro a member
        obtain ⟨d, -, ofDetection⟩ := exists_step_of_mapM made member
        rw [(Analysis.ofDetection_eq_ok ofDetection).confidence]
        exact (Analysis.ofDetection_eq_ok_iff d).1 ⟨a, ofDetection⟩

/-- The confidence of every answer lies in the unit interval. -/
theorem inUnit_of_analyze {a : Analysis} (h : p.analyze text = .ok a) :
    a.confidence.inUnit = true := by
  obtain ⟨results, hresults, rfl⟩ := map_eq_ok_iff.1 h
  cases results with
  | nil => decide +kernel
  | cons first rest => exact inUnit_of_analyzeAll hresults first List.mem_cons_self

end Panel

namespace Preview

variable {p : Panel} {preview : Preview} {text : String} {found : List Detection}
  {results : List Analysis} {sensitivity : Sensitivity} {elapsed : Number}

theorem readyToPost_of_build (h : build results sensitivity elapsed = .ok preview) :
    preview.readyToPost = !results.any fun a => a.isIssue && a.isCritical := by
  obtain ⟨n, -, rfl⟩ := map_eq_ok_iff.1 h
  rfl

theorem exists_build (results : List Analysis) (sensitivity : Sensitivity) {n : ℤ}
    (h : elapsed.truncate = .ok n) : ∃ preview, build results sensitivity elapsed = .ok preview :=
  ⟨_, map_eq_ok_iff.2 ⟨n, h, rfl⟩⟩

/-- **A draft is not ready exactly when some detection is critical.** -/
theorem not_ready_iff_of_detections (notBlank : isBlankText text = false)
    (hfound : p.detections text = .ok found) (analyzed : p.analyzeAll text = .ok results)
    (h : build results sensitivity elapsed = .ok preview) :
    preview.readyToPost = false ↔ ∃ d ∈ found, d.IsCritical := by
  rw [readyToPost_of_build h, Bool.not_eq_false', List.any_eq_true]
  obtain ⟨rfl, rfl⟩ | ⟨-, ranked, hranked, made⟩ :=
    (Panel.analyzeAll_eq_ok_iff notBlank hfound).1 analyzed
  · simp [Analysis.isIssue, Analysis.affirmation]
  · have same {d : Detection} : d ∈ ranked ↔ d ∈ found := (Ranking.rank_perm hranked).mem_iff
    constructor
    · rintro ⟨a, member, critical⟩
      obtain ⟨d, hd, ofDetection⟩ := exists_step_of_mapM made member
      have carries := Analysis.ofDetection_eq_ok ofDetection
      exact ⟨d, same.1 hd, carries.isCritical_iff.1 critical⟩
    · rintro ⟨d, member, critical⟩
      obtain ⟨a, ha, ofDetection⟩ := exists_answer_of_mapM made (same.2 member)
      have carries := Analysis.ofDetection_eq_ok ofDetection
      exact ⟨a, ha, carries.isCritical_iff.2 critical⟩

/-- A blank draft is ready. -/
theorem ready_of_blank (blank : isBlankText text = true) (analyzed : p.analyzeAll text = .ok results)
    (h : build results sensitivity elapsed = .ok preview) : preview.readyToPost = true := by
  rw [p.analyzeAll_of_blank blank] at analyzed
  obtain rfl := Except.ok.inj analyzed
  rw [readyToPost_of_build h]
  simp [Analysis.isIssue, Analysis.affirmation]

end Preview

end Deliberation
