/-
# Proofs.Feedback.Reports -- what a detector reports

Each detector reports nothing when its table finds nothing, and else one detection of its kind with the
confidence that its model gives to the findings (`Reports`).  It answers for every text of a possible
length.  Where the model crosses a threshold between two totals, and the total of the text is not between
them, the confidence reaches the threshold exactly when the total reaches the upper one
(`Reports.reaches_iff`).
-/
import Deliberation.Feedback.Clarity
import Deliberation.Feedback.Fallacy
import Deliberation.Feedback.Inflammatory
import Deliberation.Proofs.Feedback.Confidence
import Deliberation.Proofs.Feedback.Findings

set_option autoImplicit false

namespace Deliberation

open Binary64 Text

variable {kind : FeedbackKind} {rules : List Rule} {m : ConfidenceModel} {text : String}
  {d : Detection} {s : Binary64}

/-- What an analysis of a kind with a table and a model answers: nothing where the table finds nothing,
and else a detection that carries the score of what was found. -/
inductive Reports (kind : FeedbackKind) (rules : List Rule) (m : ConfidenceModel) (text : String) :
    Except NumberFault (Option Detection) → Prop where
  | nothing (noFindings : findings rules text = []) : Reports kind rules m text (.ok none)
  | scored (found : findings rules text ≠ []) (detection : Binary64 → Detection)
      (ofKind : ∀ s, (detection s).kind = kind) (confidence : ∀ s, (detection s).confidence = .real s) :
      Reports kind rules m text (some <$> detection <$> m.scoreOf (findings rules text))

namespace Reports

variable {answer : Except NumberFault (Option Detection)}

theorem exists_ok (h : Reports kind rules m text answer)
    (score : ∃ s, m.scoreOf (findings rules text) = .ok s) : ∃ outcome, answer = .ok outcome := by
  cases h with
  | nothing => exact ⟨_, rfl⟩
  | scored =>
      obtain ⟨s, hs⟩ := score
      exact ⟨_, map_eq_ok_iff.2 ⟨_, map_eq_ok_iff.2 ⟨s, hs, rfl⟩, rfl⟩⟩

theorem findings_eq_nil (h : Reports kind rules m text answer) (none : answer = .ok none) :
    findings rules text = [] := by
  cases h with
  | nothing noFindings => exact noFindings
  | scored =>
      obtain ⟨d, -, impossible⟩ := map_eq_ok_iff.1 none
      exact absurd impossible (by simp)

/-- Nothing is reported exactly where nothing is found. -/
theorem eq_none_iff (h : Reports kind rules m text answer) :
    answer = .ok none ↔ findings rules text = [] := by
  refine ⟨h.findings_eq_nil, fun none => ?_⟩
  cases h with
  | nothing => rfl
  | scored found => exact absurd none found

/-- Only the score can fail. -/
theorem of_error (h : Reports kind rules m text answer) {fault : NumberFault}
    (failed : answer = .error fault) : m.scoreOf (findings rules text) = .error fault := by
  cases h with
  | nothing => cases failed
  | scored => exact map_eq_error_iff.1 (map_eq_error_iff.1 failed)

theorem of_some (h : Reports kind rules m text answer) (some : answer = .ok (some d)) :
    findings rules text ≠ [] ∧ d.kind = kind ∧
      ∃ s, m.scoreOf (findings rules text) = .ok s ∧ d.confidence = .real s := by
  cases h with
  | nothing => exact absurd some (by simp)
  | scored found detection ofKind confidence =>
      obtain ⟨made, hmade, same⟩ := map_eq_ok_iff.1 some
      obtain rfl := Option.some.inj same
      obtain ⟨s, hs, rfl⟩ := map_eq_ok_iff.1 hmade
      exact ⟨found, ofKind s, s, hs, confidence s⟩

/-- Something is reported exactly where something is found. -/
theorem isSome_iff (h : Reports kind rules m text answer) {outcome : Option Detection}
    (ok : answer = .ok outcome) : outcome.isSome = true ↔ findings rules text ≠ [] := by
  cases outcome with
  | none => simp [h.findings_eq_nil ok]
  | some d => exact iff_of_true rfl (h.of_some ok).1

theorem upTo_confidence (h : Reports kind rules m text answer) (some : answer = .ok (some d)) :
    ∃ s, d.confidence = .real s ∧ UpTo 1 s := by
  obtain ⟨-, -, s, score, confidence⟩ := h.of_some some
  obtain ⟨w, -, hs⟩ := bind_eq_ok_iff.1 score
  exact ⟨s, confidence, ConfidenceModel.upTo_score hs⟩

/-- A confidence is the score of a total that stands for the exact one. -/
theorem exists_total (h : Reports kind rules m text answer) (some : answer = .ok (some d))
    (halves : ∀ rule ∈ rules, rule.InHalves) (notBlank : isBlankText text = false) :
    ∃ w x families s, w.toBinary64 = .ok x ∧ Tracks x (weightedTotal rules text) ∧
      m.score w families = .ok s ∧ d.confidence = .real s := by
  obtain ⟨-, -, s, score, confidence⟩ := h.of_some some
  obtain ⟨w, hw, hs⟩ := bind_eq_ok_iff.1 score
  obtain ⟨x, hx, tracks⟩ := weightedMatches_tracks (inHalves_of_mem_findings halves) hw
  rw [findings_of_not_blank notBlank, sum_matchTable] at tracks
  exact ⟨w, x, _, s, hx, tracks, hs, confidence⟩

/-- **A confidence reaches a threshold exactly when the total reaches what the threshold takes.** -/
theorem reaches_iff (h : Reports kind rules m text answer) (some : answer = .ok (some d))
    (halves : ∀ rule ∈ rules, rule.InHalves) (notBlank : isBlankText text = false)
    {threshold : Number} {below above : ℚ} (crosses : m.Crosses threshold below above)
    (small : below < 2 ^ 50) (small' : above ≤ 2 ^ 50)
    (apart : weightedTotal rules text ≤ below ∨ above ≤ weightedTotal rules text) :
    threshold ≤ d.confidence ↔ above ≤ weightedTotal rules text := by
  obtain ⟨w, x, families, s, hx, tracks, score, confidence⟩ := h.exists_total some halves notBlank
  rw [confidence]
  have reaches (enough : above ≤ weightedTotal rules text) : threshold ≤ .real s :=
    crosses.le_score hx ((tracks.finite_le_iff small').2 enough) score
  rcases apart with few | enough
  · have under := crosses.score_lt hx (tracks.le_finite few small) score
    have notReached : ¬threshold ≤ .real s := Binary64.not_le_of_lt under
    exact iff_of_false notReached (mt reaches notReached)
  · exact iff_of_true (reaches enough) enough

end Reports

/-- A table whose rules weigh one or one half, and a regular model, give a score to every text. -/
theorem exists_scoreOf (halves : ∀ rule ∈ rules, rule.InHalves) (regular : m.Regular)
    (short : text.length < maxItems) : ∃ s, m.scoreOf (findings rules text) = .ok s := by
  obtain ⟨w, x, hw, hx⟩ :=
    exists_weightedMatches (fun rule member => (halves rule member).isWhole_eq_false) short
  obtain ⟨s, hs⟩ := regular.exists_score hx (.whole (subtypeCounts (findings rules text)).length)
  exact ⟨s, bind_eq_ok_iff.2 ⟨w, hw, hs⟩⟩

/-! ## The detectors -/

theorem Detector.detect_ofAnalysis_iff {name : String} {outcome : Option Detection}
    {analyze : String → Except NumberFault (Option Detection)} :
    (Detector.ofAnalysis name analyze).detect text = .ok outcome ↔ analyze text = .ok outcome := by
  simp only [ofAnalysis]
  split <;> simp_all

theorem Inflammatory.reports (rules : List Rule) (m : ConfidenceModel) (text : String) :
    Reports .inflammatory rules m text (analyze rules m text) := by
  unfold analyze
  split
  · rename_i noFindings
    exact .nothing noFindings
  · rename_i found
    exact .scored found _ (fun _ => rfl) (fun _ => rfl)

theorem Fallacy.reports (rules : List Rule) (m : ConfidenceModel) (text : String) :
    Reports .fallacy rules m text (analyze rules m text) := by
  unfold analyze
  split
  · rename_i noFindings
    exact .nothing noFindings
  · rename_i found
    exact .scored found _ (fun _ => rfl) (fun _ => rfl)

namespace Clarity

variable (settings : Settings)

/-- Unsourced claims are reported whatever the table of bias would find. -/
theorem reports_unsourced (found : findings settings.unsourced text ≠ []) :
    Reports .unsourced settings.unsourced settings.unsourcedModel text (analyze settings text) := by
  unfold analyze
  split
  · rename_i noFindings
    exact absurd noFindings found
  · exact .scored found _ (fun _ => rfl) (fun _ => rfl)

/-- Where there are none, the table of bias is asked. -/
theorem reports_bias (none : findings settings.unsourced text = []) :
    Reports .bias settings.bias settings.biasModel text (analyze settings text) := by
  unfold analyze
  split
  · split
    · rename_i noFindings
      exact .nothing noFindings
    · rename_i found
      exact .scored found _ (fun _ => rfl) (fun _ => rfl)
  · rename_i found
    exact absurd none found

end Clarity

/-! ## The shipped tables -/

theorem Inflammatory.inHalves : ∀ rule ∈ Inflammatory.rules, rule.InHalves := by decide +kernel

theorem Fallacy.inHalves : ∀ rule ∈ Fallacy.rules, rule.InHalves := by decide +kernel

theorem Clarity.inHalves_unsourced : ∀ rule ∈ unsourcedRules, rule.InHalves := by decide +kernel

theorem Clarity.weight_bias : ∀ rule ∈ biasRules, rule.weight = Rule.fullWeight := by decide +kernel

theorem Clarity.inHalves_bias : ∀ rule ∈ biasRules, rule.InHalves :=
  fun rule member => .inl (weight_bias rule member)

end Deliberation
