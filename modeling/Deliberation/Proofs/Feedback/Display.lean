/-
# Proofs.Feedback.Display -- what is shown at each sensitivity

A preview keeps all feedback and only marks what is shown.  The threshold of display rises from `low` over
`medium` to `high`, so nothing is shown at one of them that the one before hides (`isShown_of_le`).
Readiness looks at the critical thresholds alone: neither the sensitivity nor the order of the feedback
matters to it.

The two tables of thresholds meet in one place.  At `low` and `medium` everything critical is confident
enough to be shown (`displayThreshold_le_criticalThreshold`), so an author who is held back sees why; at
`high` the threshold of display lies above the critical one of inflammatory language, and the reason may
be hidden.
-/
import Deliberation.Proofs.Feedback.Panel

set_option autoImplicit false

namespace Deliberation

variable {s t : Sensitivity} {results : List Analysis} {a : Analysis} {limit : Number}

/-! ## Thresholds -/

theorem displayThreshold_low_le_medium :
    Sensitivity.low.displayThreshold ≤ Sensitivity.medium.displayThreshold := by
  decide +kernel

theorem displayThreshold_medium_le_high :
    Sensitivity.medium.displayThreshold ≤ Sensitivity.high.displayThreshold := by
  decide +kernel

/-- Below the high sensitivity, what is critical is confident enough to be shown. -/
theorem displayThreshold_le_criticalThreshold {kind : FeedbackKind} (notHigh : s ≠ .high)
    (critical : kind.criticalThreshold = some limit) : s.displayThreshold ≤ limit := by
  have medium : Sensitivity.medium.displayThreshold ≤ limit := by
    cases kind <;> cases critical <;> decide +kernel
  cases s with
  | low => exact Number.le_trans displayThreshold_low_le_medium medium
  | medium => exact medium
  | high => exact absurd rfl notHigh

/-- The feedback is an issue, and sure enough to stand against posting. -/
def Analysis.StandsAgainst (a : Analysis) : Prop :=
  a.kind ≠ .affirmation ∧ ∃ limit, a.kind.criticalThreshold = some limit ∧ limit ≤ a.confidence

theorem Analysis.standsAgainst_iff : a.StandsAgainst ↔ (a.isIssue && a.isCritical) = true := by
  unfold StandsAgainst isIssue isCritical
  cases a.kind.criticalThreshold <;> simp

namespace Preview

variable {elapsed : Number} {p p' : Preview}

/-! ## One preview -/

theorem isShown_of_le (le : s.displayThreshold ≤ t.displayThreshold)
    (shown : isShown t results a = true) : isShown s results a = true := by
  unfold isShown at shown ⊢
  rw [Bool.or_eq_true, decide_eq_true_eq] at shown ⊢
  rcases shown with alone | confident
  · exact .inl alone
  · exact .inr (Number.le_trans le confident)

theorem isShown_of_standsAgainst (notHigh : s ≠ .high) (against : a.StandsAgainst) :
    isShown s results a = true := by
  obtain ⟨-, limit, critical, reached⟩ := against
  have confident := Number.le_trans (displayThreshold_le_criticalThreshold notHigh critical) reached
  rw [isShown, decide_eq_true confident, Bool.or_true]

theorem feedback_of_build (h : build results s elapsed = .ok p) :
    p.feedback = results.map fun a => ⟨a, isShown s results a⟩ := by
  obtain ⟨n, -, rfl⟩ := map_eq_ok_iff.1 h
  rfl

theorem primary_of_build (h : build results s elapsed = .ok p) :
    p.primary = p.feedback.find? fun item => item.shown && item.analysis.isIssue := by
  obtain ⟨n, -, rfl⟩ := map_eq_ok_iff.1 h
  exact List.head?_filter

theorem not_ready_iff_standsAgainst (h : build results s elapsed = .ok p) :
    p.readyToPost = false ↔ ∃ a ∈ results, a.StandsAgainst := by
  simp only [readyToPost_of_build h, Bool.not_eq_false', List.any_eq_true, Analysis.standsAgainst_iff]

/-- An author who is held back sees an issue, unless the sensitivity is high. -/
theorem exists_primary (h : build results s elapsed = .ok p) (notHigh : s ≠ .high)
    (heldBack : p.readyToPost = false) : p.primary.isSome = true := by
  obtain ⟨a, member, against⟩ := (not_ready_iff_standsAgainst h).1 heldBack
  have shown : isShown s results a = true := isShown_of_standsAgainst notHigh against
  have issue : a.isIssue = true := decide_eq_true against.1
  rw [primary_of_build h, feedback_of_build h, List.find?_isSome]
  exact ⟨⟨a, isShown s results a⟩, List.mem_map_of_mem member, by rw [shown, issue]; rfl⟩

/-- A lower threshold hides nothing that a higher one shows. -/
theorem forall₂_shown (le : s.displayThreshold ≤ t.displayThreshold)
    (high : build results t elapsed = .ok p) (low : build results s elapsed = .ok p') :
    List.Forall₂ (fun item item' => item.shown = true → item'.shown = true) p.feedback p'.feedback := by
  rw [feedback_of_build high, feedback_of_build low, List.forall₂_map_left_iff,
    List.forall₂_map_right_iff, List.forall₂_same]
  exact fun a _ => isShown_of_le le

/-! ## As values -/

/-- The fields of a piece of feedback that a preview passes on. -/
def passedOn : List String :=
  ["type", "subtype", "suggestion_text", "reasoning", "confidence_score"]

theorem field_toValue (item : PreviewItem) :
    ∀ name ∈ passedOn, item.toValue.field name = item.analysis.toValue.field name := by
  simp only [passedOn, List.forall_mem_cons, List.not_mem_nil, false_implies, implies_true, and_true]
  exact ⟨rfl, rfl, rfl, rfl, rfl⟩

/-! ## All sensitivities -/

/-- How the previews of one list of feedback hang together, one for each sensitivity. -/
structure HangTogether (results : List Analysis) (preview : Sensitivity → Preview) : Prop where
  /-- All is kept, in order and unchanged, -/
  keeps (s : Sensitivity) : (preview s).feedback.map PreviewItem.analysis = results
  /-- and so it is passed on, with what is shown marked. -/
  passesOn (s : Sensitivity) : ∀ item ∈ (preview s).feedback,
    (∀ name ∈ passedOn, item.toValue.field name = item.analysis.toValue.field name) ∧
      item.toValue.field "should_display" = .bool item.shown
  mediumShowsHigh : List.Forall₂ (fun item item' => item.shown = true → item'.shown = true)
    (preview .high).feedback (preview .medium).feedback
  lowShowsMedium : List.Forall₂ (fun item item' => item.shown = true → item'.shown = true)
    (preview .medium).feedback (preview .low).feedback
  /-- A draft is held back by what is critical, shown or not. -/
  heldBack_iff (s : Sensitivity) :
    (preview s).readyToPost = false ↔ ∃ a ∈ results, a.StandsAgainst
  /-- The primary issue is the first that is shown. -/
  primary (s : Sensitivity) : (preview s).primary = (preview s).feedback.find? fun item =>
    item.shown && decide (item.analysis.kind ≠ .affirmation)
  seesWhy (s : Sensitivity) : s ≠ .high → (preview s).readyToPost = false →
    (preview s).primary.isSome = true

/-- **The previews of a list of feedback hang together**, whatever the feedback: each of them keeps all of
it, one that shows more shows all that the others show, and an author who is held back at the low or medium
sensitivity sees why.  They all agree whether the draft is ready, and so do those of the same feedback in
another order. -/
theorem previews_hang_together (results : List Analysis) (elapsed : Number)
    (timed : ∃ millis, elapsed.truncate = .ok millis) :
    ∃ preview : Sensitivity → Preview,
      (∀ s, build results s elapsed = .ok (preview s)) ∧ HangTogether results preview ∧
        ∀ (reordered : List Analysis) (s t : Sensitivity) (p : Preview), results.Perm reordered →
          build reordered t elapsed = .ok p → p.readyToPost = (preview s).readyToPost := by
  obtain ⟨millis, truncated⟩ := timed
  choose preview built using fun s => exists_build results s truncated
  refine ⟨preview, built, ⟨fun s => ?_, fun s item _ => ⟨field_toValue item, rfl⟩,
    forall₂_shown displayThreshold_medium_le_high (built .high) (built .medium),
    forall₂_shown displayThreshold_low_le_medium (built .medium) (built .low),
    fun s => not_ready_iff_standsAgainst (built s), fun s => primary_of_build (built s),
    fun s => exists_primary (built s)⟩, ?_⟩
  · rw [feedback_of_build (built s), List.map_map]
    exact List.map_id results
  · intro reordered s t p perm builtAnew
    rw [Bool.eq_iff_iff, ← not_iff_not, Bool.not_eq_true, Bool.not_eq_true,
      not_ready_iff_standsAgainst builtAnew, not_ready_iff_standsAgainst (built s)]
    simp only [perm.mem_iff]

/-- Just critical inflammatory language. -/
def mildAttack : Analysis :=
  ⟨.inflammatory, "Rephrase this.", "It attacks a person.", .real (.ofDecimal 75 2), none, none⟩

/-- A mild attack holds a draft back at every sensitivity, and at the high one without a reason in sight. -/
theorem mild_attack_hidden_at_high :
    (∃ millis, (Number.whole 12).truncate = .ok millis) ∧
    ∃ preview : Sensitivity → Preview,
      (∀ s, build [mildAttack, .affirmation] s (.whole 12) = .ok (preview s)) ∧
        HangTogether [mildAttack, .affirmation] preview ∧
        (∀ s, (preview s).readyToPost = false) ∧
        (preview .medium).primary.isSome = true ∧ (preview .high).primary = none := by
  have timed : ∃ millis, (Number.whole 12).truncate = .ok millis := ⟨12, rfl⟩
  obtain ⟨preview, built, together, -⟩ :=
    previews_hang_together [mildAttack, .affirmation] (.whole 12) timed
  have against : mildAttack.StandsAgainst := ⟨by decide, _, rfl, by decide +kernel⟩
  have heldBack (s : Sensitivity) : (preview s).readyToPost = false :=
    (together.heldBack_iff s).2 ⟨mildAttack, List.mem_cons_self, against⟩
  have hidden : (build [mildAttack, .affirmation] .high (.whole 12)).toOption.bind Preview.primary =
      none := by decide +kernel
  rw [built .high] at hidden
  exact ⟨timed, preview, built, together, heldBack,
    together.seesWhy .medium (by decide) (heldBack .medium), hidden⟩

end Preview

end Deliberation
