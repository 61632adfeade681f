/-
# Proofs.Feedback.Assurance -- a confidence keeps to its floor and its caps

A score is the greater of the floor and of something that is at most the ceiling, and the floor is at most
the cap.  So whatever matched, the score is the floor rounded to four places or more, and as long as the
rules of one subtype match, it is the rounded cap or less (`score_between`).  No hypothesis on the weighted
matches is needed: an undefined total leaves the floor.  The parameters of the shipped models are no longer
than four places, and rounding a cap gives it back, so that no rounding passes one (`Assures`).

Hence a shipped detector is sure to 68 hundredths at least of anything that it reports, and to 95 at most
where all that matches is of one subtype (`confidences_keep_bounds`).
-/
import Deliberation.Proofs.Feedback.Panel
import Deliberation.Proofs.Feedback.Readiness
import Mathlib.Data.List.Perm.Subperm

set_option autoImplicit false

namespace Deliberation

open Binary64

namespace Number

variable {a b c : Number}

theorem le_greatest_left (defined : a.exact.isNaN = false) (b : Number) : a ≤ a.greatest b := by
  unfold greatest
  split_ifs with above
  · exact le_of_lt above
  · exact Binary64.le_refl defined

/-- The greater of two numbers, of which the second is cut at the bound or undefined. -/
theorem greatest_least_le (le : a ≤ c) (b : Number) : a.greatest (b.least c) ≤ c := by
  unfold greatest
  split_ifs with above
  · unfold least at above ⊢
    split_ifs at above ⊢ with cut
    · exact Binary64.le_refl (isNaN_of_le_right le)
    · have defined : b.exact.isNaN = false := ((Binary64.lt_iff _ _).1 above).2.1
      exact (not_lt_iff (isNaN_of_le_right le) defined).1 cut
  · exact le

theorem least_le_right (defined : b.exact.isNaN = false) (ha : a.exact.isNaN = false) : a.least b ≤ b := by
  unfold least
  split_ifs with below
  · exact Binary64.le_refl defined
  · exact (not_lt_iff defined ha).1 below

/-- A number to places, put into the unit interval first. -/
def settled (a : Number) (places : ℕ) : Binary64 := a.clampUnit.roundPlaces places

theorem settled_le_settled (h : a ≤ b) (places : ℕ) : a.settled places ≤ b.settled places := by
  obtain ⟨q, hq, nonneg, -⟩ := exists_clampUnit a
  refine roundPlaces_mono ?_ (clampUnit_le_clampUnit h)
  rw [hq]
  exact finite_le_finite nonneg

end Number

namespace ConfidenceModel

open Number

variable {m : ConfidenceModel} {w w' floor : Number} {x x' s s' : Binary64}

/-- **A score keeps to its floor and to its cap**, whatever matched. -/
theorem score_between {families : Number} (hfloor : m.floor = .ok floor)
    (defined : floor.exact.isNaN = false) (below : floor ≤ m.cap) (h : m.score w families = .ok s) :
    floor.settled 4 ≤ s ∧ (¬whole 2 ≤ families → s ≤ m.cap.settled 4) := by
  obtain ⟨scaled, raw, floor', -, -, hfloor', rfl⟩ := score_eq_ok_iff.1 h
  obtain rfl := Except.ok.inj (hfloor.symm.trans hfloor')
  refine ⟨settled_le_settled (le_greatest_left defined _) 4, fun alone => ?_⟩
  rw [ceiling, if_neg alone]
  exact settled_le_settled (greatest_least_le below raw) 4

/-- A model that keeps to a floor and a cap in hundredths, which rounding to four places does not move. -/
structure Assures (m : ConfidenceModel) (floor cap : ℕ) : Prop where
  regular : m.Regular
  rounded : m.floor.map (Number.roundPlaces 4) = .ok (real (ofDecimal floor 2))
  settled : m.floor.map (Number.settled · 4) = .ok (ofDecimal floor 2)
  cap_eq : m.cap = real (ofDecimal cap 2)
  cap_settled : m.cap.settled 4 = ofDecimal cap 2

namespace Assures

variable {low high : ℕ} (assures : m.Assures low high)
include assures

theorem exists_floor : ∃ floor, m.floor = .ok floor ∧ floor.roundPlaces 4 = real (ofDecimal low 2) := by
  obtain ⟨floor, hfloor, -⟩ := assures.regular.exists_floor
  have rounded := assures.rounded
  rw [hfloor] at rounded
  exact ⟨floor, hfloor, Except.ok.inj rounded⟩

theorem score_between {families : Number} (h : m.score w families = .ok s) :
    ofDecimal low 2 ≤ s ∧ s ≤ finite 1 ∧ (¬whole 2 ≤ families → s ≤ ofDecimal high 2) := by
  obtain ⟨floor, hfloor, defined⟩ := assures.regular.exists_floor
  have settled := assures.settled
  rw [hfloor] at settled
  obtain ⟨b, hb⟩ := assures.regular.base
  obtain ⟨i, -, hi⟩ := assures.regular.increment
  -- the floor is the lesser of a sum of doubles and the cap
  have below : floor ≤ m.cap := by
    obtain ⟨sum, hsum, rest⟩ := bind_eq_ok_iff.1 hfloor
    rw [hb, hi, add_real rfl] at hsum
    obtain rfl := Except.ok.inj hsum
    obtain rfl := Except.ok.inj rest
    exact least_le_right (isNaN_of_le_left assures.regular.capped) (isNaN_ofRat (b + i))
  obtain ⟨least, most⟩ := ConfidenceModel.score_between hfloor defined below h
  rw [assures.cap_settled] at most
  obtain ⟨q, rfl, -, -, unit⟩ := upTo_score h
  exact ⟨Except.ok.inj settled ▸ least, finite_le_finite unit, most⟩

end Assures

theorem assures_tone : tone.Assures 75 95 := by
  refine ⟨regular_tone, ?_, ?_, rfl, ?_⟩ <;> decide +kernel

theorem assures_fallacy : fallacy.Assures 78 92 := by
  refine ⟨crosses_fallacy.regular, ?_, ?_, rfl, ?_⟩ <;> decide +kernel

theorem assures_unsourced : unsourced.Assures 73 88 := by
  refine ⟨crosses_unsourced.regular, ?_, ?_, rfl, ?_⟩ <;> decide +kernel

theorem assures_bias : bias.Assures 68 85 := by
  refine ⟨crosses_bias.regular, ?_, ?_, rfl, ?_⟩ <;> decide +kernel

/-- The models that are shipped. -/
def shippedModels : List ConfidenceModel := [tone, fallacy, unsourced, bias]

/-- Every shipped model is sure to 68 hundredths at least, and of one family to 95 at most. -/
theorem assures_of_shipped (shipped : m ∈ shippedModels) :
    ∃ low high, m.Assures low high ∧ 68 ≤ low ∧ high ≤ 95 := by
  simp only [shippedModels, List.mem_cons, List.not_mem_nil, or_false] at shipped
  rcases shipped with rfl | rfl | rfl | rfl
  · exact ⟨75, 95, assures_tone, by decide, by decide⟩
  · exact ⟨78, 92, assures_fallacy, by decide, by decide⟩
  · exact ⟨73, 88, assures_unsourced, by decide, by decide⟩
  · exact ⟨68, 85, assures_bias, by decide, by decide⟩

/-- The bounds of a model: its floor to four places, certainty, and for one family alone a cap that is less
than certainty.  Within them its scores grow with the total and with the number of families. -/
structure KeepsBounds (m : ConfidenceModel) (floor : Number) : Prop where
  floor_eq : m.floor = .ok floor
  cap_lt : m.cap < real (finite 1)
  bounded : ∀ (w : Number) (x : Binary64) (families : ℕ), w.toBinary64 = .ok x →
    ∃ s, m.score w (whole families) = .ok s ∧ floor.roundPlaces 4 ≤ real s ∧ real s ≤ real (finite 1) ∧
      (families ≤ 1 → real s ≤ m.cap)
  grows : ∀ (w w' : Number) (x x' : Binary64) (families families' : ℕ) (s s' : Binary64),
    w.toBinary64 = .ok x → w'.toBinary64 = .ok x' → x ≤ x' → families ≤ families' →
    m.score w (whole families) = .ok s → m.score w' (whole families') = .ok s' → real s ≤ real s'

theorem ofDecimal_le_ofDecimal {n k : ℕ} (le : n ≤ k) (places : ℕ) : ofDecimal n places ≤ ofDecimal k places := by
  rw [ofDecimal, ofDecimal, ofQuotient, ofQuotient, Rat.mkRat_eq_div, Rat.mkRat_eq_div]
  exact ofRat_mono (div_le_div_of_nonneg_right (by exact_mod_cast le) (Nat.cast_nonneg _))

theorem two_le_whole_iff {families : ℕ} : whole 2 ≤ whole families ↔ 2 ≤ families := by
  change finite ((2 : ℤ) : ℚ) ≤ finite ((families : ℤ) : ℚ) ↔ _
  rw [le_iff_of_isFinite rfl rfl]
  change ((2 : ℤ) : ℚ) ≤ ((families : ℤ) : ℚ) ↔ _
  norm_cast

theorem Assures.exists_keepsBounds {low high : ℕ} (assures : m.Assures low high) (uncertain : high ≤ 95) :
    ∃ floor, m.KeepsBounds floor := by
  obtain ⟨floor, hfloor, rounded⟩ := assures.exists_floor
  refine ⟨floor, hfloor, ?_, fun w x families hw => ?_, ?_⟩
  · have certain : ofDecimal 95 2 < finite 1 := by decide +kernel
    rw [assures.cap_eq]
    exact Binary64.lt_of_le_of_lt (ofDecimal_le_ofDecimal uncertain 2) certain
  · obtain ⟨s, hs⟩ := assures.regular.exists_score hw (whole families)
    obtain ⟨least, certain, most⟩ := assures.score_between hs
    refine ⟨s, hs, rounded ▸ least, certain, fun alone => ?_⟩
    rw [assures.cap_eq]
    exact most fun two => absurd (two_le_whole_iff.1 two) (by omega)
  · intro w w' x x' families families' s s' hw hw' more agreeing h h'
    refine assures.regular.score_le_score hw hw' more (fun two => ?_) h h'
    exact two_le_whole_iff.2 ((two_le_whole_iff.1 two).trans agreeing)

end ConfidenceModel

/-! ## Detections -/

variable {rules : List Rule} {text subtype : String} {found : List RuleMatch} {d : Detection}

/-- Whatever matches is evidence for one subtype. -/
def OnlySubtype (rules : List Rule) (text subtype : String) : Prop :=
  ∀ rule ∈ rules, rule.pattern.occursIn text = true → rule.subtype = subtype

instance (rules : List Rule) (text subtype : String) : Decidable (OnlySubtype rules text subtype) :=
  inferInstanceAs (Decidable (∀ rule ∈ rules, rule.pattern.occursIn text = true → rule.subtype = subtype))

theorem length_subtypeCounts_le_one (only : ∀ m ∈ found, m.rule.subtype = subtype) :
    (subtypeCounts found).length ≤ 1 := by
  have alone : distinct (found.map fun m => m.rule.subtype) ⊆ [subtype] := by
    intro other listed
    rw [mem_distinct] at listed
    obtain ⟨m, member, rfl⟩ := List.mem_map.1 listed
    exact List.mem_singleton.2 (only m member)
  rw [subtypeCounts, List.length_map]
  exact (List.subperm_of_subset (nodup_distinct _) alone).length_le

/-- A rule that is found occurs in the text. -/
theorem occursIn_of_mem_findings {m : RuleMatch} (member : m ∈ findings rules text) :
    m.rule.pattern.occursIn text = true := by
  have spans := (mem_rules_of_mem_findings member).2
  unfold findings at member
  split_ifs at member with blank
  · exact absurd member List.not_mem_nil
  · have some := (List.mem_filter.1 member).2
    rwa [spans] at some

/-- The confidence of a report keeps to the bounds of its model. -/
theorem Reports.confidence_between {kind : FeedbackKind} {m : ConfidenceModel} {low high : ℕ}
    {answer : Except NumberFault (Option Detection)} (h : Reports kind rules m text answer)
    (reported : answer = .ok (some d)) (assures : m.Assures low high) :
    .real (ofDecimal low 2) ≤ d.confidence ∧ d.confidence ≤ .real (finite 1) ∧
      ∀ subtype, OnlySubtype rules text subtype → d.confidence ≤ .real (ofDecimal high 2) := by
  obtain ⟨-, -, s, score, confidence⟩ := h.of_some reported
  obtain ⟨w, -, hs⟩ := bind_eq_ok_iff.1 score
  obtain ⟨least, certain, most⟩ := assures.score_between hs
  rw [confidence]
  refine ⟨least, certain, fun subtype only => most fun two => ?_⟩
  have one : (subtypeCounts (findings rules text)).length ≤ 1 :=
    length_subtypeCounts_le_one fun m member =>
      only m.rule (mem_rules_of_mem_findings member).1 (occursIn_of_mem_findings member)
  have := ConfidenceModel.two_le_whole_iff.1 two
  omega

/-- The shipped table behind detections of a kind. -/
def FeedbackKind.shippedTable : FeedbackKind → List Rule
  | affirmation => []
  | inflammatory => Inflammatory.rules
  | fallacy => Fallacy.rules
  | unsourced => Clarity.unsourcedRules
  | bias => Clarity.biasRules

/-- What a shipped detector reports comes from the table of its kind and from a shipped model. -/
theorem exists_reports_of_shipped {detector : Detector} (shipped : detector ∈ Panel.shipped.detectors)
    (h : detector.detect text = .ok (some d)) : ∃ m ∈ ConfidenceModel.shippedModels,
      ∃ answer, answer = .ok (some d) ∧ Reports d.kind d.kind.shippedTable m text answer := by
  have ofKind {kind : FeedbackKind} {m : ConfidenceModel} {answer : Except NumberFault (Option Detection)}
      (listed : m ∈ ConfidenceModel.shippedModels) (reported : answer = .ok (some d))
      (reports : Reports kind kind.shippedTable m text answer) : ∃ m ∈ ConfidenceModel.shippedModels,
        ∃ answer, answer = .ok (some d) ∧ Reports d.kind d.kind.shippedTable m text answer := by
    obtain ⟨-, rfl, -⟩ := reports.of_some reported
    exact ⟨m, listed, answer, reported, reports⟩
  simp only [Panel.detectors, Panel.shipped, List.mem_cons, List.not_mem_nil, or_false] at shipped
  rcases shipped with rfl | rfl | rfl
  · exact ofKind (by decide) (Detector.detect_ofAnalysis_iff.1 h) (Inflammatory.reports _ _ _)
  · exact ofKind (by decide) (Detector.detect_ofAnalysis_iff.1 h) (Fallacy.reports _ _ _)
  · by_cases claims : findings Clarity.unsourcedRules text = []
    · exact ofKind (by decide) (Detector.detect_ofAnalysis_iff.1 h) (Clarity.reports_bias .shipped claims)
    · exact ofKind (by decide) (Detector.detect_ofAnalysis_iff.1 h)
        (Clarity.reports_unsourced .shipped claims)

theorem Inflammatory.kind_of_detect (h : Inflammatory.detector.detect text = .ok (some d)) :
    d.kind = .inflammatory :=
  ((Inflammatory.reports rules .tone text).of_some (Detector.detect_ofAnalysis_iff.1 h)).2.1

/-- **Confidences keep to their bounds.**  Each shipped model has a score for every total that a double can
stand for and every number of families: its floor rounded to four places at least, certainty at most, and for
one family its cap at most, which is less; and the score grows with the total and with the families.  So a
shipped detector is sure of what it reports to 68 hundredths at least, and to 95 at most where all that matches
belongs to one subtype; it answers for every text of a possible length. -/
theorem confidences_keep_bounds :
    (∀ m ∈ ConfidenceModel.shippedModels, ∃ floor, m.KeepsBounds floor) ∧
      ∀ detector ∈ Panel.shipped.detectors, ∀ text : String,
        (text.length < maxItems → ∃ outcome, detector.detect text = .ok outcome) ∧
        ∀ d, detector.detect text = .ok (some d) →
          .real (ofDecimal 68 2) ≤ d.confidence ∧ d.confidence ≤ .real (finite 1) ∧
          ∀ subtype, OnlySubtype d.kind.shippedTable text subtype →
            d.confidence ≤ .real (ofDecimal 95 2) := by
  refine ⟨fun m shipped => ?_, fun detector shipped text => ⟨fun short => ?_, fun d reported => ?_⟩⟩
  · obtain ⟨low, high, assures, -, uncertain⟩ := ConfidenceModel.assures_of_shipped shipped
    exact assures.exists_keepsBounds uncertain
  · obtain ⟨found, answered⟩ := Panel.exists_detections short
    obtain ⟨tone, fallacy, clarity, hTone, hFallacy, hClarity, -⟩ := Panel.detections_eq_ok_iff.1 answered
    simp only [Panel.detectors, List.mem_cons, List.not_mem_nil, or_false] at shipped
    rcases shipped with rfl | rfl | rfl
    · exact ⟨tone, hTone⟩
    · exact ⟨fallacy, hFallacy⟩
    · exact ⟨clarity, hClarity⟩
  · obtain ⟨m, listed, answer, some, reports⟩ := exists_reports_of_shipped shipped reported
    obtain ⟨low, high, assures, sure, uncertain⟩ := ConfidenceModel.assures_of_shipped listed
    obtain ⟨least, certain, most⟩ := reports.confidence_between some assures
    refine ⟨?_, certain, fun subtype only => ?_⟩
    · exact Binary64.le_trans (ConfidenceModel.ofDecimal_le_ofDecimal sure 2) least
    · exact Binary64.le_trans (most subtype only) (ConfidenceModel.ofDecimal_le_ofDecimal uncertain 2)

/-- Attacks and nothing else. -/
def fourAttacks : String := "Shut up! Get lost! You are an idiot. Shut up!"

/-- Fifty matches of one family stay at the cap, and four attacks without anything else below 95. -/
theorem fourAttacks_keep_bounds :
    ConfidenceModel.tone ∈ ConfidenceModel.shippedModels ∧
      (Number.whole 50).toBinary64 = .ok (finite 50) ∧
      (∃ s, ConfidenceModel.tone.score (.whole 50) (.whole 1) = .ok s ∧
        .real s ≤ ConfidenceModel.tone.cap) ∧
      Inflammatory.detector ∈ Panel.shipped.detectors ∧ fourAttacks.length < maxItems ∧
      OnlySubtype Inflammatory.rules fourAttacks "personal_attack" ∧
      ∃ d, Inflammatory.detector.detect fourAttacks = .ok (some d) ∧
        .real (ofDecimal 68 2) ≤ d.confidence ∧ d.confidence ≤ .real (ofDecimal 95 2) := by
  obtain ⟨models, detectors⟩ := confidences_keep_bounds
  have shipped : ConfidenceModel.tone ∈ ConfidenceModel.shippedModels := by decide
  have fifty : (Number.whole 50).toBinary64 = .ok (finite 50) := by decide +kernel
  obtain ⟨floor, keeps⟩ := models .tone shipped
  obtain ⟨s, score, -, -, capped⟩ := keeps.bounded (.whole 50) _ 1 fifty
  have seated : Inflammatory.detector ∈ Panel.shipped.detectors := List.mem_cons_self
  have short : fourAttacks.length < maxItems := by decide +kernel
  have only : OnlySubtype Inflammatory.rules fourAttacks "personal_attack" := by decide +kernel
  obtain ⟨answers, bounds⟩ := detectors Inflammatory.detector seated fourAttacks
  obtain ⟨outcome, detected⟩ := answers short
  have fires : (Inflammatory.detector.detect fourAttacks).toOption ≠ some none := by decide +kernel
  refine ⟨shipped, fifty, ⟨s, score, capped le_rfl⟩, seated, short, only, ?_⟩
  cases outcome with
  | none => exact absurd (congrArg Except.toOption detected) fires
  | some d =>
      obtain ⟨sure, -, uncertain⟩ := bounds d detected
      rw [Inflammatory.kind_of_detect detected] at uncertain
      exact ⟨d, detected, sure, uncertain "personal_attack" only⟩

end Deliberation
