/-
# Proofs.Feedback.Sentences -- matching adds up over sentences

The shipped patterns stay within a sentence (`Pattern.WithinSentence`): none reads a full stop, and all
demand a character that is no white space.  So the matches of a text with a full stop in it are those
before the full stop and then those after it, rule by rule (`WithinSentence.spans_joined`).  All that is
counted of the matches adds up (`adds_joined`), and what is computed of their weights as well
(`weighsSum_joined`).

More matches of every rule never lower a confidence (`MoreMatches.scoreOf_le`).  So a detector that reports
whatever its table finds reports on the whole exactly when it does on a part, and is no less sure
(`addsUp_ofAnalysis`).
-/
import Deliberation.Proofs.Feedback.Reports
import Deliberation.Proofs.Pattern.Seams
import Mathlib.Data.List.Perm.Subperm

set_option autoImplicit false

namespace Deliberation

open Binary64 Text

/-! ## Patterns within a sentence -/

/-- No match holds a full stop, and each holds more than white space. -/
structure Pattern.WithinSentence (p : Pattern) : Prop where
  flat : p.flat = true
  demands : p.demands inked = true
  avoids : p.avoids '.' = true

instance (p : Pattern) : Decidable p.WithinSentence :=
  decidable_of_iff (p.flat = true ∧ p.demands Pattern.inked = true ∧ p.avoids '.' = true)
    ⟨fun ⟨flat, demands, avoids⟩ => ⟨flat, demands, avoids⟩,
      fun ⟨flat, demands, avoids⟩ => ⟨flat, demands, avoids⟩⟩

/-- The whole text is the two parts with a full stop between them. -/
def Punctuated (first second whole : String) : Prop :=
  whole.toList = first.toList ++ '.' :: second.toList

theorem punctuated_append (first second : String) : Punctuated first second (first ++ "." ++ second) := by
  rw [Punctuated, String.toList_append, String.toList_append, List.append_assoc]
  rfl

variable {first second whole : String} {rules : List Rule} {text : String} {m : ConfidenceModel}

theorem Punctuated.length_le (joined : Punctuated first second whole) :
    first.length ≤ whole.length ∧ second.length ≤ whole.length := by
  have lengths := congrArg List.length joined
  simp only [List.length_append, List.length_cons, String.length_toList] at lengths
  omega

theorem Pattern.WithinSentence.spans_joined {p : Pattern} (within : p.WithinSentence)
    (joined : Punctuated first second whole) : p.spans whole = p.spans first ++ p.spans second :=
  spans_of_seam within.flat within.demands (by decide) within.avoids joined

theorem Pattern.WithinSentence.spans_blank {p : Pattern} (within : p.WithinSentence)
    (blank : isBlankText text = true) : p.spans text = [] :=
  spans_of_blank within.flat within.demands blank

/-! ## What a table reports -/

/-- The spans that are reported for the rule at a place of a table. -/
def spansReported (found : List RuleMatch) (place : ℕ) : List String :=
  (found.filter fun m => m.position == place).flatMap RuleMatch.spans

/-- Of the numbered rules only the one with the number gives its spans. -/
theorem flatMap_zipIdx_eq (rules : List Rule) (text : String) (start place : ℕ) :
    ((rules.zipIdx start).flatMap fun (rule, i) =>
      if i = start + place then rule.pattern.spans text else []) =
      (rules[place]?.map fun rule => rule.pattern.spans text).getD [] := by
  induction rules generalizing start place with
  | nil => rfl
  | cons rule rest ih =>
      rw [List.zipIdx_cons, List.flatMap_cons]
      cases place with
      | zero =>
          have others : ((rest.zipIdx (start + 1)).flatMap fun (rule, i) =>
              if i = start + 0 then rule.pattern.spans text else []) = [] := by
            apply List.flatMap_eq_nil_iff.2
            intro (rule, i) member
            have later := List.le_snd_of_mem_zipIdx member
            exact if_neg (by omega)
          rw [others]
          simp
      | succ place =>
          have passed : start ≠ start + (place + 1) := by omega
          have shift : start + (place + 1) = start + 1 + place := by omega
          simp only [if_neg passed, List.nil_append, List.getElem?_cons_succ]
          rw [shift]
          exact ih (start + 1) place

theorem spansReported_matchTable (rules : List Rule) (text : String) (place : ℕ) :
    spansReported (matchTable text rules) place =
      (rules[place]?.map fun rule => rule.pattern.spans text).getD [] := by
  -- a rule that does not match is left out, and would give no span
  have each (start : ℕ) : spansReported (((rules.zipIdx start).map fun (rule, i) =>
      RuleMatch.mk i rule (rule.pattern.spans text)).filter fun m => !m.spans.isEmpty) place =
      (rules.zipIdx start).flatMap fun (rule, i) =>
        if i = place then rule.pattern.spans text else [] := by
    unfold spansReported
    induction rules generalizing start with
    | nil => rfl
    | cons rule rest ih =>
        rw [List.zipIdx_cons, List.map_cons, List.filter_cons, List.flatMap_cons, ← ih (start + 1)]
        by_cases none : rule.pattern.spans text = []
        · simp [none]
        · by_cases here : start = place <;> simp [none, here]
  rw [← flatMap_zipIdx_eq rules text 0, Nat.zero_add]
  exact each 0

theorem totalMatches_matchTable (rules : List Rule) (text : String) :
    totalMatches (matchTable text rules) =
      (rules.map fun rule => (rule.pattern.spans text).length).sum :=
  sum_map_matchTable (fun _ spans => spans.length) (fun _ => rfl) rules text

theorem subtypeCount_matchTable (rules : List Rule) (text subtype : String) :
    subtypeCount (matchTable text rules) subtype = (rules.map fun rule =>
      if rule.subtype = subtype then (rule.pattern.spans text).length else 0).sum := by
  have ofSubtype (found : List RuleMatch) : subtypeCount found subtype = (found.map fun m =>
      if m.rule.subtype = subtype then m.spans.length else 0).sum := by
    unfold subtypeCount totalMatches
    induction found with
    | nil => rfl
    | cons m found ih =>
        rw [List.filter_cons, List.map_cons, List.sum_cons, ← ih]
        by_cases same : m.rule.subtype = subtype <;> simp [same, RuleMatch.count]
  rw [ofSubtype]
  exact sum_map_matchTable (fun rule spans => if rule.subtype = subtype then spans.length else 0)
    (by simp) rules text

/-- What a table reports on a whole is what it reports on two parts, one after the other. -/
structure Adds (rules : List Rule) (first second whole : String) : Prop where
  spans (place : ℕ) : spansReported (matchTable whole rules) place =
    spansReported (matchTable first rules) place ++ spansReported (matchTable second rules) place
  total : totalMatches (matchTable whole rules) =
    totalMatches (matchTable first rules) + totalMatches (matchTable second rules)
  subtype (subtype : String) : subtypeCount (matchTable whole rules) subtype =
    subtypeCount (matchTable first rules) subtype + subtypeCount (matchTable second rules) subtype
  weight : weightedTotal rules whole = weightedTotal rules first + weightedTotal rules second

/-- Every rule of a table has at least as many matches in the second text. -/
def MoreMatches (rules : List Rule) (text text' : String) : Prop :=
  ∀ rule ∈ rules, (rule.pattern.spans text).length ≤ (rule.pattern.spans text').length

section Table

variable (within : ∀ rule ∈ rules, rule.pattern.WithinSentence) (joined : Punctuated first second whole)

include within joined

/-- What adds up for the spans of each rule adds up for the table. -/
theorem sum_joined {M : Type} [AddCommMonoid M] (measure : Rule → List String → M)
    (additive : ∀ rule xs ys, measure rule (xs ++ ys) = measure rule xs + measure rule ys) :
    (rules.map fun rule => measure rule (rule.pattern.spans whole)).sum =
      (rules.map fun rule => measure rule (rule.pattern.spans first)).sum +
        (rules.map fun rule => measure rule (rule.pattern.spans second)).sum := by
  rw [← List.sum_map_add]
  apply congrArg List.sum
  apply List.map_congr_left
  intro rule member
  rw [(within rule member).spans_joined joined, additive]

theorem adds_joined : Adds rules first second whole where
  spans place := by
    simp only [spansReported_matchTable]
    cases found : rules[place]? with
    | none => rfl
    | some rule => exact (within rule (List.mem_of_getElem? found)).spans_joined joined
  total := by
    simp only [totalMatches_matchTable]
    exact sum_joined within joined (fun _ spans => spans.length) (by simp)
  subtype subtype := by
    simp only [subtypeCount_matchTable]
    apply sum_joined within joined
      (fun rule spans => if rule.subtype = subtype then spans.length else 0)
    intro rule xs ys
    split <;> simp
  weight := by
    apply sum_joined within joined
      (fun rule spans => (spans.length : ℚ) * rule.weight.exact.toRat)
    intro rule xs ys
    rw [List.length_append]
    push_cast
    ring

theorem someRuleMatches_joined :
    SomeRuleMatches rules whole ↔ SomeRuleMatches rules first ∨ SomeRuleMatches rules second := by
  have each (rule : Rule) (member : rule ∈ rules) : rule.pattern.occursIn whole = true ↔
      rule.pattern.occursIn first = true ∨ rule.pattern.occursIn second = true := by
    simp only [Pattern.occursIn, (within rule member).spans_joined joined, Bool.not_eq_true',
      List.isEmpty_eq_false_iff, ne_eq, List.append_eq_nil_iff]
    exact not_and_or
  constructor
  · rintro ⟨rule, member, occurs⟩
    rcases (each rule member).1 occurs with occurs | occurs
    · exact .inl ⟨rule, member, occurs⟩
    · exact .inr ⟨rule, member, occurs⟩
  · rintro (⟨rule, member, occurs⟩ | ⟨rule, member, occurs⟩)
    · exact ⟨rule, member, (each rule member).2 (.inl occurs)⟩
    · exact ⟨rule, member, (each rule member).2 (.inr occurs)⟩

theorem moreMatches_joined : MoreMatches rules first whole ∧ MoreMatches rules second whole := by
  constructor
  · intro rule member
    rw [(within rule member).spans_joined joined, List.length_append]
    omega
  · intro rule member
    rw [(within rule member).spans_joined joined, List.length_append]
    omega

end Table

/-- Nothing is found in white space, whether it is searched or not. -/
theorem findings_eq_matchTable (within : ∀ rule ∈ rules, rule.pattern.WithinSentence) (text : String) :
    findings rules text = matchTable text rules := by
  by_cases blank : isBlankText text = true
  · have unmatched : matchTable text rules = [] := by
      apply matchTable_eq_nil_iff.2
      rintro ⟨rule, member, occurs⟩
      simp [Pattern.occursIn, (within rule member).spans_blank blank] at occurs
    simp [findings, blank, unmatched]
  · simp [findings, blank]

/-! ## What is computed of the weights -/

/-- The weighted total that is computed for a text. -/
def Weighs (rules : List Rule) (text : String) (x : Binary64) : Prop :=
  ∃ w, weightedMatches (matchTable text rules) = .ok w ∧ w.toBinary64 = .ok x

/-- The total that is computed for a whole is the sum of those for two parts.  Totals up to 2 ^ 50 are
exact; beyond that a sum may be rounded, and so may the total of the whole. -/
def WeighsSum (rules : List Rule) (first second whole : String) : Prop :=
  ∃ x y z, Weighs rules first x ∧ Weighs rules second y ∧ Weighs rules whole z ∧
    (z = x + y ∨ (finite (2 ^ 50) ≤ z ∧ finite (2 ^ 50) ≤ x + y))

theorem exists_weighs (within : ∀ rule ∈ rules, rule.pattern.WithinSentence)
    (halves : ∀ rule ∈ rules, rule.InHalves) (short : text.length < maxItems) :
    ∃ x, Weighs rules text x ∧ Tracks x (weightedTotal rules text) := by
  obtain ⟨w, -, hw, -⟩ :=
    exists_weightedMatches (fun rule member => (halves rule member).isWhole_eq_false) short
  rw [findings_eq_matchTable within] at hw
  obtain ⟨x, hx, tracks⟩ :=
    weightedMatches_tracks (fun m member => halves m.rule (mem_matchTable member).1) hw
  rw [sum_matchTable] at tracks
  exact ⟨x, ⟨w, hw, hx⟩, tracks⟩

theorem weighsSum_joined (within : ∀ rule ∈ rules, rule.pattern.WithinSentence)
    (halves : ∀ rule ∈ rules, rule.InHalves) (joined : Punctuated first second whole)
    (short : whole.length < maxItems) : WeighsSum rules first second whole := by
  have parts := joined.length_le
  obtain ⟨x, weighs₁, tracks₁⟩ := exists_weighs within halves (parts.1.trans_lt short)
  obtain ⟨y, weighs₂, tracks₂⟩ := exists_weighs within halves (parts.2.trans_lt short)
  obtain ⟨z, weighs, tracks⟩ := exists_weighs within halves short
  rw [(adds_joined within joined).weight] at tracks
  exact ⟨x, y, z, weighs₁, weighs₂, weighs, tracks.eq_or_large (tracks₁.add tracks₂)⟩

/-! ## How sure a detector is -/

section More

variable {text' : String} {s s' : Binary64}

theorem MoreMatches.weightedTotal_le (more : MoreMatches rules text text')
    (halves : ∀ rule ∈ rules, rule.InHalves) :
    weightedTotal rules text ≤ weightedTotal rules text' := by
  apply List.sum_le_sum
  intro rule member
  have nonneg : 0 ≤ rule.weight.exact.toRat := by
    rcases halves rule member with weight | weight <;> rw [weight]
    · norm_num [Rule.fullWeight, Number.exact, toRat]
    · norm_num [Rule.halfWeight, Number.exact, toRat]
  apply mul_le_mul_of_nonneg_right _ nonneg
  exact_mod_cast more rule member

theorem MoreMatches.families_le (more : MoreMatches rules text text') :
    (subtypeCounts (matchTable text rules)).length ≤ (subtypeCounts (matchTable text' rules)).length := by
  simp only [subtypeCounts, List.length_map]
  apply (List.subperm_of_subset (nodup_distinct _) _).length_le
  intro subtype member
  rw [mem_distinct, List.mem_map] at member ⊢
  obtain ⟨found, listed, rfl⟩ := member
  obtain ⟨declared, spans⟩ := mem_matchTable listed
  have matched : 0 < found.spans.length := by
    have notEmpty := (List.mem_filter.1 listed).2
    exact List.length_pos_iff.2 (by simpa using notEmpty)
  rw [spans] at matched
  have matched' : found.rule.pattern.spans text' ≠ [] :=
    List.length_pos_iff.1 (matched.trans_le (more found.rule declared))
  obtain ⟨found', listed', same⟩ := exists_mem_matchTable declared matched'
  exact ⟨found', listed', by rw [same]⟩

/-- **More matches of every rule never lower the confidence**, also where the totals are rounded, because
a model that saturates is then as sure as it gets. -/
theorem MoreMatches.scoreOf_le (more : MoreMatches rules text text')
    (halves : ∀ rule ∈ rules, rule.InHalves) (regular : m.Regular) {enough : ℚ}
    (saturates : m.Saturates enough) (small : enough ≤ 2 ^ 50)
    (h : m.scoreOf (matchTable text rules) = .ok s)
    (h' : m.scoreOf (matchTable text' rules) = .ok s') : s ≤ s' := by
  obtain ⟨w, hw, score⟩ := bind_eq_ok_iff.1 h
  obtain ⟨w', hw', score'⟩ := bind_eq_ok_iff.1 h'
  have inHalves (text : String) : ∀ m ∈ matchTable text rules, m.rule.InHalves :=
    fun m member => halves m.rule (mem_matchTable member).1
  obtain ⟨x, hx, tracks⟩ := weightedMatches_tracks (inHalves text) hw
  obtain ⟨x', hx', tracks'⟩ := weightedMatches_tracks (inHalves text') hw'
  rw [sum_matchTable] at tracks tracks'
  have total := more.weightedTotal_le halves
  have corroborated : Number.whole 2 ≤ .whole (subtypeCounts (matchTable text rules)).length →
      Number.whole 2 ≤ .whole (subtypeCounts (matchTable text' rules)).length := by
    intro agree
    exact Number.le_trans agree (finite_le_finite (by exact_mod_cast more.families_le))
  by_cases saturated : enough ≤ weightedTotal rules text'
  · obtain ⟨top, atEnough⟩ := regular.exists_score (w := .real (finite enough)) rfl
      (.whole (subtypeCounts (matchTable text rules)).length)
    have atInfinity := (saturates _).trans atEnough
    have defined := isNaN_of_le_right tracks.nonneg.2
    have below := regular.score_le_score hx rfl (le_infinite defined) id score atInfinity
    have above := regular.score_le_score rfl hx' ((tracks'.finite_le_iff small).2 saturated)
      corroborated atEnough score'
    exact Binary64.le_trans below above
  · have few : weightedTotal rules text' < 2 ^ 50 := (not_le.1 saturated).trans_le small
    have ordered : x ≤ x' := Binary64.le_trans (tracks.le_finite total few)
      ((tracks'.finite_le_iff few.le).2 le_rfl)
    exact regular.score_le_score hx hx' ordered corroborated score score'

end More

/-- A detector reports on a whole exactly when it does on a part, and is then no less sure. -/
def Detector.AddsUp (detector : Detector) (first second whole : String) : Prop :=
  ∃ part₁ part₂ joint, detector.detect first = .ok part₁ ∧ detector.detect second = .ok part₂ ∧
    detector.detect whole = .ok joint ∧
    (joint.isSome = true ↔ part₁.isSome = true ∨ part₂.isSome = true) ∧
    ∀ d ∈ joint, ∀ part, part ∈ part₁ ∨ part ∈ part₂ → part.confidence ≤ d.confidence

theorem addsUp_ofAnalysis {kind : FeedbackKind} {name : String}
    {analyze : String → Except NumberFault (Option Detection)}
    (reports : ∀ text, Reports kind rules m text (analyze text))
    (within : ∀ rule ∈ rules, rule.pattern.WithinSentence) (halves : ∀ rule ∈ rules, rule.InHalves)
    (regular : m.Regular) {enough : ℚ} (saturates : m.Saturates enough) (small : enough ≤ 2 ^ 50)
    (joined : Punctuated first second whole) (short : whole.length < maxItems) :
    (Detector.ofAnalysis name analyze).AddsUp first second whole := by
  have parts := joined.length_le
  have answers {text : String} (short : text.length < maxItems) :
      ∃ outcome, analyze text = .ok outcome :=
    (reports text).exists_ok (exists_scoreOf halves regular short)
  obtain ⟨part₁, answer₁⟩ := answers (parts.1.trans_lt short)
  obtain ⟨part₂, answer₂⟩ := answers (parts.2.trans_lt short)
  obtain ⟨joint, answer⟩ := answers short
  have fires {text : String} {outcome : Option Detection} (h : analyze text = .ok outcome) :
      outcome.isSome = true ↔ SomeRuleMatches rules text := by
    rw [(reports text).isSome_iff h, findings_eq_matchTable within, ne_eq, matchTable_eq_nil_iff,
      not_not]
  refine ⟨part₁, part₂, joint, Detector.detect_ofAnalysis_iff.2 answer₁,
    Detector.detect_ofAnalysis_iff.2 answer₂, Detector.detect_ofAnalysis_iff.2 answer, ?_, ?_⟩
  · rw [fires answer, fires answer₁, fires answer₂]
    exact someRuleMatches_joined within joined
  · intro d reported part ofPart
    obtain ⟨-, -, s, score, confidence⟩ := (reports whole).of_some (reported ▸ answer)
    have noLess {text : String} {outcome : Option Detection} (h : analyze text = .ok outcome)
        (member : part ∈ outcome) (more : MoreMatches rules text whole) :
        part.confidence ≤ d.confidence := by
      obtain ⟨-, -, s', score', confidence'⟩ := (reports text).of_some (member ▸ h)
      rw [findings_eq_matchTable within] at score score'
      rw [confidence, confidence']
      exact more.scoreOf_le halves regular saturates small score' score
    have more := moreMatches_joined within joined
    rcases ofPart with member | member
    · exact noLess answer₁ member more.1
    · exact noLess answer₂ member more.2

/-! ## The shipped tables -/

theorem Inflammatory.withinSentence : ∀ rule ∈ Inflammatory.rules, rule.pattern.WithinSentence := by
  decide +kernel

theorem Fallacy.withinSentence : ∀ rule ∈ Fallacy.rules, rule.pattern.WithinSentence := by
  decide +kernel

theorem Clarity.withinSentence_unsourced :
    ∀ rule ∈ unsourcedRules, rule.pattern.WithinSentence := by
  decide +kernel

theorem Clarity.withinSentence_bias : ∀ rule ∈ biasRules, rule.pattern.WithinSentence := by
  decide +kernel

/-- The tables that are shipped. -/
def shippedTables : List (List Rule) :=
  [Inflammatory.rules, Fallacy.rules, Clarity.unsourcedRules, Clarity.biasRules]

theorem withinSentence_of_shipped (shipped : rules ∈ shippedTables) :
    (∀ rule ∈ rules, rule.pattern.WithinSentence) ∧ ∀ rule ∈ rules, rule.InHalves := by
  simp only [shippedTables, List.mem_cons, List.not_mem_nil, or_false] at shipped
  rcases shipped with rfl | rfl | rfl | rfl
  · exact ⟨Inflammatory.withinSentence, Inflammatory.inHalves⟩
  · exact ⟨Fallacy.withinSentence, Fallacy.inHalves⟩
  · exact ⟨Clarity.withinSentence_unsourced, Clarity.inHalves_unsourced⟩
  · exact ⟨Clarity.withinSentence_bias, Clarity.inHalves_bias⟩

/-- **Matching adds up over sentences.**  For any two texts and each shipped table, every rule reports on
the texts with a full stop between them the spans of the first and then those of the second, and the
counts, the counts of each subtype and the weights are sums.  So are the computed weights of texts that fit
a machine, and the detectors of inflammatory language and of fallacies then answer: they report on the whole
exactly when they do on a part, and are no less sure than on either. -/
theorem additive_over_sentences (first second : String) :
    (∀ rules ∈ shippedTables, Adds rules first second (first ++ "." ++ second)) ∧
      ((first ++ "." ++ second).length < maxItems →
        (∀ rules ∈ shippedTables, WeighsSum rules first second (first ++ "." ++ second)) ∧
          Inflammatory.detector.AddsUp first second (first ++ "." ++ second) ∧
          Fallacy.detector.AddsUp first second (first ++ "." ++ second)) := by
  have joined := punctuated_append first second
  constructor
  · intro rules shipped
    exact adds_joined (withinSentence_of_shipped shipped).1 joined
  · intro short
    refine ⟨?_, ?_, ?_⟩
    · intro rules shipped
      obtain ⟨within, halves⟩ := withinSentence_of_shipped shipped
      exact weighsSum_joined within halves joined short
    · exact addsUp_ofAnalysis (Inflammatory.reports Inflammatory.rules .tone)
        Inflammatory.withinSentence Inflammatory.inHalves ConfidenceModel.regular_tone
        ConfidenceModel.saturates_tone (by norm_num) joined short
    · exact addsUp_ofAnalysis (Fallacy.reports Fallacy.rules .fallacy) Fallacy.withinSentence
        Fallacy.inHalves ConfidenceModel.crosses_fallacy.regular ConfidenceModel.saturates_fallacy
        (by norm_num) joined short

/-- Two sentences with an insult each hold two, and the detector answers on both and on the whole. -/
theorem insults_joined :
    totalMatches (matchTable "You are an idiot" Inflammatory.rules) = 1 ∧
      totalMatches (matchTable " Shut up" Inflammatory.rules) = 1 ∧
      totalMatches (matchTable ("You are an idiot" ++ "." ++ " Shut up") Inflammatory.rules) = 2 ∧
      Inflammatory.detector.AddsUp "You are an idiot" " Shut up"
        ("You are an idiot" ++ "." ++ " Shut up") := by
  have one : totalMatches (matchTable "You are an idiot" Inflammatory.rules) = 1 := by decide +kernel
  have other : totalMatches (matchTable " Shut up" Inflammatory.rules) = 1 := by decide +kernel
  have short : ("You are an idiot" ++ "." ++ " Shut up").length < maxItems := by decide +kernel
  have joined := additive_over_sentences "You are an idiot" " Shut up"
  refine ⟨one, other, ?_, (joined.2 short).2.1⟩
  rw [(joined.1 Inflammatory.rules List.mem_cons_self).total, one, other]

end Deliberation
