/-
# Proofs.Feedback.Leading -- the subtype with the most spans is reported

Subtypes may be spread over a table, and their spans are counted rule by rule, while a tie goes to the
subtype that is declared first.  What is meant is said of the table and the text alone (`LeadsTable`): the
rules of the leading subtype have as many spans as those of any other, and of those with as many it is
declared first.  There is one at most (`LeadsTable.eq_of_leads`).

The selection goes through the declared subtypes once and takes a later one only if it has more spans
(`leadingSubtype_cases`); going through each subtype once and through the whole table come to the same, since
the first occurrences keep their order (`exists_split_of_distinctFrom`).  So an analysis with any table and model
reports nothing exactly where its table finds nothing, and else the leading subtype with the number of all
spans (`ByLeader`).  A clarity analysis asks one of its two tables, and which one does not depend on the
other (`leading_subtype_reported`).
-/
import Deliberation.Proofs.Distinct
import Deliberation.Proofs.Feedback.Sentences

set_option autoImplicit false

namespace Deliberation

open Binary64 Text

variable {rules : List Rule} {text leader other : String} {found : List RuleMatch} {d : Detection}
  {m : ConfidenceModel}

/-! ## The leader of a table -/

/-- The number of spans of the rules of a table. -/
def spanCount (rules : List Rule) (text : String) : ℕ :=
  (rules.map fun rule => (rule.pattern.spans text).length).sum

/-- The number of spans of the rules for a subtype. -/
def spanCountOf (rules : List Rule) (text subtype : String) : ℕ :=
  spanCount (rules.filter fun rule => rule.subtype == subtype) text

/-- The place at which a table first declares a subtype. -/
def declaredAt (rules : List Rule) (subtype : String) : ℕ := (rules.map Rule.subtype).idxOf subtype

/-- The rules of the subtype have the most spans, and of equal subtypes it is declared first. -/
structure LeadsTable (rules : List Rule) (text leader : String) : Prop where
  declared : leader ∈ rules.map Rule.subtype
  most : ∀ rule ∈ rules, spanCountOf rules text rule.subtype ≤ spanCountOf rules text leader
  first : ∀ rule ∈ rules, spanCountOf rules text rule.subtype = spanCountOf rules text leader →
    declaredAt rules leader ≤ declaredAt rules rule.subtype

/-- A table has one leader at most. -/
theorem LeadsTable.eq_of_leads (h : LeadsTable rules text leader) (h' : LeadsTable rules text other) :
    leader = other := by
  obtain ⟨rule, member, rfl⟩ := List.mem_map.1 h.declared
  obtain ⟨rule', member', rfl⟩ := List.mem_map.1 h'.declared
  have same := le_antisymm (h'.most rule member) (h.most rule' member')
  have place : declaredAt rules rule.subtype = declaredAt rules rule'.subtype :=
    le_antisymm (h.first rule' member' same.symm) (h'.first rule member same)
  exact (List.idxOf_inj h.declared).1 place

/-! ## The selection -/

/-- Of some subtypes in order, this one has the most spans, more than any before it, and some at all. -/
structure FirstMost (count : String → ℕ) (order : List String) (leader : String) : Prop where
  positive : 0 < count leader
  split : ∃ before after, order = before ++ leader :: after ∧ (∀ s ∈ before, count s < count leader) ∧
    ∀ s ∈ after, count s ≤ count leader

theorem FirstMost.count_le {count : String → ℕ} {order : List String} (h : FirstMost count order leader)
    (member : other ∈ order) : count other ≤ count leader := by
  obtain ⟨before, after, rfl, less, atMost⟩ := h.split
  rcases List.mem_append.1 member with early | late
  · exact (less other early).le
  · rcases List.mem_cons.1 late with rfl | late
    · exact le_rfl
    · exact atMost other late

/-- The selection takes the first of the subtypes with the most spans, or none where none has any. -/
theorem leadingSubtype_cases (found : List RuleMatch) (order : List String) :
    (leadingSubtype found order = none ∧ ∀ s ∈ order, subtypeCount found s = 0) ∨
      ∃ leader, leadingSubtype found order = some leader ∧ FirstMost (subtypeCount found) order leader := by
  -- one more subtype at the end of the order
  induction order using List.reverseRecOn with
  | nil => exact .inl ⟨rfl, by simp⟩
  | append_singleton order last ih =>
      unfold leadingSubtype at ih ⊢
      rw [List.foldl_append, List.foldl_cons, List.foldl_nil]
      rcases ih with ⟨none, zero⟩ | ⟨leader, some, most⟩
      · rw [none]
        dsimp only
        split_ifs with positive
        · refine .inr ⟨last, rfl, positive, order, [], rfl, fun s member => ?_, by simp⟩
          rwa [zero s member]
        · refine .inl ⟨rfl, fun s member => ?_⟩
          rcases List.mem_append.1 member with early | late
          · exact zero s early
          · obtain rfl := List.mem_singleton.1 late
            omega
      · rw [some]
        dsimp only
        split_ifs with more
        · exact .inr ⟨last, rfl, by omega, order, [], rfl,
            fun s member => (most.count_le member).trans_lt more, by simp⟩
        · obtain ⟨before, after, rfl, less, atMost⟩ := most.split
          refine .inr ⟨leader, rfl, most.positive, before, after ++ [last], by simp, less,
            fun s member => ?_⟩
          rcases List.mem_append.1 member with early | late
          · exact atMost s early
          · obtain rfl := List.mem_singleton.1 late
            omega

/-! ## First declarations -/

/-- In the order of first declaration, what does not come before a subtype is not declared before it. -/
theorem declaredAt_le_of_not_before {before after : List String}
    (h : subtypeOrder rules = before ++ leader :: after) (notBefore : other ∉ before) :
    declaredAt rules leader ≤ declaredAt rules other := by
  obtain ⟨xs₁, xs₂, split, earlier⟩ := exists_split_of_distinctFrom h
  have apart : other ∉ xs₁ := fun member =>
    (earlier other member).elim (by simp) notBefore
  unfold declaredAt
  rw [split, List.idxOf_append_of_notMem apart]
  by_cases early : leader ∈ xs₁
  · rw [List.idxOf_append_of_mem early]
    exact (List.idxOf_lt_length_of_mem early).le.trans (Nat.le_add_right _ _)
  · rw [List.idxOf_append_of_notMem early, List.idxOf_cons_self]
    omega

/-! ## Reports -/

theorem spanCount_eq (rules : List Rule) (text : String) :
    spanCount rules text = totalMatches (matchTable text rules) :=
  (totalMatches_matchTable rules text).symm

theorem spanCountOf_eq (rules : List Rule) (text subtype : String) :
    spanCountOf rules text subtype = subtypeCount (matchTable text rules) subtype := by
  rw [subtypeCount_matchTable, spanCountOf, spanCount]
  induction rules with
  | nil => rfl
  | cons rule rest ih =>
      rw [List.filter_cons, List.map_cons, List.sum_cons, ← ih]
      by_cases same : rule.subtype = subtype <;> simp [same]

/-- A rule that matches has a span. -/
theorem spanCount_pos (matched : SomeRuleMatches rules text) : 0 < spanCount rules text := by
  obtain ⟨rule, member, occurs⟩ := matched
  have spans : 0 < (rule.pattern.spans text).length := by
    rw [List.length_pos_iff]
    simpa [Pattern.occursIn] using occurs
  exact spans.trans_le (List.single_le_sum (by simp) _ (List.mem_map_of_mem member))

/-- Where a rule matches, the table has a leader, and the selection finds it. -/
theorem exists_leader (matched : SomeRuleMatches rules text) : ∃ leader,
    leadingSubtype (matchTable text rules) (subtypeOrder rules) = some leader ∧ LeadsTable rules text leader := by
  have declared {rule : Rule} (member : rule ∈ rules) : rule.subtype ∈ subtypeOrder rules :=
    (mem_distinct _ _).2 (List.mem_map_of_mem member)
  rcases leadingSubtype_cases (matchTable text rules) (subtypeOrder rules) with
    ⟨-, zero⟩ | ⟨leader, selected, most⟩
  · -- a rule that matches has a span, and so has its subtype
    obtain ⟨rule, member, occurs⟩ := matched
    have nobody := zero rule.subtype (declared member)
    have itself : rule ∈ rules.filter fun other => other.subtype == rule.subtype :=
      List.mem_filter.2 ⟨member, beq_self_eq_true _⟩
    have somebody := spanCount_pos ⟨rule, itself, occurs⟩
    rw [← spanCountOf_eq, spanCountOf] at nobody
    omega
  · refine ⟨leader, selected, ?_, fun rule member => ?_, fun rule member tie => ?_⟩
    · obtain ⟨before, after, split, -⟩ := most.split
      have listed : leader ∈ subtypeOrder rules := by
        rw [split]
        exact List.mem_append_right before List.mem_cons_self
      exact (mem_distinct _ _).1 listed
    · rw [spanCountOf_eq, spanCountOf_eq]
      exact most.count_le (declared member)
    · obtain ⟨before, after, split, less, -⟩ := most.split
      rw [spanCountOf_eq, spanCountOf_eq] at tie
      exact declaredAt_le_of_not_before split fun early => (less _ early).ne tie

/-- A detection that counts what was found with the rules. -/
structure Detection.Counts (d : Detection) (rules : List Rule) (found : List RuleMatch) : Prop where
  total : d.matchCount = totalMatches found
  subtype : d.subtype = leadingSubtype found (subtypeOrder rules)

/-- A detection of a kind that tells of the spans of a table: how many there are, and the leader. -/
structure Detection.TellsOf (d : Detection) (kind : FeedbackKind) (rules : List Rule) (text : String) :
    Prop where
  kind_eq : d.kind = kind
  matchCount_eq : d.matchCount = spanCount rules text
  positive : 0 < d.matchCount
  subtype_eq : ∃ leader, d.subtype = some leader ∧ ∀ other, LeadsTable rules text other ↔ other = leader

/-- The parameters that are computed with are doubles. -/
structure ConfidenceModel.OfDoubles (m : ConfidenceModel) : Prop where
  base : m.base.isWhole = false
  increment : m.increment.isWhole = false

/-- What an analysis of a kind with a table and a model answers: nothing exactly where the table finds
nothing, and else the leader.  With doubles for weights and parameters it answers for every text of a possible
length, and only numbers beyond the range of doubles can keep it from answering. -/
structure ByLeader (kind : FeedbackKind) (rules : List Rule) (m : ConfidenceModel) (text : String)
    (answer : Except NumberFault (Option Detection)) : Prop where
  nothing_iff : answer = .ok none ↔ isBlankText text = true ∨ ¬SomeRuleMatches rules text
  reported : ∀ d, answer = .ok (some d) → d.TellsOf kind rules text
  answers : (∀ rule ∈ rules, rule.weight.isWhole = false) → m.OfDoubles → text.length < maxItems →
    ∃ outcome, answer = .ok outcome
  onlyTooLarge : ∀ fault, answer = .error fault → fault = .tooLarge

/-- Doubles for weights and parameters give a score to every text. -/
theorem exists_scoreOf_of_doubles (doubles : ∀ rule ∈ rules, rule.weight.isWhole = false)
    (parameters : m.OfDoubles) (short : text.length < maxItems) :
    ∃ s, m.scoreOf (findings rules text) = .ok s := by
  obtain ⟨b, hb⟩ := Number.eq_real_of_isWhole_eq_false parameters.base
  obtain ⟨i, hi⟩ := Number.eq_real_of_isWhole_eq_false parameters.increment
  obtain ⟨w, x, hw, hx⟩ := exists_weightedMatches doubles short
  have scaled : w.mul m.increment = .ok (.real (x * i)) := hi ▸ Number.mul_real hx i
  have raw : m.base.add (.real (x * i)) = .ok (.real (b + x * i)) := by rw [hb]; rfl
  have least : m.floor = .ok ((Number.real (b + i)).least m.cap) := by
    rw [ConfidenceModel.floor, hb, hi]; rfl
  exact ⟨_, bind_eq_ok_iff.2 ⟨w, hw, ConfidenceModel.score_eq_ok_iff.2 ⟨_, _, _, scaled, raw, least, rfl⟩⟩⟩

theorem weightedMatches_eq_error {fault : NumberFault} (h : weightedMatches found = .error fault) :
    fault = .tooLarge := by
  unfold weightedMatches at h
  generalize Number.whole 0 = sum at h
  induction found generalizing sum with
  | nil => cases h
  | cons first rest ih =>
      rw [List.foldlM_cons] at h
      rcases bind_eq_error_iff.1 h with here | ⟨sum', -, later⟩
      · rcases bind_eq_error_iff.1 here with term | ⟨term, -, added⟩
        · exact Number.lift_eq_error term
        · exact Number.lift_eq_error added
      · exact ih sum' later

theorem ConfidenceModel.scoreOf_eq_error {fault : NumberFault} (h : m.scoreOf found = .error fault) :
    fault = .tooLarge := by
  rcases bind_eq_error_iff.1 h with total | ⟨w, -, h⟩
  · exact weightedMatches_eq_error total
  rcases bind_eq_error_iff.1 h with scaled | ⟨x, -, h⟩
  · exact Number.lift_eq_error scaled
  rcases bind_eq_error_iff.1 h with raw | ⟨y, -, h⟩
  · exact Number.lift_eq_error raw
  rcases bind_eq_error_iff.1 h with least | ⟨z, -, h⟩
  · rcases bind_eq_error_iff.1 least with sum | ⟨v, -, h⟩
    · exact Number.lift_eq_error sum
    · cases h
  · cases h

theorem byLeader_of_reports {kind : FeedbackKind} {answer : Except NumberFault (Option Detection)}
    (reports : Reports kind rules m text answer)
    (counted : ∀ d, answer = .ok (some d) → d.Counts rules (findings rules text)) :
    ByLeader kind rules m text answer where
  nothing_iff := by
    rw [reports.eq_none_iff, ← not_iff_not, ← ne_eq, findings_ne_nil_iff]
    simp
  reported d some := by
    obtain ⟨found, ofKind, -⟩ := reports.of_some some
    obtain ⟨notBlank, matched⟩ := findings_ne_nil_iff.1 found
    obtain ⟨total, subtype⟩ := counted d some
    rw [findings_of_not_blank notBlank] at total subtype
    obtain ⟨leader, selected, leads⟩ := exists_leader matched
    rw [← spanCount_eq] at total
    refine ⟨ofKind, total, ?_, leader, subtype.trans selected,
      fun other => ⟨fun h => h.eq_of_leads leads, fun same => same ▸ leads⟩⟩
    rw [total]
    exact_mod_cast spanCount_pos matched
  answers doubles parameters short :=
    reports.exists_ok (exists_scoreOf_of_doubles doubles parameters short)
  onlyTooLarge fault failed := ConfidenceModel.scoreOf_eq_error (reports.of_error failed)

/-! ## The detectors -/

theorem counts_of_scored {score : Except NumberFault Binary64} {detection : Binary64 → Detection}
    (counts : ∀ s, (detection s).Counts rules found)
    (h : some <$> detection <$> score = .ok (some d)) : d.Counts rules found := by
  obtain ⟨reported, made, same⟩ := map_eq_ok_iff.1 h
  obtain rfl := Option.some.inj same
  obtain ⟨s, -, rfl⟩ := map_eq_ok_iff.1 made
  exact counts s

/-- An analysis that reports whatever its one table finds counts what that found. -/
theorem counts_of_table {score : List RuleMatch → Except NumberFault Binary64}
    {detection : List RuleMatch → Binary64 → Detection}
    (counts : ∀ found s, (detection found s).Counts rules found)
    (h : (match findings rules text with
      | [] => Except.ok none
      | found => some <$> detection found <$> score found) = .ok (some d)) :
    d.Counts rules (findings rules text) := by
  split at h
  · cases h
  · exact counts_of_scored (counts _) h

namespace Clarity

variable {settings : Settings}

theorem counts_unsourced (found : findings settings.unsourced text ≠ [])
    (h : analyze settings text = .ok (some d)) :
    d.Counts settings.unsourced (findings settings.unsourced text) := by
  unfold analyze at h
  split at h
  · rename_i none
    exact absurd none found
  · exact counts_of_scored (fun _ => ⟨rfl, rfl⟩) h

theorem counts_bias (none : findings settings.unsourced text = [])
    (h : analyze settings text = .ok (some d)) :
    d.Counts settings.bias (findings settings.bias text) := by
  unfold analyze at h
  rw [none] at h
  dsimp only at h
  split at h
  · cases h
  · exact counts_of_scored (fun _ => ⟨rfl, rfl⟩) h

/-- Where unsourced claims are found, nobody asks for bias. -/
theorem analyze_eq_of_unsourced (found : findings settings.unsourced text ≠ []) (bias : List Rule)
    (biasModel : ConfidenceModel) :
    analyze { settings with bias := bias, biasModel := biasModel } text = analyze settings text := by
  unfold analyze
  dsimp only
  split
  · rename_i none
    exact absurd none found
  · rfl

end Clarity

/-- **The subtype with the most spans is reported, the first declared on a tie.**  For every text, table and
model the analyses of inflammatory language and of fallacies report nothing exactly where the text is blank or
no rule matches, and else the number of all spans and the leader of the table.  A clarity analysis does so
with its table of unsourced claims where that finds something, whatever its table of bias and the model of
that are, and else with its table of bias. -/
theorem leading_subtype_reported (text : String) :
    (∀ rules m, ByLeader .inflammatory rules m text (Inflammatory.analyze rules m text)) ∧
      (∀ rules m, ByLeader .fallacy rules m text (Fallacy.analyze rules m text)) ∧
      ∀ settings : Clarity.Settings,
        (isBlankText text = false ∧ SomeRuleMatches settings.unsourced text →
          ByLeader .unsourced settings.unsourced settings.unsourcedModel text
              (Clarity.analyze settings text) ∧
            ∀ bias biasModel, Clarity.analyze { settings with bias := bias, biasModel := biasModel } text =
              Clarity.analyze settings text) ∧
          (isBlankText text = true ∨ ¬SomeRuleMatches settings.unsourced text →
            ByLeader .bias settings.bias settings.biasModel text (Clarity.analyze settings text)) := by
  refine ⟨fun rules m => ?_, fun rules m => ?_, fun settings => ⟨fun unsourced => ?_, fun other => ?_⟩⟩
  · exact byLeader_of_reports (Inflammatory.reports rules m text)
      fun d reported => counts_of_table (fun _ _ => by exact ⟨rfl, rfl⟩) reported
  · exact byLeader_of_reports (Fallacy.reports rules m text)
      fun d reported => counts_of_table (fun _ _ => by exact ⟨rfl, rfl⟩) reported
  · have found : findings settings.unsourced text ≠ [] := findings_ne_nil_iff.2 unsourced
    exact ⟨byLeader_of_reports (Clarity.reports_unsourced settings found)
      fun d => Clarity.counts_unsourced found, Clarity.analyze_eq_of_unsourced found⟩
  · have none : findings settings.unsourced text = [] := by
      by_contra found
      obtain ⟨notBlank, matched⟩ := findings_ne_nil_iff.1 found
      rcases other with blank | unmatched
      · simp [blank] at notBlank
      · exact unmatched matched
    exact byLeader_of_reports (Clarity.reports_bias settings none) fun d => Clarity.counts_bias none

/-- A table that declares a subtype again after another. -/
def interleavedRules : List Rule :=
  [.shipped "first" ["alpha"], .shipped "second" ["beta"], .shipped "first" ["gamma"]]

/-- Two spans of each of two subtypes are four, and the subtype declared first leads, also where the other
was seen first; a clarity analysis with the table says so whatever it would find of bias. -/
theorem tie_for_first :
    let text := "beta beta alpha gamma"
    (∃ d, Inflammatory.analyze interleavedRules .tone text = .ok (some d) ∧ d.kind = .inflammatory ∧
        d.matchCount = 4 ∧ d.subtype = some "first") ∧
      ∀ bias biasModel, ∃ d,
        Clarity.analyze ⟨interleavedRules, bias, .unsourced, biasModel⟩ text = .ok (some d) ∧
          d.kind = .unsourced ∧ d.matchCount = 4 ∧ d.subtype = some "first" := by
  intro text
  have notBlank : isBlankText text = false := by decide +kernel
  have matched : SomeRuleMatches interleavedRules text := by decide +kernel
  have leads : LeadsTable interleavedRules text "first" :=
    ⟨by decide +kernel, by decide +kernel, by decide +kernel⟩
  have four : spanCount interleavedRules text = 4 := by decide +kernel
  have told {kind : FeedbackKind} {m : ConfidenceModel} {answer : Except NumberFault (Option Detection)}
      (by_leader : ByLeader kind interleavedRules m text answer) (parameters : m.OfDoubles) :
      ∃ d, answer = .ok (some d) ∧ d.kind = kind ∧ d.matchCount = 4 ∧ d.subtype = some "first" := by
    obtain ⟨outcome, answered⟩ := by_leader.answers (by decide +kernel) parameters (by decide +kernel)
    cases outcome with
    | none =>
        rcases by_leader.nothing_iff.1 answered with blank | unmatched
        · rw [notBlank] at blank
          cases blank
        · exact absurd matched unmatched
    | some d =>
        obtain ⟨kind_eq, count, -, leader, subtype, only⟩ := by_leader.reported d answered
        rw [four] at count
        exact ⟨d, answered, kind_eq, count, subtype.trans (congrArg some ((only _).1 leads).symm)⟩
  obtain ⟨inflammatory, -, clarity⟩ := leading_subtype_reported text
  refine ⟨told (inflammatory interleavedRules .tone) ⟨rfl, rfl⟩, fun bias biasModel => ?_⟩
  exact told ((clarity ⟨interleavedRules, bias, .unsourced, biasModel⟩).1 ⟨notBlank, matched⟩).1 ⟨rfl, rfl⟩

end Deliberation
