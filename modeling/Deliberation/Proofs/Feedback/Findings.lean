/-
# Proofs.Feedback.Findings -- what the spans of a table weigh

The weighted total of a table in a text is a sum over its rules (`weightedTotal`).  The total that a
detector computes is a sum of doubles over the rules that match.  Rules weigh one or one half, so what is
computed stands for what is meant (`weightedMatches_tracks`), and no total falls between two neighbouring
halves (`weightedTotal_le_or_ge_half`).

A text has at most two matches of a pattern at each place, so there is a total for every text of a
possible length (`exists_weightedMatches`).
-/
import Deliberation.Feedback.Detector
import Deliberation.Proofs.Fallible
import Deliberation.Proofs.Number.Halves
import Mathlib.Algebra.BigOperators.Group.List.Basic
import Mathlib.Algebra.Order.BigOperators.Group.List

set_option autoImplicit false

namespace Deliberation

open Binary64 Text

/-! ## The number of spans -/

namespace Pattern

variable (p : Pattern)

theorem length_spansAt_le (s : Cursor) : (p.spansAt s).length ≤ 2 := by
  unfold spansAt
  split
  · simp
  · cases p.nonEmptySpanAt? s <;> simp
  · simp

theorem length_spansFrom_le (before : Option Char) (cs : List Char) (covered : ℕ) :
    (p.spansFrom before cs covered).length ≤ 2 * (cs.length + 1) := by
  fun_induction spansFrom p before cs covered with
  | case1 before => exact p.length_spansAt_le _
  | case2 before c rest covered ih =>
      rw [List.length_cons]
      omega
  | case3 before c rest here ih =>
      have start : here.length ≤ 2 := p.length_spansAt_le _
      rw [List.length_append, List.length_cons]
      omega

/-- At each place of a text, and at its end, begin at most two matches. -/
theorem length_spans_le (text : String) : (p.spans text).length ≤ 2 * (text.length + 1) := by
  rw [spans, List.length_map, ← String.length_toList]
  exact p.length_spansFrom_le none text.toList 0

end Pattern

/-! ## Totals -/

/-- The rule weighs one or one half. -/
def Rule.InHalves (rule : Rule) : Prop := rule.weight = fullWeight ∨ rule.weight = halfWeight

instance (rule : Rule) : Decidable rule.InHalves := inferInstanceAs (Decidable (_ ∨ _))

theorem Rule.InHalves.isWhole_eq_false {rule : Rule} (halves : rule.InHalves) :
    rule.weight.isWhole = false := by
  rcases halves with weight | weight <;> rw [weight] <;> rfl

/-- What the spans of a rule weigh in a text. -/
def Rule.weightIn (rule : Rule) (text : String) : ℚ :=
  (rule.pattern.spans text).length * rule.weight.exact.toRat

/-- The number of spans of a table in a text, each counted with the weight of its rule. -/
def weightedTotal (rules : List Rule) (text : String) : ℚ := (rules.map (·.weightIn text)).sum

/-- Some rule of a table matches. -/
def SomeRuleMatches (rules : List Rule) (text : String) : Prop :=
  ∃ rule ∈ rules, rule.pattern.occursIn text = true

instance (rules : List Rule) (text : String) : Decidable (SomeRuleMatches rules text) :=
  inferInstanceAs (Decidable (∃ rule ∈ rules, rule.pattern.occursIn text = true))

/-- What the matches of a rule weigh. -/
def RuleMatch.total (m : RuleMatch) : ℚ := m.count * m.rule.weight.exact.toRat

variable {rules : List Rule} {text : String} {found : List RuleMatch} {w w' : Number}
  {x : Binary64} {q : ℚ}

theorem weighted_eq {m : RuleMatch} (halves : m.rule.InHalves) {term : Number}
    (h : (Number.whole m.count).mul m.rule.weight = .ok term) :
    ∃ y, term = .real y ∧ Tracks y m.total := by
  obtain ⟨v, weight, hv⟩ : ∃ v : ℚ, m.rule.weight = .real (finite v) ∧ (v = 1 ∨ v = 1 / 2) := by
    rcases halves with full | half
    · exact ⟨1, full, .inl rfl⟩
    · exact ⟨1 / 2, half, .inr rfl⟩
  rw [weight] at h
  obtain ⟨z, hz, rfl⟩ := map_eq_ok_iff.1 h
  refine ⟨_, rfl, ?_⟩
  have meant : m.total = m.count * v := by rw [RuleMatch.total, weight]; rfl
  rw [meant]
  exact tracks_weighted hz hv

/-- A running total stands for the exact one after every rule. -/
theorem foldlM_tracks (halves : ∀ m ∈ found, m.rule.InHalves) (hw : w.toBinary64 = .ok x)
    (tracks : Tracks x q) (h : found.foldlM (fun sum m => do
      sum.add (← (Number.whole m.count).mul m.rule.weight)) w = .ok w') :
    ∃ y, w'.toBinary64 = .ok y ∧ Tracks y (q + (found.map RuleMatch.total).sum) := by
  induction found generalizing w x q with
  | nil =>
      obtain rfl := Except.ok.inj h
      exact ⟨x, hw, by simpa using tracks⟩
  | cons m rest ih =>
      rw [List.foldlM_cons] at h
      obtain ⟨sum, hsum, later⟩ := bind_eq_ok_iff.1 h
      obtain ⟨term, hterm, added⟩ := bind_eq_ok_iff.1 hsum
      obtain ⟨y, rfl, hy⟩ := weighted_eq (halves m List.mem_cons_self) hterm
      rw [Number.add_real hw] at added
      obtain rfl := Except.ok.inj added
      rw [List.map_cons, List.sum_cons, ← add_assoc]
      exact ih (fun m hm => halves m (List.mem_cons_of_mem _ hm)) rfl (tracks.add hy) later

/-- **A computed total stands for the exact one.** -/
theorem weightedMatches_tracks (halves : ∀ m ∈ found, m.rule.InHalves)
    (h : weightedMatches found = .ok w) :
    ∃ x, w.toBinary64 = .ok x ∧ Tracks x (found.map RuleMatch.total).sum := by
  have start : Tracks (finite 0) 0 := by simpa using tracks_half 0
  simpa using foldlM_tracks halves rfl start h

/-- Weights that are doubles have a total that a double stands for, if the matches can be counted in
doubles. -/
theorem exists_foldlM (doubles : ∀ m ∈ found, m.rule.weight.isWhole = false)
    (few : ∀ m ∈ found, (m.count : ℚ) < overflow) (hw : w.toBinary64 = .ok x) :
    ∃ w' y, found.foldlM (fun sum m => do
      sum.add (← (Number.whole m.count).mul m.rule.weight)) w = .ok w' ∧ w'.toBinary64 = .ok y := by
  induction found generalizing w x with
  | nil => exact ⟨w, x, rfl, hw⟩
  | cons m rest ih =>
      simp only [List.forall_mem_cons] at doubles few
      obtain ⟨z, hz⟩ : ∃ z, (Number.whole m.count).toBinary64 = .ok z := exists_ofWhole few.1
      obtain ⟨v, weight⟩ := Number.eq_real_of_isWhole_eq_false doubles.1
      obtain ⟨w', y, later, hy⟩ := ih doubles.2 few.2 (w := .real (x + z * v)) rfl
      refine ⟨w', y, bind_eq_ok_iff.2 ⟨_, bind_eq_ok_iff.2 ⟨.real (z * v), ?_, ?_⟩, later⟩, hy⟩
      · rw [weight]
        exact Number.mul_real hz v
      · exact Number.add_real hw _

/-! ## Tables -/

theorem mem_matchTable {m : RuleMatch} (h : m ∈ matchTable text rules) :
    m.rule ∈ rules ∧ m.spans = m.rule.pattern.spans text := by
  obtain ⟨⟨rule, place⟩, member, rfl⟩ := List.mem_map.1 (List.mem_filter.1 h).1
  exact ⟨List.fst_mem_of_mem_zipIdx member, rfl⟩

theorem exists_mem_matchTable {rule : Rule} (member : rule ∈ rules)
    (spans : rule.pattern.spans text ≠ []) : ∃ m ∈ matchTable text rules, m.rule = rule := by
  obtain ⟨place, found⟩ := List.mem_iff_getElem?.1 member
  refine ⟨⟨place, rule, rule.pattern.spans text⟩, List.mem_filter.2 ⟨?_, by simpa using spans⟩, rfl⟩
  exact List.mem_map.2 ⟨(rule, place), List.mem_zipIdx_iff_getElem?.2 found, rfl⟩

/-- What is counted of the spans of each rule adds up over the whole table, since a rule that does not
match has none. -/
theorem sum_map_matchTable {M : Type} [AddCommMonoid M] (measure : Rule → List String → M)
    (nothing : ∀ rule, measure rule [] = 0) (rules : List Rule) (text : String) :
    ((matchTable text rules).map fun m => measure m.rule m.spans).sum =
      (rules.map fun rule => measure rule (rule.pattern.spans text)).sum := by
  unfold matchTable
  generalize 0 = start
  induction rules generalizing start with
  | nil => rfl
  | cons rule rest ih =>
      rw [List.zipIdx_cons, List.map_cons, List.map_cons, List.sum_cons, ← ih (start + 1),
        List.filter_cons]
      by_cases none : rule.pattern.spans text = [] <;> simp [none, nothing]

/-- The rules that do not match weigh nothing. -/
theorem sum_matchTable (rules : List Rule) (text : String) :
    ((matchTable text rules).map RuleMatch.total).sum = weightedTotal rules text :=
  sum_map_matchTable (fun rule spans => spans.length * rule.weight.exact.toRat) (by simp) rules text

theorem matchTable_eq_nil_iff : matchTable text rules = [] ↔ ¬SomeRuleMatches rules text := by
  unfold matchTable SomeRuleMatches Pattern.occursIn
  generalize 0 = start
  induction rules generalizing start with
  | nil => simp
  | cons rule rest ih =>
      rw [List.zipIdx_cons, List.map_cons, List.filter_cons]
      by_cases none : rule.pattern.spans text = [] <;> simp [none, ih (start + 1)]

theorem findings_of_not_blank (notBlank : isBlankText text = false) :
    findings rules text = matchTable text rules := by
  simp [findings, notBlank]

theorem findings_ne_nil_iff :
    findings rules text ≠ [] ↔ isBlankText text = false ∧ SomeRuleMatches rules text := by
  cases blank : isBlankText text with
  | true => simp [findings, blank]
  | false => rw [findings_of_not_blank blank, ne_eq, matchTable_eq_nil_iff, not_not, and_iff_right rfl]

theorem mem_rules_of_mem_findings {m : RuleMatch} (h : m ∈ findings rules text) :
    m.rule ∈ rules ∧ m.spans = m.rule.pattern.spans text := by
  unfold findings at h
  split_ifs at h
  · exact absurd h List.not_mem_nil
  · exact mem_matchTable h

theorem inHalves_of_mem_findings (halves : ∀ rule ∈ rules, rule.InHalves) :
    ∀ m ∈ findings rules text, m.rule.InHalves :=
  fun _ member => halves _ (mem_rules_of_mem_findings member).1

/-- There is a total for every text of a possible length. -/
theorem exists_weightedMatches (doubles : ∀ rule ∈ rules, rule.weight.isWhole = false)
    (short : text.length < maxItems) :
    ∃ w x, weightedMatches (findings rules text) = .ok w ∧ w.toBinary64 = .ok x := by
  refine exists_foldlM (fun m member => doubles _ (mem_rules_of_mem_findings member).1) ?_
    (w := .whole 0) rfl
  intro m member
  have spans : m.count ≤ 2 ^ 65 := by
    rw [RuleMatch.count, (mem_rules_of_mem_findings member).2]
    have := m.rule.pattern.length_spans_le text
    unfold maxItems at short
    omega
  calc (m.count : ℚ) ≤ 2 ^ 65 := by exact_mod_cast spans
    _ < overflow := two_pow_lt_overflow (by norm_num)

/-- Where all weights are multiples of a unit, a total of a text lies on one side of every gap between
two neighbouring multiples. -/
theorem weightedTotal_le_or_ge {unit : ℚ} (nonneg : 0 ≤ unit)
    (multiples : ∀ rule ∈ rules, ∃ k : ℕ, rule.weight.exact.toRat = k * unit) (text : String) (k : ℕ) :
    weightedTotal rules text ≤ k * unit ∨ (k + 1) * unit ≤ weightedTotal rules text := by
  obtain ⟨n, hn⟩ : ∃ n : ℕ, weightedTotal rules text = n * unit := by
    unfold weightedTotal
    induction rules with
    | nil => exact ⟨0, by simp⟩
    | cons rule rest ih =>
        simp only [List.forall_mem_cons] at multiples
        obtain ⟨⟨k, hk⟩, others⟩ := multiples
        obtain ⟨n, hn⟩ := ih others
        refine ⟨(rule.pattern.spans text).length * k + n, ?_⟩
        rw [List.map_cons, List.sum_cons, hn, Rule.weightIn, hk]
        push_cast
        ring
  rw [hn]
  rcases Nat.lt_or_ge k n with more | few
  · exact .inr (mul_le_mul_of_nonneg_right (by exact_mod_cast more) nonneg)
  · exact .inl (mul_le_mul_of_nonneg_right (by exact_mod_cast few) nonneg)

/-- Totals of halves do not fall between two neighbouring halves. -/
theorem weightedTotal_le_or_ge_half (halves : ∀ rule ∈ rules, rule.InHalves) (text : String) (k : ℕ) :
    weightedTotal rules text ≤ k * (1 / 2) ∨ (k + 1) * (1 / 2) ≤ weightedTotal rules text := by
  refine weightedTotal_le_or_ge (by norm_num) ?_ text k
  intro rule member
  rcases halves rule member with weight | weight <;> rw [weight]
  · exact ⟨2, by norm_num [Rule.fullWeight, Number.exact, toRat]⟩
  · exact ⟨1, by norm_num [Rule.halfWeight, Number.exact, toRat]⟩

/-- Totals of full weights are whole. -/
theorem weightedTotal_le_or_ge_whole (full : ∀ rule ∈ rules, rule.weight = Rule.fullWeight)
    (text : String) (k : ℕ) : weightedTotal rules text ≤ k ∨ k + 1 ≤ weightedTotal rules text := by
  have multiples : ∀ rule ∈ rules, ∃ k : ℕ, rule.weight.exact.toRat = k * 1 := by
    intro rule member
    rw [full rule member]
    exact ⟨1, by norm_num [Rule.fullWeight, Number.exact, toRat]⟩
  simpa using weightedTotal_le_or_ge zero_le_one multiples text k

end Deliberation
