/-
# Proofs.Feedback.Ranking -- ranking loses nothing

A ranking is the sorted list, or a winner in front of all others (`rankObjects_cases`).  Different objects
are all kept (`Keeps.perm`); of an object that is listed more than once copies are lost only if it wins
(`Keeps.count`).  So detections of which each is an object of its own come back as they were given
(`rank_perm`).  Where the confidences are scores, the sorted objects stand by falling confidence and, among
equals, by urgency (`pairwise_ordered`); distances have answers, so that ranking comes down to one
comparison and one choice (`rankObjects_eq`).  It has an answer under every tie window that is not undefined
(`exists_rankObjects`): if the runner-up is not beyond the window, it is in it, and there is someone to put
in front.
-/
import Deliberation.Feedback.Ranking
import Deliberation.Proofs.Fallible
import Deliberation.Proofs.Number.Scores

set_option autoImplicit false

namespace Deliberation

/-- A detection in hundredths of certainty that says nothing else. -/
def Detection.ofHundredths (kind : FeedbackKind) (n : ℕ) : Detection where
  kind
  subtype := none
  matchCount := 1
  confidence := .real (.ofDecimal n 2)
  reasoning := ""
  suggestion := ""
  resources := []
  excerpts := []

namespace Ranking

variable {Object : Type} {said : Object → Detection} {objects ranked tied : List Object}
  {tieEpsilon : Number} {a b : Detection} {top runnerUp winner : Object}

theorem ordered_perm (said : Object → Detection) (objects : List Object) :
    (ordered said objects).Perm objects := sortBy_perm _ objects

theorem mem_sorted_iff {sorted : List Object} {o : Object} (h : ordered said objects = sorted) :
    o ∈ sorted ↔ o ∈ objects := h ▸ (ordered_perm said objects).mem_iff

/-! ## The most urgent -/

/-- The most urgent is more urgent than all before it, and no less urgent than all behind it. -/
theorem exists_leader (said : Object → Detection) (first : Object) (rest : List Object) :
    ∃ before leader after, first :: rest = before ++ leader :: after ∧
      mostUrgent said (first :: rest) = .ok leader ∧
      (∀ o ∈ before, (said leader).kind.urgency < (said o).kind.urgency) ∧
      ∀ o ∈ after, (said leader).kind.urgency ≤ (said o).kind.urgency := by
  suffices h : ∃ before leader after, first :: rest = before ++ leader :: after ∧
      rest.foldl (fun leader o =>
        if (said o).kind.urgency < (said leader).kind.urgency then o else leader) first = leader ∧
      (∀ o ∈ before, (said leader).kind.urgency < (said o).kind.urgency) ∧
      ∀ o ∈ after, (said leader).kind.urgency ≤ (said o).kind.urgency by
    obtain ⟨before, leader, after, split, chosen, ahead, behind⟩ := h
    exact ⟨before, leader, after, split, by rw [mostUrgent, chosen], ahead, behind⟩
  -- on the objects seen last: each either takes the lead from all before it, or falls in behind
  induction rest using List.reverseRecOn with
  | nil => exact ⟨[], first, [], rfl, rfl, by simp, by simp⟩
  | append_singleton rest o ih =>
      obtain ⟨before, leader, after, split, chosen, ahead, behind⟩ := ih
      rw [List.foldl_append, chosen, List.foldl_cons, List.foldl_nil]
      split_ifs with takes
      · refine ⟨first :: rest, o, [], by simp, rfl, ?_, by simp⟩
        intro earlier member
        rw [split, List.mem_append, List.mem_cons] at member
        rcases member with member | rfl | member
        · exact takes.trans (ahead earlier member)
        · exact takes
        · exact takes.trans_le (behind earlier member)
      · refine ⟨before, leader, after ++ [o], ?_, rfl, ahead, ?_⟩
        · rw [← List.cons_append, split]
          simp
        · intro later member
          rw [List.mem_append, List.mem_singleton] at member
          rcases member with member | rfl
          · exact behind later member
          · exact not_lt.1 takes

theorem exists_mostUrgent (said : Object → Detection) (some : tied ≠ []) :
    ∃ winner ∈ tied, mostUrgent said tied = .ok winner := by
  cases tied with
  | nil => exact absurd rfl some
  | cons first rest =>
      obtain ⟨before, leader, after, split, chosen, -⟩ := exists_leader said first rest
      exact ⟨leader, by simp [split], chosen⟩

theorem mem_of_mostUrgent (h : mostUrgent said tied = .ok winner) : winner ∈ tied := by
  cases tied with
  | nil => cases h
  | cons first rest =>
      obtain ⟨chosen, member, same⟩ := exists_mostUrgent said (List.cons_ne_nil first rest)
      exact Except.ok.inj (h.symm.trans same) ▸ member

/-! ## What a ranking keeps -/

section

variable [DecidableEq Object]

theorem count_promote (winner o : Object) (objects : List Object) :
    (promote winner objects).count o = if o = winner then 1 else objects.count o := by
  split_ifs with same
  · have none : winner ∉ objects.filter (· ≠ winner) := by simp
    rw [same, promote, List.count_cons_self, List.count_eq_zero_of_not_mem none]
  · rw [promote, List.count_cons_of_ne (Ne.symm same), List.count_filter (by simpa using same)]

theorem promote_perm (different : objects.Nodup) (member : winner ∈ objects) :
    (promote winner objects).Perm objects := by
  have others : objects.filter (· ≠ winner) = objects.erase winner := by
    rw [different.erase_eq_filter]
    exact List.filter_congr fun o _ => by simp [bne, Bool.beq_eq_decide_eq]
  rw [promote, others]
  exact (List.perm_cons_erase member).symm

/-- A ranking is the sorted list, or its winner in front of all others. -/
theorem rankObjects_cases (h : rankObjects said objects tieEpsilon = .ok ranked) :
    ranked = ordered said objects ∨
      ∃ winner ∈ objects, ranked = promote winner (ordered said objects) := by
  unfold rankObjects at h
  split at h
  · rename_i top runnerUp rest sorted
    obtain ⟨distance, -, h⟩ := bind_eq_ok_iff.1 h
    split_ifs at h
    · exact .inl (sorted ▸ (Except.ok.inj h).symm)
    · obtain ⟨tied, kept, h⟩ := bind_eq_ok_iff.1 h
      obtain ⟨winner, chosen, rfl⟩ := map_eq_ok_iff.1 h
      have member := (sublist_of_filterM kept).subset (mem_of_mostUrgent chosen)
      exact .inr ⟨winner, (mem_sorted_iff sorted).1 member, by rw [sorted]⟩
  · exact .inl (Except.ok.inj h).symm

/-- What a ranking keeps of a list.  Different objects are all kept.  Of an object that is listed more than
once, further copies are lost only if it is the first of the ranking. -/
structure Keeps (objects ranked : List Object) : Prop where
  perm : objects.Nodup → ranked.Perm objects
  mem_iff : ∀ o, o ∈ ranked ↔ o ∈ objects
  count : ∀ o, ranked.head? ≠ some o → ranked.count o = objects.count o

theorem Keeps.of_perm (h : ranked.Perm objects) : Keeps objects ranked where
  perm _ := h
  mem_iff _ := h.mem_iff
  count o _ := h.count_eq o

/-- **Ranking loses nothing and adds nothing**, but for the further copies of its winner. -/
theorem rankObjects_keeps (h : rankObjects said objects tieEpsilon = .ok ranked) :
    Keeps objects ranked := by
  have sorted := ordered_perm said objects
  rcases rankObjects_cases h with rfl | ⟨winner, member, rfl⟩
  · exact .of_perm sorted
  refine ⟨fun different => ?_, fun o => ?_, fun o beaten => ?_⟩
  · exact (promote_perm (sorted.nodup_iff.2 different) (sorted.mem_iff.2 member)).trans sorted
  · rw [← sorted.mem_iff, ← List.count_pos_iff, count_promote, ← List.count_pos_iff]
    split_ifs with same
    · simp [same, sorted.count_eq, List.count_pos_iff, member]
    · rfl
  · have other : o ≠ winner := fun same => beaten (by rw [same]; rfl)
    rw [count_promote, if_neg other, sorted.count_eq]

end

/-- **Detections that are objects of their own come back as they were given.** -/
theorem rank_perm {detections ranked : List Detection} (h : rank detections tieEpsilon = .ok ranked) :
    ranked.Perm detections := by
  obtain ⟨objects, answer, rfl⟩ := map_eq_ok_iff.1 h
  have kept := (rankObjects_keeps answer).perm (List.nodup_finRange _)
  have all : (List.finRange detections.length).map detections.get = detections :=
    List.map_getElem_finRange detections
  exact (kept.map detections.get).trans (.of_eq all)

/-! ## The order by confidence -/

/-- The confidence of a detection is a score. -/
def HasScore (d : Detection) : Prop := d.confidence.IsScore

/-- The first detection rightly stands before the second: it is no less confident, and where they are
as confident as each other, no less urgent. -/
def StandsBefore (a b : Detection) : Prop :=
  b.confidence ≤ a.confidence ∧ (a.confidence ≤ b.confidence → a.kind.urgency ≤ b.kind.urgency)

theorem HasScore.isNaN (h : HasScore a) : a.confidence.exact.isNaN = false :=
  Binary64.isNaN_of_isFinite h.isFinite

theorem HasScore.le_iff (ha : HasScore a) (hb : HasScore b) :
    a.confidence ≤ b.confidence ↔ a.confidence.exact.toRat ≤ b.confidence.exact.toRat :=
  Binary64.le_iff_of_isFinite ha.isFinite hb.isFinite

theorem HasScore.le_refl (h : HasScore a) : a.confidence ≤ a.confidence :=
  Binary64.le_refl h.isNaN

theorem precedes_iff (ha : HasScore a) (hb : HasScore b) : precedes a b = true ↔
    b.confidence.exact.toRat < a.confidence.exact.toRat ∨
      a.confidence.exact.toRat = b.confidence.exact.toRat ∧ a.kind.urgency < b.kind.urgency := by
  have less : b.confidence < a.confidence ↔
      b.confidence.exact.toRat < a.confidence.exact.toRat :=
    Binary64.lt_iff_of_isFinite hb.isFinite ha.isFinite
  simp only [precedes, Bool.or_eq_true, Bool.and_eq_true, decide_eq_true_eq, less, ha.le_iff hb,
    hb.le_iff ha, ← le_antisymm_iff]

theorem precedes_eq_false_iff (ha : HasScore a) (hb : HasScore b) :
    precedes b a = false ↔ StandsBefore a b := by
  rw [← Bool.not_eq_true, precedes_iff hb ha, StandsBefore, ha.le_iff hb, hb.le_iff ha]
  constructor
  · intro h
    push Not at h
    exact ⟨h.1, fun le => h.2 (le_antisymm h.1 le)⟩
  · rintro ⟨le, urgent⟩ (less | ⟨same, more⟩)
    · exact absurd le (not_le.2 less)
    · exact absurd (urgent same.ge) (not_le.2 more)

/-- Among scores, precedence orders all detections but for ties. -/
theorem strict_precedes : Strict fun a b : Subtype HasScore => precedes a b where
  irrefl a := by
    have none : ¬precedes a a = true := by simp [precedes_iff a.2 a.2]
    simpa using none
  between a b c h := by
    rw [precedes_iff a.2 c.2] at h
    rw [precedes_iff a.2 b.2, precedes_iff b.2 c.2]
    rcases lt_trichotomy a.1.confidence.exact.toRat b.1.confidence.exact.toRat with less | same | more
    · refine .inr (.inl ?_)
      rcases h with fell | ⟨same, -⟩
      · exact fell.trans less
      · exact same ▸ less
    · rcases h with fell | ⟨same', urgent⟩
      · exact .inr (.inl (same ▸ fell))
      · rcases Nat.lt_or_ge a.1.kind.urgency b.1.kind.urgency with first | second
        · exact .inl (.inr ⟨same, first⟩)
        · exact .inr (.inr ⟨same ▸ same', second.trans_lt urgent⟩)
    · exact .inl (.inl more)
  trans a b c h h' := by
    rw [precedes_iff a.2 b.2] at h
    rw [precedes_iff b.2 c.2] at h'
    rw [precedes_iff a.2 c.2]
    rcases h with fell | ⟨same, urgent⟩ <;> rcases h' with fell' | ⟨same', urgent'⟩
    · exact .inl (fell'.trans fell)
    · exact .inl (same' ▸ fell)
    · exact .inl (same ▸ fell')
    · exact .inr ⟨same.trans same', urgent.trans urgent'⟩

/-- The sorted objects stand as they should. -/
theorem pairwise_ordered (scores : ∀ o ∈ objects, HasScore (said o)) :
    (ordered said objects).Pairwise fun a b => StandsBefore (said a) (said b) := by
  have sorted := pairwise_sortBy_of_mem strict_precedes (List.forall_mem_map.2 scores)
  rw [sortBy_map, List.pairwise_map] at sorted
  refine sorted.imp_of_mem ?_
  intro a b ha hb h
  have member {o : Object} (ho : o ∈ ordered said objects) : HasScore (said o) :=
    scores o ((mem_sorted_iff rfl).1 ho)
  exact (precedes_eq_false_iff (member ha) (member hb)).1 h

/-! ## The tie window -/

/-- The second detection is within the tie window of the first. -/
def Within (tieEpsilon : Number) (top d : Detection) : Prop :=
  ∃ g, gap top.confidence d.confidence = .ok g ∧ g ≤ tieEpsilon

/-- The distance of two confidences, to nine places. -/
def distance (a b : Detection) : Binary64 := .spread 9 a.confidence.exact b.confidence.exact

theorem exists_gap (ha : HasScore a) (hb : HasScore b) :
    ∃ g, gap a.confidence b.confidence = .ok g ∧ g.exact = distance a b := by
  obtain ⟨d, difference, exact, rounded⟩ := Number.exists_sub ha hb 9
  exact ⟨d.roundPlaces 9, map_eq_ok_iff.2 ⟨d, difference, rfl⟩, by rw [rounded, exact]; rfl⟩

theorem within_iff (ha : HasScore a) (hb : HasScore b) :
    Within tieEpsilon a b ↔ Number.real (distance a b) ≤ tieEpsilon := by
  obtain ⟨g, answer, exact⟩ := exists_gap ha hb
  have same : g ≤ tieEpsilon ↔ Number.real (distance a b) ≤ tieEpsilon := by
    rw [← exact]
    exact Iff.rfl
  rw [Within, answer, ← same]
  exact ⟨fun ⟨g', equal, le⟩ => Except.ok.inj equal ▸ le, fun le => ⟨g, rfl, le⟩⟩

/-- The objects within the window of a top. -/
def window (said : Object → Detection) (tieEpsilon : Number) (top : Object) (all : List Object) :
    List Object :=
  all.filter fun o => decide (Number.real (distance (said top) (said o)) ≤ tieEpsilon)

theorem filterM_window {all : List Object} (topScore : HasScore (said top))
    (scores : ∀ o ∈ all, HasScore (said o)) :
    (all.filterM fun o => (fun g => decide (g ≤ tieEpsilon)) <$>
      (liftM (gap (said top).confidence (said o).confidence) : Except Fault Number)) =
        .ok (window said tieEpsilon top all) := by
  refine filterM_eq_ok fun o member => ?_
  obtain ⟨g, answer, exact⟩ := exists_gap topScore (scores o member)
  rw [lift_eq_ok_iff.2 answer, map_ok, ← exact]
  rfl

section

variable [DecidableEq Object]

/-- **Ranking is one comparison and one choice**: the distances have answers. -/
theorem rankObjects_eq (scores : ∀ o ∈ objects, HasScore (said o)) {rest : List Object}
    (sorted : ordered said objects = top :: runnerUp :: rest) :
    rankObjects said objects tieEpsilon =
      if tieEpsilon < .real (distance (said top) (said runnerUp)) then .ok (top :: runnerUp :: rest)
      else (promote · (top :: runnerUp :: rest)) <$>
        mostUrgent said (window said tieEpsilon top (top :: runnerUp :: rest)) := by
  have member {o : Object} (ho : o ∈ top :: runnerUp :: rest) : HasScore (said o) :=
    scores o ((mem_sorted_iff sorted).1 ho)
  have topScore : HasScore (said top) := member List.mem_cons_self
  have secondScore : HasScore (said runnerUp) := member (by simp)
  obtain ⟨g, answer, exact⟩ := exists_gap topScore secondScore
  have compared : tieEpsilon < g ↔ tieEpsilon < .real (distance (said top) (said runnerUp)) := by
    rw [← exact]
    exact Iff.rfl
  unfold rankObjects
  rw [sorted]
  simp only [lift_eq_ok_iff.2 answer, ok_bind, compared]
  split_ifs
  · rfl
  · exact congrArg
      (· >>= fun tied => (promote · (top :: runnerUp :: rest)) <$> mostUrgent said tied)
      (filterM_window topScore fun o ho => member ho)

/-- **Objects with scores are ranked.** -/
theorem exists_rankObjects (scores : ∀ o ∈ objects, HasScore (said o))
    (defined : tieEpsilon.exact.isNaN = false) :
    ∃ ranked, rankObjects said objects tieEpsilon = .ok ranked := by
  match sorted : ordered said objects with
  | [] => exact ⟨[], by rw [rankObjects, sorted]⟩
  | [o] => exact ⟨[o], by rw [rankObjects, sorted]⟩
  | top :: runnerUp :: rest =>
      rw [rankObjects_eq scores sorted]
      split_ifs with clear
      · exact ⟨_, rfl⟩
      · have inList {o : Object} (ho : o ∈ top :: runnerUp :: rest) : o ∈ objects :=
          (mem_sorted_iff sorted).1 ho
        have apart : (distance (said top) (said runnerUp)).isNaN = false :=
          Binary64.isNaN_spread (scores top (inList (by simp))).isFinite
            (scores runnerUp (inList (by simp))).isFinite 9
        -- the runner-up is not beyond the window, so it is in it
        have inside : runnerUp ∈ window said tieEpsilon top (top :: runnerUp :: rest) := by
          refine List.mem_filter.2 ⟨by simp, decide_eq_true ?_⟩
          exact (Number.not_lt_iff (b := .real (distance (said top) (said runnerUp))) defined apart).1 clear
        obtain ⟨winner, -, urgent⟩ := exists_mostUrgent said (List.ne_nil_of_mem inside)
        exact ⟨_, map_eq_ok_iff.2 ⟨winner, urgent, rfl⟩⟩

end

/-- **Detections with scores are ranked.** -/
theorem exists_rank {detections : List Detection} (scores : ∀ d ∈ detections, HasScore d)
    (defined : tieEpsilon.exact.isNaN = false) :
    ∃ ranked, rank detections tieEpsilon = .ok ranked := by
  have scores' : ∀ i ∈ List.finRange detections.length, HasScore (detections.get i) :=
    fun i _ => scores _ (detections.get_mem i)
  obtain ⟨objects, answer⟩ := exists_rankObjects scores' defined
  exact ⟨_, map_eq_ok_iff.2 ⟨objects, answer, rfl⟩⟩

end Ranking

end Deliberation
