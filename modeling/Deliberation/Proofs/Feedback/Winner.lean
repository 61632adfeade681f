/-
# Proofs.Feedback.Winner -- which detection comes first, and why

The winner of a ranking leads all others (`Leads`): it lies within the tie window of the most confident
object, no object within this window is more urgent, and none as urgent is more confident.  The others
follow by falling confidence, among equals the more urgent first (`coherent_rank`).

The early exit of ranking changes nothing (`rankObjects_eq_promote`): where the runner-up lies beyond the
window, so does everything behind it, and the window holds the top alone.  Put in front is the first of the
most urgent within the window (`exists_leader`), and since these stand by falling confidence, it is the most
confident among its equals.

Where no two detections are of one kind, sorting leaves no ties, and the order in which the objects are given
is of no account (`ordered_eq_of_perm`).
-/
import Deliberation.Proofs.Feedback.Ranking
import Mathlib.Data.List.Nodup

set_option autoImplicit false

namespace Deliberation

theorem FeedbackKind.urgency_injective : Function.Injective FeedbackKind.urgency := by
  intro a b same
  cases a <;> cases b <;> first | rfl | exact absurd same (by decide)

namespace Ranking

variable {Object : Type} {said : Object → Detection} {objects others : List Object}
  {tieEpsilon : Number} {a b a' b' : Detection} {top o : Object}

/-! ## Who is within the window -/

/-- Who is within a window stays in it with a greater confidence, and under a lower top. -/
theorem Within.mono (h : Within tieEpsilon a' b') (ha : HasScore a) (hb : HasScore b)
    (ha' : HasScore a') (hb' : HasScore b') (lesser : b.confidence ≤ a.confidence)
    (greater : a.confidence ≤ a'.confidence) (falls : b'.confidence ≤ b.confidence) :
    Within tieEpsilon a b := by
  rw [within_iff ha' hb'] at h
  rw [within_iff ha hb]
  have nearer : distance a b ≤ distance a' b' :=
    Binary64.spread_le_spread ha.isFinite hb.isFinite ha'.isFinite hb'.isFinite lesser greater falls
  exact Binary64.le_trans nearer h

theorem within_self (score : HasScore a) (nonneg : .real (.finite 0) ≤ tieEpsilon) :
    Within tieEpsilon a a := by
  rw [within_iff score score, distance, Binary64.spread_self score.isFinite]
  exact nonneg

theorem mem_window_iff {all : List Object} (topScore : HasScore (said top))
    (scores : ∀ o ∈ all, HasScore (said o)) :
    o ∈ window said tieEpsilon top all ↔ o ∈ all ∧ Within tieEpsilon (said top) (said o) := by
  rw [window, List.mem_filter, decide_eq_true_eq]
  exact and_congr_right fun member => (within_iff topScore (scores o member)).symm

/-! ## Ranking without the early exit -/

/-- Where the runner-up is beyond the window, so are all behind it. -/
theorem beyond_of_runnerUp {runnerUp : Object}
    (scores : ∀ o ∈ top :: runnerUp :: others, HasScore (said o))
    (standing : (top :: runnerUp :: others).Pairwise fun a b => StandsBefore (said a) (said b))
    (beyond : ¬Within tieEpsilon (said top) (said runnerUp)) :
    ∀ o ∈ runnerUp :: others, ¬Within tieEpsilon (said top) (said o) := by
  rw [List.pairwise_cons, List.pairwise_cons] at standing
  obtain ⟨first, second, -⟩ := standing
  obtain ⟨topScore, scores⟩ := List.forall_mem_cons.1 scores
  have score : HasScore (said runnerUp) := scores runnerUp List.mem_cons_self
  intro o member near
  refine beyond (near.mono topScore score topScore (scores o member)
    (first runnerUp List.mem_cons_self).1 topScore.le_refl ?_)
  rcases List.mem_cons.1 member with rfl | later
  · exact score.le_refl
  · exact (second o later).1

section

variable [DecidableEq Object]

/-- Where nobody else is within the window, the top is put in front of itself. -/
theorem promote_window_of_alone (scores : ∀ o ∈ top :: others, HasScore (said o))
    (nonneg : .real (.finite 0) ≤ tieEpsilon)
    (beyond : ∀ o ∈ others, ¬Within tieEpsilon (said top) (said o)) :
    (promote · (top :: others)) <$> mostUrgent said (window said tieEpsilon top (top :: others)) =
      .ok (top :: others) := by
  obtain ⟨topScore, scores⟩ := List.forall_mem_cons.1 scores
  have topWithin : Number.real (distance (said top) (said top)) ≤ tieEpsilon :=
    (within_iff topScore topScore).1 (within_self topScore nonneg)
  have none : window said tieEpsilon top others = [] := by
    rw [List.eq_nil_iff_forall_not_mem]
    intro o member
    obtain ⟨inList, near⟩ := (mem_window_iff topScore scores).1 member
    exact beyond o inList near
  have alone : window said tieEpsilon top (top :: others) = [top] := by
    rw [window, List.filter_cons_of_pos (by simpa using topWithin), ← window, none]
  -- the top is within its own window, so it is none of the others
  have others_ne : ∀ o ∈ others, decide (o ≠ top) = true := by
    intro o member
    refine decide_eq_true fun same => beyond o member ?_
    rw [same]
    exact within_self topScore nonneg
  rw [alone, mostUrgent, List.foldl_nil, map_ok, promote, List.filter_cons_of_neg (by simp),
    List.filter_eq_self.2 others_ne]

/-- **The early exit changes nothing**: the most urgent within the window is put in front. -/
theorem rankObjects_eq_promote (scores : ∀ o ∈ objects, HasScore (said o))
    (nonneg : .real (.finite 0) ≤ tieEpsilon) (sorted : ordered said objects = top :: others) :
    rankObjects said objects tieEpsilon = (promote · (top :: others)) <$>
      mostUrgent said (window said tieEpsilon top (top :: others)) := by
  have scores' : ∀ o ∈ top :: others, HasScore (said o) := fun o member =>
    scores o ((mem_sorted_iff sorted).1 member)
  have standing : (top :: others).Pairwise fun a b => StandsBefore (said a) (said b) :=
    sorted ▸ pairwise_ordered scores
  cases others with
  | nil => rw [promote_window_of_alone scores' nonneg (by simp), rankObjects, sorted]
  | cons runnerUp rest =>
      rw [rankObjects_eq scores sorted]
      split_ifs with clear
      · have beyond : ¬Within tieEpsilon (said top) (said runnerUp) := by
          rw [within_iff (scores' top (by simp)) (scores' runnerUp (by simp))]
          exact Number.not_le_of_lt clear
        exact (promote_window_of_alone scores' nonneg
          (beyond_of_runnerUp scores' standing beyond)).symm
      · rfl

end

/-! ## The winner -/

/-- No object is more confident than the top one. -/
def IsTop (said : Object → Detection) (objects : List Object) (top : Object) : Prop :=
  top ∈ objects ∧ ∀ o ∈ objects, (said o).confidence ≤ (said top).confidence

/-- What a winner owes its place to: it is within the tie window of the top, nobody within the window
is more urgent, and nobody as urgent is more confident. -/
structure Leads (said : Object → Detection) (tieEpsilon : Number) (objects : List Object)
    (winner : Object) : Prop where
  within : ∀ top, IsTop said objects top → Within tieEpsilon (said top) (said winner)
  urgent : ∀ top, IsTop said objects top → ∀ o ∈ objects, Within tieEpsilon (said top) (said o) →
    (said winner).kind.urgency ≤ (said o).kind.urgency
  surest : ∀ o ∈ objects, (said o).kind.urgency = (said winner).kind.urgency →
    (said o).confidence ≤ (said winner).confidence

/-- Every top has the same window. -/
theorem IsTop.within {top' : Object} (scores : ∀ o ∈ objects, HasScore (said o))
    (htop : IsTop said objects top) (htop' : IsTop said objects top') (member : o ∈ objects)
    (h : Within tieEpsilon (said top) (said o)) : Within tieEpsilon (said top') (said o) :=
  h.mono (scores top' htop'.1) (scores o member) (scores top htop.1) (scores o member)
    (htop'.2 o member) (htop.2 top' htop'.1) (scores o member).le_refl

theorem isTop_head (scores : ∀ o ∈ objects, HasScore (said o))
    (sorted : ordered said objects = top :: others) : IsTop said objects top := by
  have inList {o : Object} : o ∈ top :: others ↔ o ∈ objects := mem_sorted_iff sorted
  have topScore := scores top (inList.1 List.mem_cons_self)
  have standing := pairwise_ordered scores
  rw [sorted, List.pairwise_cons] at standing
  refine ⟨inList.1 List.mem_cons_self, fun o member => ?_⟩
  rcases List.mem_cons.1 (inList.2 member) with rfl | later
  · exact topScore.le_refl
  · exact (standing.1 o later).1

/-- Whoever is within the window is less urgent than its leader, is the leader, or stands behind it and
is no more urgent. -/
theorem compare_leader {before after : List Object} {winner : Object}
    (scores : ∀ o ∈ top :: others, HasScore (said o))
    (standing : (top :: others).Pairwise fun a b => StandsBefore (said a) (said b))
    (split : window said tieEpsilon top (top :: others) = before ++ winner :: after)
    (ahead : ∀ o ∈ before, (said winner).kind.urgency < (said o).kind.urgency)
    (behind : ∀ o ∈ after, (said winner).kind.urgency ≤ (said o).kind.urgency)
    (member : o ∈ top :: others) (near : Within tieEpsilon (said top) (said o)) :
    (said winner).kind.urgency < (said o).kind.urgency ∨ o = winner ∨
      (said winner).kind.urgency ≤ (said o).kind.urgency ∧ StandsBefore (said winner) (said o) := by
  have windowStanding : (window said tieEpsilon top (top :: others)).Pairwise
      fun a b => StandsBefore (said a) (said b) := standing.sublist List.filter_sublist
  rw [split] at windowStanding
  obtain ⟨-, fromWinner, -⟩ := List.pairwise_append.1 windowStanding
  have inside : o ∈ window said tieEpsilon top (top :: others) :=
    (mem_window_iff (scores top List.mem_cons_self) scores).2 ⟨member, near⟩
  rw [split, List.mem_append, List.mem_cons] at inside
  rcases inside with earlier | same | later
  · exact .inl (ahead o earlier)
  · exact .inr (.inl same)
  · exact .inr (.inr ⟨behind o later, (List.pairwise_cons.1 fromWinner).1 o later⟩)

/-- The leader of the window leads all objects. -/
theorem leads_of_leader {before after : List Object} {winner : Object}
    (scores : ∀ o ∈ objects, HasScore (said o)) (sorted : ordered said objects = top :: others)
    (split : window said tieEpsilon top (top :: others) = before ++ winner :: after)
    (ahead : ∀ o ∈ before, (said winner).kind.urgency < (said o).kind.urgency)
    (behind : ∀ o ∈ after, (said winner).kind.urgency ≤ (said o).kind.urgency) :
    Leads said tieEpsilon objects winner := by
  have inList {o : Object} : o ∈ top :: others ↔ o ∈ objects := mem_sorted_iff sorted
  have scores' : ∀ o ∈ top :: others, HasScore (said o) := fun o member => scores o (inList.1 member)
  have topScore : HasScore (said top) := scores' top List.mem_cons_self
  have htop := isTop_head scores sorted
  have compare {o : Object} (member : o ∈ objects) (near : Within tieEpsilon (said top) (said o)) :=
    compare_leader scores' (sorted ▸ pairwise_ordered scores) split ahead behind
      (inList.2 member) near
  have chosen : winner ∈ window said tieEpsilon top (top :: others) := by simp [split]
  obtain ⟨placed, near⟩ := (mem_window_iff topScore scores').1 chosen
  have hwinner : winner ∈ objects := inList.1 placed
  have winnerScore : HasScore (said winner) := scores winner hwinner
  refine ⟨fun top' htop' => htop.within scores htop' hwinner near, ?_, ?_⟩
  · intro top' htop' o member near'
    rcases compare member (htop'.within scores htop member near') with less | rfl | ⟨le, -⟩
    · exact less.le
    · exact le_rfl
    · exact le
  · intro o member equal
    have score : HasScore (said o) := scores o member
    by_contra more
    -- more confident than the winner, it is in the window as well
    have less : (said winner).confidence ≤ (said o).confidence := by
      rw [score.le_iff winnerScore] at more
      exact (winnerScore.le_iff score).2 (not_le.1 more).le
    have near' : Within tieEpsilon (said top) (said o) :=
      near.mono topScore score topScore winnerScore (htop.2 o member)
        topScore.le_refl less
    rcases compare member near' with later | rfl | ⟨-, stands⟩
    · exact absurd later (by simp [equal])
    · exact more score.le_refl
    · exact more stands.1

/-- **The winner leads, and the others keep their order behind it.** -/
theorem exists_winner [DecidableEq Object] (scores : ∀ o ∈ objects, HasScore (said o))
    (nonneg : .real (.finite 0) ≤ tieEpsilon) (sorted : ordered said objects = top :: others) :
    ∃ winner rest, rankObjects said objects tieEpsilon = .ok (winner :: rest) ∧
      Leads said tieEpsilon objects winner ∧
      rest.Pairwise fun a b => StandsBefore (said a) (said b) := by
  have scores' : ∀ o ∈ top :: others, HasScore (said o) := fun o member =>
    scores o ((mem_sorted_iff sorted).1 member)
  have topScore : HasScore (said top) := scores' top List.mem_cons_self
  have topInside : top ∈ window said tieEpsilon top (top :: others) :=
    (mem_window_iff topScore scores').2 ⟨List.mem_cons_self, within_self topScore nonneg⟩
  cases inside : window said tieEpsilon top (top :: others) with
  | nil => simp [inside] at topInside
  | cons first rest =>
      obtain ⟨before, winner, after, split, chosen, ahead, behind⟩ := exists_leader said first rest
      have standing : (top :: others).Pairwise fun a b => StandsBefore (said a) (said b) :=
        sorted ▸ pairwise_ordered scores
      refine ⟨winner, (top :: others).filter (· ≠ winner), ?_,
        leads_of_leader scores sorted (inside.trans split) ahead behind,
        standing.sublist List.filter_sublist⟩
      rw [rankObjects_eq_promote scores nonneg sorted, inside, chosen, map_ok, promote]

/-! ## The order of the input -/

/-- Objects that say different kinds are put in one order only. -/
theorem ordered_eq_of_perm (scores : ∀ o ∈ objects, HasScore (said o))
    (kinds : (objects.map fun o => (said o).kind).Nodup) (h : others.Perm objects) :
    ordered said others = ordered said objects := by
  have scores' : ∀ o ∈ others, HasScore (said o) := fun o member => scores o (h.mem_iff.1 member)
  refine List.Perm.eq_of_pairwise ?_ (pairwise_ordered scores') (pairwise_ordered scores)
    ((ordered_perm said others).trans (h.trans (ordered_perm said objects).symm))
  intro a b ha hb first second
  have ha' := h.mem_iff.1 ((mem_sorted_iff rfl).1 ha)
  have hb' := (mem_sorted_iff rfl).1 hb
  have same : (said a).kind = (said b).kind :=
    FeedbackKind.urgency_injective (le_antisymm (first.2 second.1) (second.2 first.1))
  exact List.inj_on_of_nodup_map kinds ha' hb' same

variable [DecidableEq Object]

theorem rankObjects_congr (h : ordered said others = ordered said objects) :
    rankObjects said others tieEpsilon = rankObjects said objects tieEpsilon := by
  rw [rankObjects, rankObjects, h]

/-- **Rankings are coherent.**  Objects that say detections whose confidences are scores are ranked, and
different ones without loss: a winner that leads, and the others in their order behind it.  Where all kinds
are different, the order in which the objects are given does not matter. -/
theorem coherent_rank (scores : ∀ o ∈ objects, (said o).confidence.IsScore)
    (nonneg : .real (.finite 0) ≤ tieEpsilon) :
    ∃ ranked, rankObjects said objects tieEpsilon = .ok ranked ∧ Keeps objects ranked ∧
      (∀ winner rest, ranked = winner :: rest → (∃ top, IsTop said objects top) ∧
        Leads said tieEpsilon objects winner ∧
        rest.Pairwise fun a b => StandsBefore (said a) (said b)) ∧
      ((objects.map fun o => (said o).kind).Nodup → ∀ shuffled, shuffled.Perm objects →
        rankObjects said shuffled tieEpsilon = .ok ranked) := by
  obtain ⟨ranked, hranked⟩ := exists_rankObjects scores (Binary64.isNaN_of_le_right nonneg)
  have kept := rankObjects_keeps hranked
  refine ⟨ranked, hranked, kept, ?_, ?_⟩
  · intro winner rest split
    match sorted : ordered said objects with
    | [] =>
        have member : winner ∈ [] := (mem_sorted_iff sorted).2 ((kept.mem_iff winner).1 (by simp [split]))
        cases member
    | top :: others =>
        obtain ⟨winner', rest', hranked', leads, standing⟩ := exists_winner scores nonneg sorted
        rw [hranked, split] at hranked'
        obtain ⟨rfl, rfl⟩ := List.cons.inj (Except.ok.inj hranked')
        exact ⟨⟨top, isTop_head scores sorted⟩, leads, standing⟩
  · intro kinds shuffled h
    rw [rankObjects_congr (ordered_eq_of_perm scores kinds h), hranked]

/-- A tie window of five hundredths. -/
def fiveHundredths : Number := .real (.ofDecimal 5 2)

/-- Two objects within the window of the last, which says a bias. -/
def threeSaid : Fin 3 → Detection
  | 0 => .ofHundredths .unsourced 79
  | 1 => .ofHundredths .fallacy 76
  | 2 => .ofHundredths .bias 80

theorem threeSaid_coherent :
    (∀ o ∈ [0, 1, 2], (threeSaid o).confidence.IsScore) ∧ .real (.finite 0) ≤ fiveHundredths ∧
      ([0, 1, 2].map fun o => (threeSaid o).kind).Nodup ∧
      rankObjects threeSaid [0, 1, 2] fiveHundredths = .ok [1, 2, 0] ∧
      [1, 2, 0].Perm [(0 : Fin 3), 1, 2] ∧ Leads threeSaid fiveHundredths [0, 1, 2] 1 ∧
      [2, 0].Pairwise (fun a b => StandsBefore (threeSaid a) (threeSaid b)) ∧
      rankObjects threeSaid [2, 1, 0] fiveHundredths = .ok [1, 2, 0] := by
  have scores : ∀ o ∈ [0, 1, 2], (threeSaid o).confidence.IsScore := by
    simp only [List.forall_mem_cons]
    exact ⟨by decide +kernel, by decide +kernel, by decide +kernel, by simp⟩
  have nonneg : .real (.finite 0) ≤ fiveHundredths := by decide +kernel
  have kinds : ([0, 1, 2].map fun o => (threeSaid o).kind).Nodup := by decide
  obtain ⟨ranked, hranked, kept, wins, unshuffled⟩ := coherent_rank scores nonneg
  have first : rankObjects threeSaid [0, 1, 2] fiveHundredths = .ok [1, 2, 0] := by decide +kernel
  obtain rfl := Except.ok.inj (hranked.symm.trans first)
  obtain ⟨-, leads, standing⟩ := wins _ _ rfl
  exact ⟨scores, nonneg, kinds, first, kept.perm (by decide), leads, standing,
    unshuffled kinds [2, 1, 0] (List.reverse_perm [0, 1, 2])⟩

/-- A bias surer by one than a fallacy and an inflammatory remark.  As doubles, all three are alike. -/
def vastSaid : Fin 3 → Detection
  | 0 => { Detection.ofHundredths .bias 0 with confidence := .whole (2 ^ 53 + 1) }
  | 1 => { Detection.ofHundredths .fallacy 0 with confidence := .whole (2 ^ 53) }
  | 2 => { Detection.ofHundredths .inflammatory 0 with confidence := .real (.finite (2 ^ 53)) }

/-- Finite confidences are not enough.  One object that is listed twice stands in its ranking once.  And
where whole numbers beyond the exact doubles stand beside a double, the first of a ranking need not lead: the
distance to the runner-up is one, that to the more urgent object behind it is rounded to nothing. -/
theorem finite_not_enough :
    .real (.finite 0) ≤ fiveHundredths ∧
    (rankObjects (fun _ : Unit => .ofHundredths .bias 80) [(), ()] fiveHundredths = .ok [()] ∧
      (Detection.ofHundredths .bias 80).confidence.exact.isFinite = true ∧ ¬[()].Perm [(), ()]) ∧
    rankObjects vastSaid [0, 1, 2] fiveHundredths = .ok [0, 1, 2] ∧
      (∀ o ∈ [0, 1, 2], (vastSaid o).confidence.exact.isFinite = true) ∧
      ¬Leads vastSaid fiveHundredths [0, 1, 2] 0 := by
  refine ⟨by decide +kernel, ⟨by decide +kernel, by decide +kernel, by decide⟩, by decide +kernel, ?_,
    fun leads => ?_⟩
  · simp only [List.forall_mem_cons]
    exact ⟨rfl, rfl, rfl, by simp⟩
  · have top : IsTop vastSaid [0, 1, 2] 0 := by
      refine ⟨List.mem_cons_self, ?_⟩
      simp only [List.forall_mem_cons]
      exact ⟨by decide +kernel, by decide +kernel, by decide +kernel, by simp⟩
    have near : Within fiveHundredths (vastSaid 0) (vastSaid 2) :=
      ⟨.real (.finite 0), by decide +kernel, by decide +kernel⟩
    exact absurd (leads.urgent 0 top 2 (by decide) near) (by decide)

end Ranking

end Deliberation
