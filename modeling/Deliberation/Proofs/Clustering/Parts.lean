/-
# Proofs.Clustering.Parts -- merging inside one part of the items

Where some of the items are not alike to any of the others (`Part`), merging treats them as it would
by themselves.  `Restricts` is the simulation: the clusters of the whole that lie inside the part are the
clusters of the part, with their sums and averages, and the others hold none of its items.  A merge
inside is a merge of the part (`merge_inside`), one outside leaves the part as it is (`merge_outside`),
and one across does not happen, since its average is zero and ends under the threshold.
-/
import Deliberation.Proofs.Clustering.Averages
import Deliberation.Proofs.Interleaving
import Mathlib.Data.List.Sort

set_option autoImplicit false
set_option linter.unusedSectionVars false

namespace Deliberation

open Binary64

/-- Some of the items in their order, no more and no less alike than in the whole, and not alike at all to
any other. -/
structure Part {m n : ℕ} (sim : Grid Binary64 n) (part : Grid Binary64 m) where
  place : Fin m ↪o Fin n
  same : ∀ i k, sim (place i) (place k) = part i k
  apart : ∀ i x, (∀ k, place k ≠ x) → sim (place i) x = finite 0

theorem Part.bounded {m n : ℕ} {sim : Grid Binary64 n} {part : Grid Binary64 m} (p : Part sim part)
    (h : sim.Bounded) : part.Bounded where
  symmetric i k := by rw [← p.same, ← p.same, h.symmetric]
  unit i k := p.same i k ▸ h.unit _ _
  few := by
    have le : m ≤ n := by simpa using Fintype.card_le_of_injective p.place p.place.injective
    exact le.trans_lt h.few

/-- The place is that of an item of the part. -/
def inside {m n : ℕ} (e : Fin m ↪o Fin n) (x : Fin n) : Bool := decide (∃ i, e i = x)

section Inside

variable {m n : ℕ} {e : Fin m ↪o Fin n} {x : Fin n}

theorem inside_iff : inside e x = true ↔ ∃ i, e i = x := decide_eq_true_iff

theorem not_inside_iff : inside e x = false ↔ ∀ i, e i ≠ x := by
  rw [inside, decide_eq_false_iff_not, not_exists]

theorem ne_of_not_inside (outside : inside e x = false) (i : Fin m) : e i ≠ x :=
  not_inside_iff.1 outside i

/-- The places of the part, in order. -/
theorem map_finRange (e : Fin m ↪o Fin n) :
    (List.finRange m).map e = (List.finRange n).filter (inside e) := by
  have left : ((List.finRange m).map e).Pairwise (· < ·) := by
    rw [List.pairwise_map]
    exact (List.pairwise_lt_finRange m).imp e.lt_iff_lt.2
  have right : ((List.finRange n).filter (inside e)).Pairwise (· < ·) :=
    (List.pairwise_lt_finRange n).filter _
  refine List.Perm.eq_of_pairwise (fun a b _ _ ab ba => absurd ab ba.asymm) left right ?_
  rw [List.perm_ext_iff_of_nodup (left.imp ne_of_lt) (right.imp ne_of_lt)]
  intro x
  simp [inside_iff]

end Inside

/-- A merge of the part as one of the whole. -/
def Merge.at {α : Type} {m n : ℕ} (e : Fin m ↪o Fin n) (b : Merge α m) : Merge α n :=
  ⟨e b.survivor, e b.absorbed, b.average⟩

/-- Both clusters of the merge go by items of the part. -/
def Merge.isInside {α : Type} {m n : ℕ} (e : Fin m ↪o Fin n) (b : Merge α n) : Bool :=
  inside e b.survivor && inside e b.absorbed

namespace Clusters

section Merging

variable {α : Type} [Averaging α] {m n : ℕ} {e : Fin m ↪o Fin n} {c : Clusters α n}
  {d : Clusters α m}

/-- The clusters of the whole that lie inside the part are those of the part. -/
structure Restricts (e : Fin m ↪o Fin n) (c : Clusters α n) (d : Clusters α m) : Prop where
  live : d.live.map e = c.live.filter (inside e)
  members : ∀ i, c.members.get (e i) = (d.members.get i).map e
  others : ∀ x, inside e x = false → ∀ y ∈ c.members.get x, inside e y = false
  sums : ∀ i k, c.sums (e i) (e k) = d.sums i k
  averages : ∀ i k, c.averages (e i) (e k) = d.averages i k

theorem restricts_singletons {sim : Grid α n} {part : Grid α m}
    (same : ∀ i k, sim (e i) (e k) = part i k) :
    Restricts e (singletons sim) (singletons part) where
  live := map_finRange e
  members i := by rw [members_singletons, members_singletons]; rfl
  others x outside y hy := by
    rw [members_singletons, List.mem_singleton] at hy
    exact hy ▸ outside
  sums := same
  averages := same

namespace Restricts

/-- The merges that are open in the part are those that are open inside it. -/
theorem candidates (h : Restricts e c d) :
    d.candidates.map (Merge.at e) = c.candidates.filter (Merge.isInside e) := by
  have pairs : (orderedPairs c.live).filter (fun p => inside e p.1 && inside e p.2) =
      (orderedPairs d.live).map (Prod.map e e) := by
    rw [← orderedPairs_filter, ← h.live, orderedPairs_map]
  calc d.candidates.map (Merge.at e)
      = ((orderedPairs d.live).map (Prod.map e e)).map fun p => ⟨p.1, p.2, c.averages p.1 p.2⟩ := by
        simp only [Clusters.candidates, List.map_map]
        apply List.map_congr_left
        intro p _
        simp only [Function.comp_apply, Merge.at, Prod.map, h.averages]
    _ = c.candidates.filter (Merge.isInside e) := by
        rw [← pairs, Clusters.candidates, List.filter_map]
        rfl

/-- **A merge inside the part is a merge of the part.** -/
theorem merge_inside (h : Restricts e c d) (b : Merge α m) :
    Restricts e (c.merge (b.at e)) (d.merge b) := by
  have members : ∀ i, (c.merge (b.at e)).members.get (e i) = ((d.merge b).members.get i).map e := by
    intro i
    rw [members_merge, members_merge]
    simp only [Merge.at, e.injective.eq_iff]
    split_ifs
    · rfl
    · rw [h.members, h.members, List.map_append]
    · exact h.members i
  have sums : ∀ i k, (c.merge (b.at e)).sums (e i) (e k) = (d.merge b).sums i k := by
    intro i k
    rw [sums_merge, sums_merge]
    simp only [mergedSums, Grid.get_ofFn, Merge.at, e.injective.eq_iff, h.sums]
  refine ⟨?_, members, ?_, sums, ?_⟩
  · calc (d.live.erase b.absorbed).map e
        = (c.live.filter (inside e)).erase (e b.absorbed) := by
          rw [List.map_erase e.injective, h.live]
      _ = (c.live.erase (e b.absorbed)).filter (inside e) := List.erase_filter
  · intro x outside y hy
    have notAbsorbed : x ≠ (b.at e).absorbed := (ne_of_not_inside outside b.absorbed).symm
    have notSurvivor : x ≠ (b.at e).survivor := (ne_of_not_inside outside b.survivor).symm
    rw [members_merge, if_neg notAbsorbed, if_neg notSurvivor] at hy
    exact h.others x outside y hy
  · intro i k
    rw [averages_merge, averages_merge]
    have survivor : (b.at e).survivor = e b.survivor := rfl
    simp only [survivor, e.injective.eq_iff, sums, members, List.length_map, h.averages]

/-- **A merge outside leaves the part as it is.** -/
theorem merge_outside (h : Restricts e c d) {b : Merge α n}
    (survivor : inside e b.survivor = false) (absorbed : inside e b.absorbed = false) :
    Restricts e (c.merge b) d := by
  have survivorNe := ne_of_not_inside survivor
  have absorbedNe := ne_of_not_inside absorbed
  refine ⟨?_, ?_, ?_, ?_, ?_⟩
  · have notMember : b.absorbed ∉ c.live.filter (inside e) := by
      intro member
      rw [List.mem_filter, absorbed] at member
      cases member.2
    calc d.live.map e = (c.live.filter (inside e)).erase b.absorbed := by
          rw [h.live, List.erase_of_not_mem notMember]
      _ = (c.live.erase b.absorbed).filter (inside e) := List.erase_filter
  · intro i
    rw [members_merge, if_neg (absorbedNe i), if_neg (survivorNe i)]
    exact h.members i
  · intro x outside y hy
    rw [members_merge] at hy
    split_ifs at hy
    · simp at hy
    · rcases List.mem_append.1 hy with hy | hy
      · exact h.others _ survivor y hy
      · exact h.others _ absorbed y hy
    · exact h.others x outside y hy
  · intro i k
    rw [sums_merge]
    simp only [mergedSums, Grid.get_ofFn, if_neg (survivorNe _), h.sums]
  · intro i k
    rw [averages_merge, if_neg (survivorNe i), if_neg (survivorNe k)]
    exact h.averages i k

end Restricts

end Merging

/-! ## The simulation -/

section Simulation

variable {m n : ℕ} {sim : Grid Binary64 n} {part : Grid Binary64 m} {t : Binary64}
  {c c' : Clusters Binary64 n} {d : Clusters Binary64 m}

namespace Restricts

/-- The best merge of the whole, where it lies inside the part, is the best one of the part. -/
theorem best?_of_inside {p : Part sim part} (h : Restricts p.place c d) (whole : c.Regular sim)
    (ofPart : d.Regular part) {b : Merge Binary64 n} (best : c.best? = some b)
    (survivor : inside p.place b.survivor = true) (absorbed : inside p.place b.absorbed = true) :
    ∃ b', d.best? = some b' ∧ b = b'.at p.place := by
  have first := whole.best?_eq_some_iff.1 best
  have both : b.isInside p.place = true := by
    rw [Merge.isInside, survivor, absorbed]
    rfl
  have kept := first.filter both
  rw [← h.candidates] at kept
  obtain ⟨b', rfl, first'⟩ := kept.of_map
  exact ⟨b', ofPart.best?_eq_some_iff.2 first', rfl⟩

/-- A merge across the border has the average zero. -/
theorem average_across {p : Part sim part} (h : Restricts p.place c d) (whole : c.Regular sim)
    {b : Merge Binary64 n} (candidate : b ∈ c.candidates)
    (across : inside p.place b.survivor ≠ inside p.place b.absorbed) : b.average = finite 0 := by
  obtain ⟨survivorLive, absorbedLive⟩ := live_of_mem_candidates candidate
  have different := (whole.sound.survivor_lt_absorbed candidate).ne
  rw [(mem_candidates_iff.1 candidate).2]
  -- One of the two clusters holds items of the part only, the other none of them.
  have zero : ∀ i x, inside p.place x = false → ∀ y ∈ c.members.get (p.place i),
      ∀ z ∈ c.members.get x, sim y z = finite 0 := by
    intro i x outside y hy z hz
    rw [h.members] at hy
    obtain ⟨k, -, rfl⟩ := List.mem_map.1 hy
    exact p.apart k z (ne_of_not_inside (h.others x outside z hz))
  refine whole.average_eq_zero survivorLive absorbedLive different ?_
  cases hs : inside p.place b.survivor with
  | true =>
      have outside : inside p.place b.absorbed = false := by simpa [hs] using across.symm
      obtain ⟨i, hi⟩ := inside_iff.1 hs
      rw [← hi]
      exact zero i b.absorbed outside
  | false =>
      have within : inside p.place b.absorbed = true := by simpa [hs] using across.symm
      obtain ⟨i, hi⟩ := inside_iff.1 within
      rw [← hi]
      intro y hy z hz
      rw [whole.bounded.symmetric]
      exact zero i b.survivor hs z hz y hy

/-- One step of the whole is a step of the part, or none. -/
theorem step {p : Part sim part} (h : Restricts p.place c d) (whole : c.Regular sim)
    (ofPart : d.Regular part) (above : linkageSlack < t) (next : Step t c c') :
    ∃ d', (d' = d ∨ Step t d d') ∧ Restricts p.place c' d' := by
  obtain ⟨b, best, goes, rfl⟩ := step_iff.1 next
  have border : inside p.place b.survivor = inside p.place b.absorbed := by
    by_contra across
    rw [h.average_across whole (mem_candidates_of_best? best) across, ends_zero above] at goes
    cases goes
  cases survivor : inside p.place b.survivor with
  | true =>
      have absorbed : inside p.place b.absorbed = true := border.symm.trans survivor
      obtain ⟨b', best', rfl⟩ := h.best?_of_inside whole ofPart best survivor absorbed
      exact ⟨d.merge b', .inr (step_iff.2 ⟨b', best', goes, rfl⟩), h.merge_inside b'⟩
  | false =>
      have absorbed : inside p.place b.absorbed = false := border.symm.trans survivor
      exact ⟨d, .inl rfl, h.merge_outside survivor absorbed⟩

/-- Where the whole has ended, so has the part: its best average is no greater. -/
theorem ended {p : Part sim part} (h : Restricts p.place c d) (whole : c.Regular sim)
    (ofPart : d.Regular part) (done : c.step? t = none) : d.step? t = none := by
  rw [step?_eq_none_iff] at done ⊢
  intro b' best'
  have candidate' := mem_candidates_of_best? best'
  have candidate : b'.at p.place ∈ c.candidates := by
    refine List.mem_of_mem_filter (p := Merge.isInside p.place) ?_
    rw [← h.candidates]
    exact List.mem_map_of_mem candidate'
  cases best : c.best? with
  | none =>
      rw [candidates_eq_nil best] at candidate
      cases candidate
  | some b =>
      have first := whole.best?_eq_some_iff.1 best
      exact ends_of_average_le (ofPart.upTo_candidates candidate')
        (whole.upTo_candidates first.mem) (first.le candidate) (done b best)

end Restricts

theorem restricts_run (p : Part sim part) (bounded : sim.Bounded) (above : linkageSlack < t)
    (reached : Run t (singletons sim) c) :
    ∃ d, Run t (singletons part) d ∧ Restricts p.place c d := by
  induction reached with
  | refl => exact ⟨singletons part, .refl, restricts_singletons p.same⟩
  | tail before next ih =>
      obtain ⟨d, reachedD, h⟩ := ih
      obtain ⟨d', moved, h'⟩ := h.step (regular_run bounded before)
        (regular_run (p.bounded bounded) reachedD) above next
      rcases moved with rfl | moved
      · exact ⟨d', reachedD, h'⟩
      · exact ⟨d', reachedD.tail moved, h'⟩

/-- **Inside a part the whole ends in the clusters of the part.** -/
theorem restricts_agglomerate (p : Part sim part) (bounded : sim.Bounded)
    (above : linkageSlack < t) :
    Restricts p.place (agglomerate sim t) (agglomerate part t) := by
  have reached := run_agglomerate sim t
  obtain ⟨d, reachedD, h⟩ := restricts_run p bounded above reached
  have done := h.ended (regular_run bounded reached) (regular_run (p.bounded bounded) reachedD)
    (step?_agglomerate sim t)
  rw [← eq_of_ended reachedD (run_agglomerate part t) done (step?_agglomerate part t)]
  exact h

/-! ## Two parts -/

/-- Two parts that make up the whole: the groups of the whole are those of the parts. -/
theorem interleaving_groups {k : ℕ} {part' : Grid Binary64 k} (p : Part sim part)
    (p' : Part sim part') (complementary : Interleaving.Complementary p.place p'.place)
    (bounded : sim.Bounded) (above : linkageSlack < t) :
    Interleaving ((agglomerate part t).groups.map (List.map p.place))
      ((agglomerate part' t).groups.map (List.map p'.place)) (agglomerate sim t).groups := by
  have groups {j : ℕ} {part : Grid Binary64 j} (p : Part sim part) :
      ((agglomerate sim t).live.filter (inside p.place)).map (agglomerate sim t).members.get =
        (agglomerate part t).groups.map (List.map p.place) := by
    have h := restricts_agglomerate p bounded above
    rw [← h.live, List.map_map, Clusters.groups, List.map_map]
    exact List.map_congr_left fun i _ => h.members i
  have others : (fun x => !inside p.place x) = inside p'.place := by
    funext x
    rw [Bool.eq_iff_iff, Bool.not_eq_true', not_inside_iff, inside_iff]
    exact (complementary.symm x).symm
  have woven := (Interleaving.of_filter (inside p.place) (agglomerate sim t).live).map
    (agglomerate sim t).members.get
  rw [others, groups p, groups p'] at woven
  exact woven

end Simulation

end Clusters

end Deliberation
