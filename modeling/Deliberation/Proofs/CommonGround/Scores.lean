/-
# Proofs.CommonGround.Scores -- every score lies in the unit interval

The polarization of a point is a score, and so is the mean of recorded or derived consensus.  The overall
polarization weighs the points by their participants, in a sum from left to right.  While doubles count the
participants, the sum is at most their number (`exists_weigh_of_few`); beyond that each point may round it
upward once (`atMost_weigh`).  A hundredth does not show as many roundings as there can be points
(`maxPoints`).  It would show more: where the sum is beyond 2 ^ 53, each further point of three participants may
count for four.

With the cohesion of clusters and their quality these are all scores that clustering, syntheses and divergences
report (`scores_in_unit`).
-/
import Deliberation.Proofs.Clustering.Placement
import Deliberation.Proofs.CommonGround.Contributions
import Deliberation.Proofs.CommonGround.Weighing

set_option autoImplicit false

namespace Deliberation

open Binary64

/-- There are no more divergence points than this: at 128 bytes each, which is less than one takes with its
two sides, they fill what the 52 bits of a physical address reach. -/
def maxPoints : ℕ := 2 ^ 45

namespace Divergence

variable {d : Divergence} {points : List DivergencePoint} {start x y : Binary64} {w k : ℕ}

theorem weight_cons (p : DivergencePoint) (points : List DivergencePoint) :
    weight (p :: points) = p.total + weight points := by
  simp [weight]

/-- While doubles count the participants, nothing is rounded beyond their number. -/
theorem exists_weigh_of_few (scored : Scored points) (hw : UpTo w start)
    (few : w + weight points ≤ 2 ^ 53) :
    ∃ x, weigh points start = .ok x ∧ UpTo (w + weight points : ℕ) x := by
  induction points generalizing w start with
  | nil => exact ⟨start, rfl, by simpa [weight] using hw⟩
  | cons p rest ih =>
      obtain ⟨⟨unit, -⟩, others⟩ := List.forall_mem_cons.1 scored
      rw [weight_cons, ← Nat.add_assoc] at few ⊢
      have counted (n : ℕ) (small : n ≤ 2 ^ 53) : (n : ℚ) < overflow :=
        calc (n : ℚ) ≤ 2 ^ 53 := by exact_mod_cast small
          _ < overflow := two_pow_lt_overflow (by norm_num)
      have total : UpTo p.total (finite p.total) :=
        upTo_finite (representable_natCast (by omega)) (Nat.cast_nonneg _) le_rfl
      have term : UpTo p.total (p.polarization * finite p.total) :=
        unit.mul total (one_mul _).le (representable_natCast (by omega)) (counted _ (by omega))
      have sum : UpTo (w + p.total : ℕ) (start + p.polarization * finite p.total) :=
        hw.add term (Nat.cast_add _ _).ge (representable_natCast (by omega)) (counted _ (by omega))
      obtain ⟨x, hx, bounded⟩ := ih others sum few
      exact ⟨x, by rw [weigh_cons, ofWhole_of_le (by omega), ok_bind, hx], bounded⟩

/-- Each point may round the sum beyond the participants once. -/
theorem atMost_weigh (scored : Scored points) (hw : AtMost (w * drift ^ (k + 1)) start)
    (h : weigh points start = .ok x) :
    AtMost ((w + weight points : ℕ) * drift ^ (k + 1 + points.length)) x := by
  induction points generalizing w k start with
  | nil =>
      obtain rfl := Except.ok.inj h
      simpa [weight] using hw
  | cons p rest ih =>
      obtain ⟨⟨unit, positive⟩, others⟩ := List.forall_mem_cons.1 scored
      rw [weigh_cons] at h
      obtain ⟨z, hz, later⟩ := bind_eq_ok_iff.1 h
      have fits := fits_of_ofWhole hz
      have one_le : (1 : ℚ) ≤ p.total := by exact_mod_cast positive
      have factor : 1 ≤ drift ^ (k + 1) := one_le_pow₀ one_le_drift
      -- the participants as a double, and the term
      have count : (ofRat p.total).toRat ≤ p.total * drift ^ (k + 1) :=
        calc (ofRat p.total).toRat ≤ p.total * drift := toRat_ofRat_le one_le fits
          _ ≤ p.total * drift ^ (k + 1) := by
            gcongr
            exact le_self_pow₀ one_le_drift k.succ_ne_zero
      have held := representable_ofRat (by rwa [Nat.abs_cast] : |(p.total : ℚ)| < overflow)
      have term : AtMost (p.total * drift ^ (k + 1)) (p.polarization * z) := by
        rw [eq_ofRat_of_ofWhole hz, ofRat_of_nonneg (Nat.cast_nonneg _) fits]
        exact (unit.atMost_mul held (toRat_ofRat_nonneg (Nat.cast_nonneg _) fits)).mono count
      have sum := hw.add term (by
        rw [← add_mul]
        have : (1 : ℚ) ≤ w + p.total := by linarith [(Nat.cast_nonneg w : (0 : ℚ) ≤ w)]
        exact one_le_mul_of_one_le_of_one_le this factor)
      rw [← add_mul, ← Nat.cast_add, mul_assoc, ← pow_succ] at sum
      have bounded := ih others sum later
      rwa [weight_cons, ← Nat.add_assoc, List.length_cons, Nat.add_comm rest.length, ← Nat.add_assoc]

/-- **The mean of polarizations is a score**, where doubles count the participants or the points are no more
than there can be. -/
theorem upTo_overallPolarization (scored : Scored points)
    (few : points.length ≤ maxPoints ∨ weight points ≤ 2 ^ 53) (h : overallPolarization points = .ok y) :
    UpTo 1 y := by
  rw [overallPolarization_eq] at h
  split_ifs at h with none
  · obtain rfl := Except.ok.inj h
    exact upTo_zero
  · obtain ⟨x, hx, mean⟩ := bind_eq_ok_iff.1 h
    obtain ⟨z, hz, rounded⟩ := bind_eq_ok_iff.1 mean
    have fits := fits_of_ofWhole hz
    have sum : ∃ m ≤ 2 ^ 45 + 1, AtMost (weight points * drift ^ m) x := by
      have zero : UpTo (0 : ℕ) (finite 0) := upTo_finite representable_zero le_rfl (by simp)
      rcases few with few | few
      · have bounded := atMost_weigh (w := 0) (k := 0) scored (zero.atMost.mono (by simp)) hx
        rw [Nat.zero_add] at bounded
        exact ⟨_, by unfold maxPoints at few; omega, bounded⟩
      · obtain ⟨x', hx', bounded⟩ := exists_weigh_of_few scored zero (by omega)
        obtain rfl := Except.ok.inj (hx.symm.trans hx')
        rw [Nat.zero_add] at bounded
        exact ⟨0, by omega, bounded.atMost.mono (by simp)⟩
    obtain ⟨m, small, bounded⟩ := sum
    rw [eq_ofRat_of_ofWhole hz] at rounded
    exact upTo_of_mean (Nat.pos_of_ne_zero none) fits bounded small rounded

/-- A point counts the participants of its record. -/
theorem total_of_point {r : StanceRecord} {p : DivergencePoint} (h : d.point? r = .ok (some p)) :
    p.total = r.total := by
  cases split : d.isSplit r with
  | true =>
      obtain ⟨percentages, polarized, -, -, -, answer⟩ := exists_pointWith split
      obtain rfl : r.pointWith percentages polarized = p := by simpa [answer] using h
      rfl
  | false => simp [point?_of_not_split split] at h

/-- No more take part in the points than in the records. -/
theorem weight_points_le {records : List StanceRecord} {answers : List (Option DivergencePoint)}
    (answered : records.mapM d.point? = .ok answers) :
    weight (answers.filterMap id) ≤ (records.map StanceRecord.total).sum := by
  have each := mapM_eq_ok_iff.1 answered
  clear answered
  induction each with
  | nil => simp [weight]
  | @cons r p? records answers point _ ih =>
      rw [List.map_cons, List.sum_cons]
      cases p? with
      | none => exact ih.trans (Nat.le_add_left _ _)
      | some p =>
          have kept : (some p :: answers).filterMap id = p :: answers.filterMap id := rfl
          rw [kept, weight_cons, total_of_point point]
          exact Nat.add_le_add_left ih _

/-- Records have a report where doubles reach four times their participants. -/
theorem exists_run (d : Divergence) (topic : Value) {v : Value} {records : List StanceRecord}
    (accepted : readStanceRecords v = .ok records)
    (fits : 4 * ((records.map StanceRecord.total).sum : ℚ) < overflow) :
    ∃ r, d.run topic v = .ok r := by
  obtain ⟨answers, answered⟩ := exists_points d records
  have fewer : (weight (answers.filterMap id) : ℚ) ≤ (records.map StanceRecord.total).sum := by
    exact_mod_cast weight_points_le answered
  obtain ⟨polarized, mean⟩ := exists_overallPolarization
    (fun p hp => score_of_mem_points answered hp) (by linarith)
  rw [run_of_accepted accepted, report_eq answered, mean]
  exact ⟨_, rfl⟩

/-- The scores of a report that was given. -/
theorem scores_of_run {topic v : Value} {r : DivergenceReport} (h : d.run topic v = .ok r) :
    (∀ p ∈ r.points, UpTo 1 p.polarization) ∧
      (r.points.length ≤ maxPoints ∨ weight r.points ≤ 2 ^ 53 → UpTo 1 r.polarization) := by
  obtain ⟨records, -, reported⟩ := bind_eq_ok_iff.1 h
  obtain ⟨answers, answered⟩ := exists_points d records
  rw [lift_eq_ok_iff, report_eq answered, map_eq_ok_iff] at reported
  obtain ⟨polarized, mean, rfl⟩ := reported
  have scored : Scored (answers.filterMap id) := fun p hp => score_of_mem_points answered hp
  exact ⟨fun p hp => (scored p hp).1, fun few => upTo_overallPolarization scored few mean⟩

end Divergence

/-- A synthesis of accepted records has a mean consensus from the unit interval, or none. -/
theorem Synthesis.exists_run_of_scores (s : Synthesis) {v : Value} {records : List StanceRecord}
    (accepted : readStanceRecords v = .ok records) :
    ∃ r, s.run v = .ok r ∧ ∀ x ∈ r.consensus, UpTo 1 x := by
  have rated : Rated records := fun r hr score recorded => ofUnit_of_accepted accepted hr recorded
  have rated' : Rated (s.qualifying records) := fun r hr => rated r (List.mem_of_mem_filter hr)
  obtain ⟨report, answer, -⟩ := exists_report s rated
  refine ⟨report, by rw [run_of_accepted accepted, answer]; rfl, ?_⟩
  obtain ⟨zones, -, rest⟩ := bind_eq_ok_iff.1 answer
  obtain ⟨consensus, mean, made⟩ := bind_eq_ok_iff.1 rest
  obtain rfl := Except.ok.inj made
  obtain ⟨consensus', mean', unit⟩ := exists_overallConsensus rated'
  obtain rfl := Except.ok.inj (mean.symm.trans mean')
  exact unit

/-- **Every score lies in the unit interval.**  Each accepted list of propositions has a report, whatever the
threshold and the least size, in which the quality and the cohesion of every cluster are scores.  Each accepted
list of records has a synthesis, whatever its settings, in which the mean consensus is a score where there is
one.  It has a divergence report as well where doubles reach its participants; in each such report, whatever its
settings, the polarization of every point is a score, and so is the overall one, for as many points as there
can be and for any number with up to 2 ^ 53 participants. -/
theorem scores_in_unit :
    (∀ (c : Clustering) (topic v given : Value) (ps : List Proposition) (t : Binary64),
      readPropositions v = .ok ps → c.threshold given = .ok t → ps.length < maxItems →
      ∃ r, c.run topic v given = .ok r ∧ UpTo 1 r.quality ∧ ∀ k ∈ r.clusters, UpTo 1 k.cohesion) ∧
    (∀ (s : Synthesis) (v : Value) (records : List StanceRecord), readStanceRecords v = .ok records →
      ∃ r, s.run v = .ok r ∧ ∀ x ∈ r.consensus, UpTo 1 x) ∧
    ∀ (d : Divergence) (topic v : Value) (records : List StanceRecord),
      readStanceRecords v = .ok records →
      (4 * ((records.map StanceRecord.total).sum : ℚ) < overflow → ∃ r, d.run topic v = .ok r) ∧
      ∀ r, d.run topic v = .ok r → (∀ p ∈ r.points, UpTo 1 p.polarization) ∧
        (r.points.length ≤ maxPoints ∨ Divergence.weight r.points ≤ 2 ^ 53 → UpTo 1 r.polarization) := by
  refine ⟨fun c topic v given ps t accepted within fits => ?_, fun s v records accepted => ?_,
    fun d topic v records accepted => ⟨d.exists_run topic accepted, fun r => Divergence.scores_of_run⟩⟩
  · obtain ⟨r, answer⟩ := c.exists_report topic t fits
    have scores := Clustering.scores_of_report fits answer
    exact ⟨r, (Clustering.run_eq_ok_iff accepted within).2 answer, scores.1, scores.2⟩
  · exact s.exists_run_of_scores accepted

/-- A cluster of two, a mean consensus of three records and a point with four on each side. -/
theorem small_lists_score :
    (∃ r, Clustering.default.run .null Clustering.threeStatements .null = .ok r ∧
      r.clusters.length = 1 ∧ UpTo 1 r.quality ∧ ∀ k ∈ r.clusters, UpTo 1 k.cohesion) ∧
    (∃ r x, Synthesis.default.run (.list (Synthesis.fiveStances.map StanceRecord.toValue)) = .ok r ∧
      r.consensus = some x ∧ UpTo 1 x) ∧
    ∃ r, Divergence.default.run (.text "t1") (.list [(Divergence.evenSplit 4).toValue]) = .ok r ∧
      r.points.length = 1 ∧ (∀ p ∈ r.points, UpTo 1 p.polarization) ∧ UpTo 1 r.polarization := by
  obtain ⟨clusterings, syntheses, divergences⟩ := scores_in_unit
  refine ⟨?_, ?_, ?_⟩
  · obtain ⟨r, answer, quality, cohesion⟩ := clusterings Clustering.default .null
      Clustering.threeStatements .null [⟨"p1", "Carbon taxes work", none⟩,
        ⟨"p2", "Schools need teachers", none⟩, ⟨"p3", "Carbon taxes fail", none⟩] (.ofDecimal 2 1)
      rfl rfl (by decide)
    have one : (Clustering.default.run .null Clustering.threeStatements .null).toOption.map
        (fun r => r.clusters.length) = some 1 := by decide +kernel
    rw [answer] at one
    exact ⟨r, answer, Option.some.inj one, quality, cohesion⟩
  · obtain ⟨r, answer, consensus⟩ := syntheses Synthesis.default
      (.list (Synthesis.fiveStances.map StanceRecord.toValue)) Synthesis.fiveStances (by decide +kernel)
    have some : (Synthesis.default.run (.list (Synthesis.fiveStances.map
        StanceRecord.toValue))).toOption.map (fun r => r.consensus.isSome) = some true := by
      decide +kernel
    rw [answer] at some
    obtain ⟨x, hx⟩ := Option.isSome_iff_exists.1 (Option.some.inj some)
    exact ⟨r, x, answer, hx, consensus x hx⟩
  · obtain ⟨answers, scores⟩ := divergences Divergence.default (.text "t1")
      (.list [(Divergence.evenSplit 4).toValue]) [Divergence.evenSplit 4] (by decide +kernel)
    have eight : ([Divergence.evenSplit 4].map StanceRecord.total).sum = 8 := by decide
    obtain ⟨r, answer⟩ := answers (by
      rw [eight]
      calc 4 * ((8 : ℕ) : ℚ) = 2 ^ 5 := by norm_num
        _ < overflow := two_pow_lt_overflow (by norm_num))
    have one : (Divergence.default.run (.text "t1") (.list [(Divergence.evenSplit 4).toValue])).toOption.map
        (fun r => r.points.length) = some 1 := by decide +kernel
    rw [answer] at one
    have single : r.points.length = 1 := Option.some.inj one
    obtain ⟨points, overall⟩ := scores r answer
    exact ⟨r, answer, single, points, overall (.inl (single ▸ (by decide)))⟩

end Deliberation
