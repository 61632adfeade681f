/-
# Proofs.CommonGround.Weighing -- when a divergence report is too large to weigh

Everything in a divergence report is a quotient of counts, which counts of any size have, except the
overall polarization: it weighs each point by its participants, and a count becomes a double for that.  So
a list of accepted records has a report as long as the participants of its points are few enough for
doubles to add up, and it has none once they are more than doubles reach (`answers_within_range`).  In
between, the running sum may round beyond the greatest double or not.  No other fault is possible, but a
list of well-formed records can meet this one (`evenSplit_too_large`).
-/
import Deliberation.Proofs.CommonGround.Points
import Deliberation.Proofs.Number.Drift

set_option autoImplicit false

namespace Deliberation

open Binary64

/-- A number was beyond the range of doubles, or its infinite double was to become an integer. -/
def NumberFault.IsOverflow (fault : NumberFault) : Prop :=
  fault = .tooLarge ∨ fault = .infiniteInteger

theorem overflow_of_ofRatio {n m : ℤ} {fault : NumberFault} (h : ofRatio n m = .error fault) :
    fault.IsOverflow := by
  unfold ofRatio at h
  split at h
  · exact .inl (Except.error.inj h).symm
  · cases h

/-- From zero upward, a double is rounded to hundredths unless it is too large. -/
theorem overflow_of_roundHalfUp {x : Binary64} (upward : Upward x) {fault : NumberFault}
    (h : (Number.real x).roundHalfUp 2 = .error fault) : fault.IsOverflow := by
  have half : Upward oneHalf := .inr ⟨1 / 2, rfl, by norm_num⟩
  rw [roundHalfUp_hundredths] at h
  rcases (upward.mul_finite (r := 100) (by norm_num)).add half with shifted | ⟨q, shifted, -⟩
  · rw [shifted] at h
    exact .inr (Except.error.inj h).symm
  · rw [shifted] at h
    exact overflow_of_ofRatio (n := q.floor) (m := 100) h

/-! ## The weighted sum -/

namespace Divergence

variable {d : Divergence} {points : List DivergencePoint} {records : List StanceRecord} {b : ℚ}
  {start : Binary64}

/-- The participants of points, counted at each of them. -/
def weight (points : List DivergencePoint) : ℕ := (points.map DivergencePoint.total).sum

/-- Points as a list of records yields them: their polarizations are scores, and none is empty. -/
def Scored (points : List DivergencePoint) : Prop :=
  ∀ p ∈ points, UpTo 1 p.polarization ∧ 0 < p.total

/-- The running sum of polarizations, each times its participants. -/
def weigh (points : List DivergencePoint) (start : Binary64) : Except NumberFault Binary64 :=
  points.foldlM (fun sum p => do return sum + p.polarization * (← Binary64.ofWhole p.total)) start

theorem weigh_cons (p : DivergencePoint) (points : List DivergencePoint) (start : Binary64) :
    weigh (p :: points) start = (do
      let participants ← Binary64.ofWhole p.total
      weigh points (start + p.polarization * participants)) := by
  simp [weigh, List.foldlM_cons]

theorem overallPolarization_eq (points : List DivergencePoint) :
    overallPolarization points =
      if weight points = 0 then .ok (finite 0)
      else (do
        let weighted ← weigh points (finite 0)
        (Number.real (weighted / (← Binary64.ofWhole (weight points)))).roundHalfUp 2) := rfl

/-- The sum stays within four times the participants, where doubles reach that far. -/
theorem exists_weigh (scored : Scored points) (hb : UpTo b start)
    (fits : b + 4 * (weight points : ℚ) < overflow) :
    ∃ x, weigh points start = .ok x ∧ UpTo (b + 4 * weight points) x := by
  induction points generalizing b start with
  | nil => exact ⟨start, rfl, by simpa [weight] using hb⟩
  | cons p rest ih =>
      obtain ⟨⟨unit, -⟩, others⟩ := List.forall_mem_cons.1 scored
      have split : (weight (p :: rest) : ℚ) = p.total + weight rest := by simp [weight]
      rw [split] at fits ⊢
      have b0 : 0 ≤ b := by
        obtain ⟨q, -, -, nonneg, bound⟩ := hb
        exact nonneg.trans bound
      have rest0 : (0 : ℚ) ≤ weight rest := Nat.cast_nonneg _
      have total0 : (0 : ℚ) ≤ p.total := Nat.cast_nonneg _
      obtain ⟨z, hz, q, rfl, hq, q0, bound⟩ := upTo_ofWhole (n := p.total) (by linarith)
      have term : UpTo (2 * p.total) (p.polarization * finite q) :=
        (unit.mul (upTo_finite hq q0 le_rfl) (by rw [one_mul]) hq (by linarith)).mono bound
      have sum : UpTo (b + 4 * p.total) (start + p.polarization * finite q) := by
        have grown := hb.add_twice term (by linarith)
        rwa [← mul_assoc, show (2 : ℚ) * 2 = 4 by norm_num] at grown
      obtain ⟨x, hx, within⟩ := ih others sum (by linarith)
      refine ⟨x, ?_, ?_⟩
      · rw [weigh_cons, hz, ok_bind, hx]
      · rwa [mul_add, ← add_assoc]

/-- However many take part, the sum is a double from zero upward, or a count was too large. -/
theorem weigh_cases (scored : Scored points) (upward : Upward start) :
    weigh points start = .error .tooLarge ∨ ∃ x, weigh points start = .ok x ∧ Upward x := by
  induction points generalizing start with
  | nil => exact .inr ⟨start, rfl, upward⟩
  | cons p rest ih =>
      obtain ⟨⟨unit, positive⟩, others⟩ := List.forall_mem_cons.1 scored
      rw [weigh_cons]
      rcases lt_or_ge (p.total : ℚ) overflow with fits | large
      · obtain ⟨q, hq, one_le⟩ := exists_ofWhole_finite positive fits
        rw [hq, ok_bind]
        exact ih others (upward.add (unit.upward.mul_finite (zero_lt_one.trans_le one_le)))
      · left
        rw [ofWhole_of_overflow large, error_bind]

/-! ## The weighted mean -/

/-- A mean of points whose participants doubles can add up. -/
theorem exists_overallPolarization (scored : Scored points)
    (fits : 4 * (weight points : ℚ) < overflow) : ∃ y, overallPolarization points = .ok y := by
  rw [overallPolarization_eq]
  split_ifs with none
  · exact ⟨_, rfl⟩
  · have positive : 0 < weight points := Nat.pos_of_ne_zero none
    have count0 : (0 : ℚ) < weight points := by exact_mod_cast positive
    obtain ⟨x, hx, a, rfl, -, a0, bound⟩ := exists_weigh scored
      (upTo_finite representable_zero le_rfl le_rfl) (by rwa [zero_add])
    obtain ⟨z, hz⟩ := exists_ofWhole (n := weight points) (by linarith)
    have half := half_le_ofRat positive (by linarith)
    have double : z = finite (ofRat (weight points)).toRat := by
      rw [eq_ofRat_of_ofWhole hz]
      exact ofRat_of_nonneg count0.le (by linarith)
    have d0 : 0 < (ofRat (weight points)).toRat := by linarith
    have mean : UpTo (2 ^ 3) (finite a / finite (ofRat (weight points)).toRat) := by
      rw [finite_div_finite a0 d0]
      refine upTo_ofRat (div_nonneg a0 d0.le) ?_ (representable_two_pow 3)
        (two_pow_lt_overflow (by norm_num))
      rw [div_le_iff₀ d0]
      linarith
    obtain ⟨y, rounded, -⟩ := roundHalfUp_two mean (by norm_num)
    refine ⟨y, ?_⟩
    rw [hx, ok_bind, hz, ok_bind, double]
    exact rounded

/-- No mean of points with more participants than doubles reach. -/
theorem overallPolarization_of_overflow (scored : Scored points)
    (large : overflow ≤ (weight points : ℚ)) : overallPolarization points = .error .tooLarge := by
  have some : weight points ≠ 0 := by
    intro none
    rw [none, Nat.cast_zero] at large
    exact absurd (one_lt_overflow.trans_le large) (by norm_num)
  rw [overallPolarization_eq, if_neg some]
  rcases weigh_cases scored (upTo_zero.upward) with fault | ⟨x, hx, -⟩
  · rw [fault, error_bind]
  · rw [hx, ok_bind, ofWhole_of_overflow large, error_bind]

/-- Only a number beyond the range of doubles leaves points without a mean. -/
theorem overflow_of_overallPolarization (scored : Scored points) {fault : NumberFault}
    (h : overallPolarization points = .error fault) : fault.IsOverflow := by
  rcases lt_or_ge (weight points : ℚ) overflow with fits | large
  · rw [overallPolarization_eq] at h
    split_ifs at h with none
    rcases weigh_cases scored (upTo_zero.upward) with tooLarge | ⟨x, hx, upward⟩
    · rw [tooLarge, error_bind] at h
      exact .inl (Except.error.inj h).symm
    · obtain ⟨q, hq, one_le⟩ := exists_ofWhole_finite (Nat.pos_of_ne_zero none) fits
      rw [hx, ok_bind, hq, ok_bind] at h
      exact overflow_of_roundHalfUp (upward.div_finite (zero_lt_one.trans_le one_le)) h
  · rw [overallPolarization_of_overflow scored large] at h
    exact .inl (Except.error.inj h).symm

/-! ## Reports -/

/-- What is answered for points with so many participants. -/
structure WithinRange (points : List DivergencePoint) (answer : Except Fault DivergenceReport) :
    Prop where
  answers : 4 * (weight points : ℚ) < overflow → ∃ report, answer = .ok report ∧ report.points = points
  overflows : overflow ≤ (weight points : ℚ) → answer = .error (.number .tooLarge)
  onlyOverflow : ∀ fault, answer = .error fault → ∃ f : NumberFault, fault = .number f ∧ f.IsOverflow

/-- **A divergence answers for all accepted records whose participants doubles can add up.**  It refuses
what is not accepted, and fails only where a number is beyond the range of doubles; there it does fail. -/
theorem answers_within_range (d : Divergence) (topic v : Value) :
    (∀ fault, readStanceRecords v = .error fault → d.run topic v = .error (.invalidInput fault)) ∧
    ∀ records, readStanceRecords v = .ok records → ∃ answers, records.mapM d.point? = .ok answers ∧
      WithinRange (answers.filterMap id) (d.run topic v) := by
  refine ⟨fun fault rejected => run_of_rejected rejected topic, fun records accepted => ?_⟩
  obtain ⟨answers, answered⟩ := exists_points d records
  have scored : Scored (answers.filterMap id) := fun p hp => score_of_mem_points answered hp
  refine ⟨answers, answered, ?_⟩
  rw [run_of_accepted accepted, report_eq answered]
  refine ⟨fun fits => ?_, fun large => ?_, fun fault failed => ?_⟩
  · obtain ⟨y, hy⟩ := exists_overallPolarization scored fits
    rw [hy]
    exact ⟨_, rfl, rfl⟩
  · rw [overallPolarization_of_overflow scored large]
    rfl
  · cases hy : overallPolarization (answers.filterMap id) with
    | ok y =>
        rw [hy] at failed
        cases failed
    | error f =>
        rw [hy] at failed
        cases failed
        exact ⟨f, rfl, overflow_of_overallPolarization scored hy⟩

/-- A proposition with as many on either side. -/
def evenSplit (count : ℕ) : StanceRecord where
  id := "p1"
  statement := "Libraries should open on Sundays."
  support := count
  oppose := count
  nuanced := 0
  consensus := none
  alignments := []

/-- Four on each side are weighed. -/
theorem evenSplit_weighed :
    readStanceRecords (.list [(evenSplit 4).toValue]) = .ok [evenSplit 4] ∧
    ∃ answers, [evenSplit 4].mapM default.point? = .ok answers ∧
      WithinRange (answers.filterMap id) (default.run (.text "t1") (.list [(evenSplit 4).toValue])) := by
  have accepted : readStanceRecords (.list [(evenSplit 4).toValue]) = .ok [evenSplit 4] := by
    decide +kernel
  exact ⟨accepted, (answers_within_range default (.text "t1") _).2 _ accepted⟩

/-- **Well-formed records without a report**: each side is a double, both together are not. -/
theorem evenSplit_too_large :
    readStanceRecords (.list [(evenSplit (10 ^ 308)).toValue]) = .ok [evenSplit (10 ^ 308)] ∧
    default.run (.text "t1") (.list [(evenSplit (10 ^ 308)).toValue]) = .error (.number .tooLarge) := by
  have accepted : readStanceRecords (.list [(evenSplit (10 ^ 308)).toValue]) =
      .ok [evenSplit (10 ^ 308)] := by decide +kernel
  refine ⟨accepted, ?_⟩
  have overall : ([evenSplit (10 ^ 308)].mapM default.point?).map
      (fun answers => overallPolarization (answers.filterMap id)) =
      .ok (.error .tooLarge) := by decide +kernel
  obtain ⟨answers, answered⟩ := exists_points default [evenSplit (10 ^ 308)]
  rw [answered] at overall
  have tooLarge : overallPolarization (answers.filterMap id) = .error .tooLarge :=
    Except.ok.inj overall
  rw [run_of_accepted accepted, report_eq answered, tooLarge]
  rfl

end Divergence

end Deliberation
