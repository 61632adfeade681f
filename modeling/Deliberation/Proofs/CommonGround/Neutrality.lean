/-
# Proofs.CommonGround.Neutrality -- a divergence does not depend on which side is called support

With support and opposition exchanged everywhere, a divergence finds the same points: its tests ask the
same of both sides (`isSplit_swapped`), a polarization is a distance (`polarization_comm`), and the
percentage of the nuanced is that of the last count (`nuancedPercentage_swapped`).  What belongs to a side
goes with it to the other one, but for the stock sentence of a side that left no note.  The percentages of
the two sides are left out on purpose: at a tie the side that is named first gets the leftover point.

So a report and that on the exchanged records mirror each other (`neutral_between_sides`), and where one
of them fails, so does the other.
-/
import Deliberation.Proofs.CommonGround.Remainders
import Deliberation.Proofs.CommonGround.Weighing
import Deliberation.Proofs.Proposition.Sides

set_option autoImplicit false

namespace Deliberation

open Binary64

/-! ## Distances -/

theorem abs_toRat_ofRat_neg {x : ℚ} (fits : |x| < overflow) :
    |(ofRat (-x)).toRat| = |(ofRat x).toRat| := by
  by_cases zero : x = 0
  · simp [zero]
  · have same : roundedAbs (-x) = roundedAbs x := by simp [roundedAbs]
    rw [toRat_ofRat (neg_ne_zero.2 zero) (by rwa [abs_neg]), toRat_ofRat zero fits, same]
    split_ifs <;> simp

theorem abs_sub_comm_of_unit {x y : Binary64} (hx : UpTo 1 x) (hy : UpTo 1 y) :
    (x - y).abs = (y - x).abs := by
  obtain ⟨a, rfl, -, a0, a1⟩ := hx
  obtain ⟨b, rfl, -, b0, b1⟩ := hy
  have fits : |a - b| < overflow :=
    (abs_le.2 ⟨by linarith, by linarith⟩ : |a - b| ≤ 1).trans_lt one_lt_overflow
  have fits' : |b - a| < overflow := by rwa [abs_sub_comm]
  rw [finite_sub_finite, finite_sub_finite, abs_eq_finite (isFinite_ofRat fits),
    abs_eq_finite (isFinite_ofRat fits'), ← neg_sub a b, abs_toRat_ofRat_neg fits]

/-- A polarization is the same from either side. -/
theorem polarization_comm {x y : Binary64} (hx : UpTo 1 x) (hy : UpTo 1 y) :
    polarization (.real x) (.real y) = polarization (.real y) (.real x) := by
  have distance (a b : Binary64) : (Number.real a).sub (.real b) = .ok (.real (a - b)) := rfl
  unfold polarization
  rw [distance, distance, ok_bind, ok_bind, Number.abs, Number.abs]
  dsimp only
  rw [abs_sub_comm_of_unit hx hy]

/-! ## One record -/

namespace StanceRecord

variable (r : StanceRecord)

theorem shares_swapped :
    r.swapped.shares = ⟨r.shares.oppose, r.shares.support, r.shares.nuanced⟩ := by
  unfold shares
  rw [total_swapped]
  rfl

theorem notes_swapped (s : Stance) : r.swapped.notes [s] = r.notes [s.opposite] := by
  unfold notes swapped
  induction r.alignments with
  | nil => rfl
  | cons a rest ih =>
      have same : [s].contains a.swapped.stance = [s.opposite].contains a.stance := by
        simp [Alignment.swapped, Stance.opposite_eq_iff]
      rw [List.map_cons, List.filter_cons, List.filter_cons, same]
      cases [s.opposite].contains a.stance with
      | false => exact ih
      | true =>
          simp only [if_true, List.filterMap_cons, ih]
          rfl

/-- Every participant of a record takes part in its mirror image. -/
theorem users_swapped : r.swapped.alignments.map Alignment.user = r.alignments.map Alignment.user := by
  simp [swapped, Alignment.swapped, Function.comp_def]

/-- The reasons of one side are those of the other side of the mirror image, or both are stock. -/
theorem reasons_swapped (s : Stance) (stock otherStock : String) :
    r.swapped.reasons s.opposite otherStock = r.reasons s stock ∨
      (r.reasons s stock = [stock] ∧ r.swapped.reasons s.opposite otherStock = [otherStock]) := by
  unfold reasons
  rw [notes_swapped, Stance.opposite_opposite]
  cases (r.notes [s]).take 2 with
  | nil => exact .inr ⟨rfl, rfl⟩
  | cons note rest => exact .inl rfl

end StanceRecord

/-- A point and the one on the same record with the sides exchanged. -/
structure DivergencePoint.Mirrors (p q : DivergencePoint) : Prop where
  id : q.propositionId = p.propositionId
  statement : q.proposition = p.proposition
  total : q.total = p.total
  nuanced : q.nuancedPercentage = p.nuancedPercentage
  polarization : q.polarization = p.polarization
  supporters : q.oppose.participants = p.support.participants
  opponents : q.support.participants = p.oppose.participants
  supportReasons : q.oppose.reasoning = p.support.reasoning ∨
    (p.support.reasoning = [supportStock] ∧ q.oppose.reasoning = [opposeStock])
  opposeReasons : q.support.reasoning = p.oppose.reasoning ∨
    (p.oppose.reasoning = [opposeStock] ∧ q.support.reasoning = [supportStock])

theorem DivergencePoint.Mirrors.symm {p q : DivergencePoint} (h : p.Mirrors q) : q.Mirrors p where
  id := h.id.symm
  statement := h.statement.symm
  total := h.total.symm
  nuanced := h.nuanced.symm
  polarization := h.polarization.symm
  supporters := h.opponents.symm
  opponents := h.supporters.symm
  supportReasons := h.opposeReasons.imp Eq.symm And.symm
  opposeReasons := h.supportReasons.imp Eq.symm And.symm

namespace Divergence

variable {d : Divergence} {r : StanceRecord} {records : List StanceRecord} {topic : Value}

/-- The tests ask the same of both sides. -/
theorem isSplit_swapped (d : Divergence) (r : StanceRecord) : d.isSplit r.swapped = d.isSplit r := by
  unfold isSplit
  rw [StanceRecord.total_swapped, StanceRecord.shares_swapped]
  dsimp only
  rw [Bool.and_right_comm]

/-- The percentage of the nuanced is the same whichever side is counted first. -/
theorem nuancedPercentage_swapped {percentages swappedPercentages : List Int}
    (h : apportion [.whole r.support, .whole r.oppose, .whole r.nuanced] = .ok percentages)
    (h' : apportion [.whole r.oppose, .whole r.support, .whole r.nuanced] = .ok swappedPercentages) :
    swappedPercentages[2]? = percentages[2]? :=
  apportion_last_of_perm (List.Perm.swap r.support r.oppose []) r.nuanced h' h

/-- **A point on the exchanged record mirrors that on the record.** -/
theorem point?_swapped {p : DivergencePoint} (h : d.point? r = .ok (some p)) :
    ∃ q, d.point? r.swapped = .ok (some q) ∧ p.Mirrors q := by
  cases split : d.isSplit r with
  | false => simp [point?_of_not_split split] at h
  | true =>
      obtain ⟨percentages, polarized, counted, apart, -, answer⟩ := exists_pointWith split
      obtain ⟨percentages', polarized', counted', apart', -, answer'⟩ :=
        exists_pointWith ((isSplit_swapped d r).trans split)
      obtain rfl : r.pointWith percentages polarized = p := by simpa [answer] using h
      rw [StanceRecord.shares_swapped] at apart'
      have samePolarized : polarized' = polarized := by
        rw [polarization_comm r.upTo_oppose r.upTo_support] at apart'
        exact Except.ok.inj (apart'.symm.trans apart)
      have sameNuanced := nuancedPercentage_swapped counted counted'
      exact ⟨_, answer', {
        id := rfl
        statement := rfl
        total := r.total_swapped
        nuanced := congrArg (fun percentage : Option Int => percentage.getD 0) sameNuanced
        polarization := samePolarized
        supporters := rfl
        opponents := rfl
        supportReasons := r.reasons_swapped .support supportStock opposeStock
        opposeReasons := r.reasons_swapped .oppose opposeStock supportStock }⟩

theorem point?_swapped_none (h : d.point? r = .ok none) : d.point? r.swapped = .ok none := by
  cases split : d.isSplit r with
  | false => exact point?_of_not_split ((isSplit_swapped d r).trans split)
  | true =>
      obtain ⟨percentages, polarized, -, -, -, answer⟩ := exists_pointWith split
      simp [answer] at h

/-! ## Lists of records -/

/-- The points of a list and those of its mirror image, in the same order. -/
theorem points_swapped {answers answers' : List (Option DivergencePoint)}
    (h : records.mapM d.point? = .ok answers)
    (h' : (records.map StanceRecord.swapped).mapM d.point? = .ok answers') :
    List.Forall₂ DivergencePoint.Mirrors (answers.filterMap id) (answers'.filterMap id) := by
  rw [mapM_eq_ok_iff] at h
  rw [mapM_eq_ok_iff, List.forall₂_map_left_iff] at h'
  induction h generalizing answers' with
  | nil =>
      cases h'
      exact .nil
  | @cons r p? rest answers answer _ ih =>
      cases h' with
      | @cons _ q? _ answers' answer' others' =>
          cases p? with
          | none =>
              obtain rfl := Except.ok.inj ((point?_swapped_none answer).symm.trans answer')
              have later := ih others'
              exact later
          | some p =>
              obtain ⟨q, found, mirrors⟩ := point?_swapped answer
              obtain rfl := Except.ok.inj (found.symm.trans answer')
              exact .cons mirrors (ih others')

/-- Mirrored points weigh the same and have the same mean. -/
theorem overallPolarization_swapped {points points' : List DivergencePoint}
    (h : List.Forall₂ DivergencePoint.Mirrors points points') :
    overallPolarization points' = overallPolarization points := by
  have sameWeight : weight points' = weight points :=
    congrArg List.sum (map_eq_map_of_forall₂ (h.imp fun p q same => same.total.symm)).symm
  have sameSum (start : Binary64) : weigh points' start = weigh points start := by
    induction h generalizing start with
    | nil => rfl
    | @cons p q rest rest' same _ ih =>
        rw [weigh_cons, weigh_cons, same.total, same.polarization]
        cases Binary64.ofWhole p.total with
        | error fault => rfl
        | ok participants => exact ih (by simpa [weight, same.total] using sameWeight) _
  rw [overallPolarization_eq, overallPolarization_eq, sameWeight, sameSum]

theorem participants_swapped (records : List StanceRecord) :
    participants (records.map StanceRecord.swapped) = participants records := by
  simp [participants, List.flatMap_map, StanceRecord.users_swapped]

end Divergence

/-- A report and the one on the same records with the sides exchanged. -/
structure DivergenceReport.Mirrors (report report' : DivergenceReport) : Prop where
  topic : report'.topic = report.topic
  points : List.Forall₂ DivergencePoint.Mirrors report.points report'.points
  polarization : report'.polarization = report.polarization
  participants : report'.participants = report.participants

theorem DivergenceReport.Mirrors.symm {report report' : DivergenceReport} (h : report.Mirrors report') :
    report'.Mirrors report where
  topic := h.topic.symm
  points := h.points.flip.imp fun _ _ same => same.symm
  polarization := h.polarization.symm
  participants := h.participants.symm

namespace Divergence

variable {d : Divergence} {records : List StanceRecord} {topic v v' : Value}

/-- A report on records has its mirror image, the report on the mirror images. -/
theorem exists_mirrored (accepted : readStanceRecords v = .ok records)
    (accepted' : readStanceRecords v' = .ok (records.map StanceRecord.swapped))
    {report : DivergenceReport} (h : d.run topic v = .ok report) :
    ∃ report', d.run topic v' = .ok report' ∧ report.Mirrors report' := by
  obtain ⟨answers, answered⟩ := exists_points d records
  obtain ⟨answers', answered'⟩ := exists_points d (records.map StanceRecord.swapped)
  have mirrored := points_swapped answered answered'
  rw [run_of_accepted accepted, report_eq answered, lift_eq_ok_iff, map_eq_ok_iff] at h
  obtain ⟨polarized, weighed, rfl⟩ := h
  rw [run_of_accepted accepted', report_eq answered', overallPolarization_swapped mirrored, weighed]
  exact ⟨_, rfl, ⟨rfl, mirrored, rfl, participants_swapped records⟩⟩

/-- **A divergence is neutral between the two sides**: with support and opposition exchanged in an
accepted list, the list is accepted, and has a report exactly where the list itself has one, which mirrors
that. -/
theorem neutral_between_sides (d : Divergence) (topic v : Value) {records : List StanceRecord}
    (accepted : readStanceRecords v = .ok records) :
    readStanceRecords v.swapSides = .ok (records.map StanceRecord.swapped) ∧
    (∀ report, d.run topic v = .ok report →
      ∃ report', d.run topic v.swapSides = .ok report' ∧ report.Mirrors report') ∧
    ∀ report', d.run topic v.swapSides = .ok report' →
      ∃ report, d.run topic v = .ok report ∧ report.Mirrors report' := by
  have accepted' := readStanceRecords_swapSides accepted
  refine ⟨accepted', fun report => exists_mirrored accepted accepted', fun report' h => ?_⟩
  have back : readStanceRecords v = .ok ((records.map StanceRecord.swapped).map
      StanceRecord.swapped) := by rw [StanceRecord.map_swapped_swapped, accepted]
  obtain ⟨report, answer, mirrors⟩ := exists_mirrored accepted' back h
  exact ⟨report, answer, mirrors.symm⟩

/-- An even split with one nuanced view, where support gets the odd point, and an uneven one. -/
def tiedRecords : List StanceRecord := [
  { id := "p1", statement := "Libraries should open on Sundays.", support := 4, oppose := 4
    nuanced := 1, consensus := none, alignments := [⟨"u1", .support, some "Families have time."⟩] },
  { id := "p2", statement := "Parking should be free.", support := 6, oppose := 2, nuanced := 0
    consensus := none, alignments := [⟨"u2", .oppose, some "It fills the streets."⟩] }]

theorem tiedRecords_mirrored :
    readStanceRecords (.list (tiedRecords.map StanceRecord.toValue)) = .ok tiedRecords ∧
    ∃ report report',
      default.run (.text "t1") (.list (tiedRecords.map StanceRecord.toValue)) = .ok report ∧
      default.run (.text "t1") (Value.list (tiedRecords.map StanceRecord.toValue)).swapSides =
        .ok report' ∧
      report.Mirrors report' ∧ report.points.map (·.support.participants) = [4, 6] ∧
      report'.points.map (·.support.participants) = [4, 2] := by
  have accepted : readStanceRecords (.list (tiedRecords.map StanceRecord.toValue)) =
      .ok tiedRecords := by decide +kernel
  obtain ⟨-, mirrored, -⟩ := neutral_between_sides default (.text "t1") _ accepted
  have shown : ((default.run (.text "t1") (.list (tiedRecords.map StanceRecord.toValue))).map
      fun report => report.points.map (·.support.participants)) = .ok [4, 6] := by decide +kernel
  have shown' : ((default.run (.text "t1")
      (Value.list (tiedRecords.map StanceRecord.toValue)).swapSides).map
      fun report => report.points.map (·.support.participants)) = .ok [4, 2] := by decide +kernel
  cases ran : default.run (.text "t1") (.list (tiedRecords.map StanceRecord.toValue)) with
  | error fault => simp [ran, Except.map] at shown
  | ok report =>
      obtain ⟨report', ran', mirrors⟩ := mirrored report ran
      rw [ran] at shown
      rw [ran'] at shown'
      exact ⟨accepted, report, report', rfl, ran', mirrors, Except.ok.inj shown, Except.ok.inj shown'⟩

end Divergence

end Deliberation
