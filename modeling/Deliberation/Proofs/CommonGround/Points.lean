/-
# Proofs.CommonGround.Points -- the divergence point of a record

A record that is split has a point, whatever its counts: its percentages and its polarization have
answers, and the polarization is a score (`exists_pointWith`).  Any other record has none.  So a list of
records always has its points (`exists_points`), and what can still fail in a report is the weighted mean
of their polarizations alone (`report_eq`).
-/
import Deliberation.CommonGround.Divergence
import Deliberation.Proofs.CommonGround.Tally

set_option autoImplicit false

namespace Deliberation

open Binary64

/-- The point of a record, with percentages and a polarization. -/
def StanceRecord.pointWith (r : StanceRecord) (percentages : List Int) (polarized : Binary64) :
    DivergencePoint :=
  let percentage (k : Nat) : Int := percentages[k]?.getD 0
  { propositionId := r.id
    proposition := r.statement
    support := ⟨"Support", r.support, percentage 0, r.reasons .support supportStock⟩
    oppose := ⟨"Oppose", r.oppose, percentage 1, r.reasons .oppose opposeStock⟩
    total := r.total
    nuancedPercentage := percentage 2
    polarization := polarized }

namespace Divergence

variable {d : Divergence} {r : StanceRecord} {p : DivergencePoint} {records : List StanceRecord}
  {answers : List (Option DivergencePoint)}

/-- A split is a divergence point, whatever the counts. -/
theorem exists_pointWith (split : d.isSplit r = true) : ∃ percentages polarized,
    apportion [.whole r.support, .whole r.oppose, .whole r.nuanced] = .ok percentages ∧
    polarization (.real r.shares.support) (.real r.shares.oppose) = .ok polarized ∧
    UpTo 1 polarized ∧ d.point? r = .ok (some (r.pointWith percentages polarized)) := by
  obtain ⟨percentages, hpercentages⟩ := exists_apportion [r.support, r.oppose, r.nuanced]
  obtain ⟨polarized, hpolarized, unit⟩ := exists_polarization r.upTo_support r.upTo_oppose
  have counted : apportion [.whole r.support, .whole r.oppose, .whole r.nuanced] = .ok percentages :=
    hpercentages
  refine ⟨percentages, polarized, counted, hpolarized, unit, ?_⟩
  unfold point?
  rw [if_pos split, counted, ok_bind]
  dsimp only
  rw [hpolarized, ok_bind]
  rfl

theorem point?_of_not_split (notSplit : d.isSplit r = false) : d.point? r = .ok none := by
  simp [point?, notSplit]

theorem total_pos_of_isSplit (split : d.isSplit r = true) : 0 < r.total := by
  simp only [isSplit, Bool.and_eq_true, decide_eq_true_eq] at split
  exact split.1.1.1.1

/-- Every record has an answer, with a point exactly where it is split. -/
theorem exists_answer (d : Divergence) (r : StanceRecord) :
    ∃ p?, d.point? r = .ok p? ∧ p?.isSome = d.isSplit r := by
  cases split : d.isSplit r with
  | true =>
      obtain ⟨percentages, polarized, -, -, -, answer⟩ := exists_pointWith split
      exact ⟨_, answer, rfl⟩
  | false => exact ⟨none, point?_of_not_split split, rfl⟩

theorem exists_points (d : Divergence) (records : List StanceRecord) :
    ∃ answers, records.mapM d.point? = .ok answers :=
  exists_mapM_eq_ok fun r _ => (exists_answer d r).imp fun _ => And.left

/-- The polarization of a point is a score, and somebody took part in it. -/
theorem score_of_point (h : d.point? r = .ok (some p)) : UpTo 1 p.polarization ∧ 0 < p.total := by
  cases split : d.isSplit r with
  | true =>
      obtain ⟨percentages, polarized, -, -, unit, answer⟩ := exists_pointWith split
      obtain rfl : r.pointWith percentages polarized = p := by simpa [answer] using h
      exact ⟨unit, total_pos_of_isSplit split⟩
  | false => simp [point?_of_not_split split] at h

theorem score_of_mem_points (answered : records.mapM d.point? = .ok answers)
    (hp : p ∈ answers.filterMap id) : UpTo 1 p.polarization ∧ 0 < p.total := by
  obtain ⟨p?, member, rfl⟩ := List.mem_filterMap.1 hp
  obtain ⟨r, -, answer⟩ := exists_step_of_mapM answered member
  exact score_of_point answer

/-- The participants of a report are those of all records, each once. -/
def participants (records : List StanceRecord) : Nat :=
  (distinct (records.flatMap fun r => r.alignments.map Alignment.user)).length

/-- A report tells of the points, and fails only where their weighted mean does. -/
theorem report_eq (answered : records.mapM d.point? = .ok answers) (topic : Value) :
    d.report topic records = (fun polarized =>
      ⟨topic, answers.filterMap id, polarized, participants records⟩) <$>
        overallPolarization (answers.filterMap id) := by
  unfold report
  rw [answered, ok_bind]
  rfl

/-- Records that are accepted are reported on; a fault in them is the only other answer. -/
theorem run_of_accepted {v : Value} (accepted : readStanceRecords v = .ok records) (topic : Value) :
    d.run topic v = liftM (d.report topic records) := by
  unfold run
  rw [accepted]
  rfl

theorem run_of_rejected {v : Value} {fault : InputFault} (rejected : readStanceRecords v = .error fault)
    (topic : Value) : d.run topic v = .error (.invalidInput fault) := by
  unfold run
  rw [rejected]
  rfl

end Divergence

end Deliberation
