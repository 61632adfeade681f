/-
# Proofs.CommonGround.Disagreements -- what a synthesis calls a disagreement, a divergence shows

A synthesis and a divergence ask for enough stances and for few nuanced ones in opposite ways: one keeps
what reaches a threshold, the other drops what falls short of it.  On the same numbers both say the same
(`Divergence.Covers.isSplit`), so that every genuine disagreement is a divergence point, as long as the
share that a side must exceed in a divergence is below the one that it must reach in a synthesis.  Both
tell the same about it (`Divergence.Covers.exists_matching`).

For a list of records this holds item by item: the genuine disagreements go, in order, with some of the
divergence points (`disagreements_diverge`).
-/
import Deliberation.Proofs.CommonGround.Points

set_option autoImplicit false

namespace Deliberation

variable {s : Synthesis} {d : Divergence} {r : StanceRecord} {records : List StanceRecord}
  {g : GenuineDisagreement}

/-- A divergence that reads the same numbers as a synthesis, and asks for less of each side. -/
structure Divergence.Covers (d : Divergence) (s : Synthesis) : Prop where
  participation : s.minParticipation = d.minParticipation
  nuance : s.nuanceThreshold = d.nuanceThreshold
  share : d.minShare < s.significantShare

/-- A disagreement and a divergence point are of one record, and tell the same about it. -/
structure GenuineDisagreement.Matches (s : Synthesis) (d : Divergence) (records : List StanceRecord)
    (g : GenuineDisagreement) (p : DivergencePoint) : Prop where
  record : ∃ r ∈ records, s.disagreement? r = some g ∧ d.point? r = .ok (some p) ∧
    p.propositionId = r.id
  statement : g.proposition = p.proposition
  viewpoints : g.viewpoints = [
    ⟨p.support.position, p.support.participants, p.support.reasoning⟩,
    ⟨p.oppose.position, p.oppose.participants, p.oppose.reasoning⟩]
  positions : p.support.position = "Support" ∧ p.oppose.position = "Oppose"

namespace Divergence

/-! ## One record -/

/-- **The two filters agree**: what one keeps, the other does not drop. -/
theorem Covers.isSplit (covers : d.Covers s) (qualifies : r.qualifies s.minParticipation = true)
    (disagrees : s.isDisagreement r = true) : d.isSplit r = true := by
  simp only [StanceRecord.qualifies, Bool.and_eq_true, decide_eq_true_eq] at qualifies
  simp only [Synthesis.isDisagreement, Bool.and_eq_true, decide_eq_true_eq] at disagrees
  obtain ⟨positive, enough⟩ := qualifies
  obtain ⟨⟨⟨supported, opposed⟩, notNuanced⟩, -⟩ := disagrees
  rw [covers.participation] at enough
  rw [covers.nuance] at notNuanced
  have notFew : ¬Number.whole r.total < d.minParticipation := fun few => Number.not_le_of_lt few enough
  have notDropped : ¬d.nuanceThreshold ≤ .real r.shares.nuanced := Number.not_le_of_lt notNuanced
  have above {share : Binary64} (reached : s.significantShare ≤ .real share) :
      ¬Number.real share ≤ d.minShare :=
    Number.not_le_of_lt (Number.lt_of_lt_of_le covers.share reached)
  simp [Divergence.isSplit, positive, notFew, notDropped, above supported, above opposed]

/-- **A genuine disagreement is a divergence point**, with the same counts and reasons. -/
theorem Covers.exists_matching (covers : d.Covers s) (member : r ∈ records)
    (qualifies : r.qualifies s.minParticipation = true) (disagreement : s.disagreement? r = some g) :
    ∃ p, d.point? r = .ok (some p) ∧ g.Matches s d records p := by
  have disagrees : s.isDisagreement r = true := by
    by_contra agrees
    simp [Synthesis.disagreement?, agrees] at disagreement
  obtain ⟨percentages, polarized, -, -, -, answer⟩ :=
    exists_pointWith (covers.isSplit qualifies disagrees)
  obtain rfl := Option.some.inj ((if_pos disagrees).symm.trans disagreement)
  exact ⟨_, answer, ⟨r, member, disagreement, answer, rfl⟩, rfl, rfl, rfl, rfl⟩

/-! ## Lists of records -/

/-- The genuine disagreements among records go with some of the points, in order. -/
theorem Covers.exists_matches (covers : d.Covers s) {seen : List StanceRecord}
    {answers : List (Option DivergencePoint)} (among : ∀ r ∈ seen, r ∈ records)
    (h : List.Forall₂ (fun r p? => d.point? r = .ok p?) seen answers) :
    ∃ shared, List.Sublist shared (answers.filterMap id) ∧
      List.Forall₂ (fun g p => g.Matches s d records p) (s.disagreements (s.qualifying seen))
        shared := by
  induction h with
  | nil => exact ⟨[], .slnil, .nil⟩
  | @cons r p? rest answers first _ ih =>
      obtain ⟨member, others⟩ := List.forall_mem_cons.1 among
      obtain ⟨shared, sub, matched⟩ := ih others
      -- a record that is left out, or is no disagreement, may still be a point
      have skip : List.Sublist shared ((p? :: answers).filterMap id) := by
        cases p? with
        | none => exact sub
        | some p => exact sub.cons p
      unfold Synthesis.qualifying Synthesis.disagreements at matched ⊢
      cases qualifies : r.qualifies s.minParticipation with
      | false => exact ⟨shared, skip, by simpa [List.filter_cons, qualifies] using matched⟩
      | true =>
          simp only [List.filter_cons, qualifies, if_true]
          cases disagreement : s.disagreement? r with
          | none => exact ⟨shared, skip, by rwa [List.filterMap_cons_none disagreement]⟩
          | some g =>
              obtain ⟨p, answer, same⟩ := covers.exists_matching member qualifies disagreement
              obtain rfl := Except.ok.inj (first.symm.trans answer)
              rw [List.filterMap_cons_some disagreement]
              exact ⟨p :: shared, sub.cons_cons p, .cons same matched⟩

/-- **Common ground and divergence agree.**  Every record gets an answer from the divergence, and the
genuine disagreements of the synthesis go, in order, with some of its points, of the same records and with
the same statements, counts and reasons.  What the two report is this. -/
theorem disagreements_diverge (covers : d.Covers s) (records : List StanceRecord) :
    ∃ answers shared, records.mapM d.point? = .ok answers ∧
      List.Sublist shared (answers.filterMap id) ∧
      List.Forall₂ (fun g p => g.Matches s d records p) (s.disagreements (s.qualifying records))
        shared ∧
      (∀ report, s.report records = .ok report →
        report.disagreements = s.disagreements (s.qualifying records)) ∧
      ∀ topic report, d.report topic records = .ok report → report.points = answers.filterMap id := by
  obtain ⟨answers, hanswers⟩ := exists_points d records
  obtain ⟨shared, sub, matched⟩ := covers.exists_matches (fun _ => id) (mapM_eq_ok_iff.1 hanswers)
  refine ⟨answers, shared, hanswers, sub, matched, ?_, ?_⟩
  · intro report h
    obtain ⟨zones, -, h⟩ := bind_eq_ok_iff.1 h
    obtain ⟨consensus, -, rfl⟩ := map_eq_ok_iff.1 h
    rfl
  · intro topic report h
    unfold Divergence.report at h
    rw [hanswers, ok_bind] at h
    obtain ⟨polarized, -, rfl⟩ := map_eq_ok_iff.1 h
    rfl

/-- An even split, one that a synthesis calls too small on one side, and one with few stances. -/
def threeSplits : List StanceRecord := [
  { id := "p1", statement := "Libraries should open on Sundays.", support := 3, oppose := 4
    nuanced := 1, consensus := none, alignments := [⟨"u1", .support, some "Families have time."⟩] },
  { id := "p2", statement := "Parking should be free.", support := 8, oppose := 2, nuanced := 0
    consensus := none, alignments := [] },
  { id := "p3", statement := "The fair should move.", support := 1, oppose := 1, nuanced := 0
    consensus := none, alignments := [] }]

theorem threeSplits_diverge : Divergence.default.Covers Synthesis.default ∧
    ∃ answers shared, threeSplits.mapM Divergence.default.point? = .ok answers ∧
      List.Sublist shared (answers.filterMap id) ∧
      List.Forall₂ (fun g p => g.Matches Synthesis.default Divergence.default threeSplits p)
        (Synthesis.default.disagreements (Synthesis.default.qualifying threeSplits)) shared ∧
      shared.length = 1 ∧ (answers.filterMap id).length = 2 := by
  have covers : Divergence.default.Covers Synthesis.default := ⟨rfl, rfl, by decide +kernel⟩
  obtain ⟨answers, shared, answered, sub, matched, -⟩ := disagreements_diverge covers threeSplits
  refine ⟨covers, answers, shared, answered, sub, matched, ?_, ?_⟩
  · rw [← matched.length_eq]
    decide +kernel
  · have two : (threeSplits.mapM Divergence.default.point?).toOption.map
        (fun answers => (answers.filterMap id).length) = some 2 := by decide +kernel
    rw [answered] at two
    exact Option.some.inj two

end Divergence

end Deliberation
