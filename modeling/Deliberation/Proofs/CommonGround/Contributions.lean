/-
# Proofs.CommonGround.Contributions -- a synthesis is put together from single propositions

What a proposition brings into a synthesis is what the synthesis of it alone reports, a part.  A part
never tells of a disagreement beside an agreement zone or a misunderstanding, since the tests for these
ask for opposite sides of one threshold (`isDisagreement_of_isAgreement`, `isDisagreement_of_isNuanced`).
A report is its parts one after the other, but for the agreement zones, which stand by falling percentage
and else in the same order (`RankedZones`).

A proposition in which too few take part, or nobody, has an empty part, and counts neither in the mean
consensus: a list without such propositions has the same report (`report_filter`).  Every accepted list
has a report, whatever the thresholds (`assembled`).
-/
import Deliberation.Proofs.CommonGround.Tally
import Deliberation.Proofs.Proposition.Stances

set_option autoImplicit false

namespace Deliberation

open Binary64

/-! ## Order of the zones -/

/-- In a stable sort, elements that tie with each other stay as they were. -/
theorem filter_mergeSort {α : Type} {le : α → α → Bool}
    (trans : ∀ a b c, le a b = true → le b c = true → le a c = true)
    (total : ∀ a b, (le a b || le b a) = true) {keep : α → Bool}
    (tied : ∀ a b, keep a = true → keep b = true → le a b = true) (xs : List α) :
    (xs.mergeSort le).filter keep = xs.filter keep := by
  have ordered : (xs.filter keep).Pairwise fun a b => le a b = true :=
    List.pairwise_of_forall_mem_list fun a ha b hb =>
      tied a b (List.mem_filter.1 ha).2 (List.mem_filter.1 hb).2
  have inside := (List.sublist_mergeSort trans total ordered List.filter_sublist).filter keep
  rw [List.filter_filter] at inside
  simp only [Bool.and_self] at inside
  exact (inside.eq_of_length ((List.mergeSort_perm xs le).filter keep).length_eq.symm).symm

/-- Zones by falling percentage, those with equal ones as they were. -/
structure RankedZones (zones given : List AgreementZone) : Prop where
  perm : zones.Perm given
  falling : zones.Pairwise fun a b => b.percentage ≤ a.percentage
  ties : ∀ percentage : Int, zones.filter (fun z => z.percentage = percentage) =
    given.filter fun z => z.percentage = percentage

theorem rankedZones_mergeSort (given : List AgreementZone) :
    RankedZones (given.mergeSort fun a b => decide (b.percentage ≤ a.percentage)) given := by
  have trans (a b c : AgreementZone) (hab : decide (b.percentage ≤ a.percentage) = true)
      (hbc : decide (c.percentage ≤ b.percentage) = true) :
      decide (c.percentage ≤ a.percentage) = true := by
    simp only [decide_eq_true_eq] at *
    omega
  have total (a b : AgreementZone) : (decide (b.percentage ≤ a.percentage) ||
      decide (a.percentage ≤ b.percentage)) = true := by
    simp only [Bool.or_eq_true, decide_eq_true_eq]
    omega
  refine ⟨List.mergeSort_perm _ _, ?_, fun percentage => filter_mergeSort trans total ?_ given⟩
  · exact (List.pairwise_mergeSort trans total given).imp fun h => of_decide_eq_true h
  · intro a b ha hb
    simp only [decide_eq_true_eq] at *
    omega

namespace Synthesis

variable {s : Synthesis} {r : StanceRecord} {records : List StanceRecord}

/-! ## Tests that exclude each other -/

theorem isDisagreement_of_isAgreement (h : s.isAgreement r = true) : s.isDisagreement r = false := by
  have reached : s.agreementThreshold ≤ .real r.shares.support := of_decide_eq_true h
  have notBelow : ¬Number.real r.shares.support < s.agreementThreshold := fun below =>
    Number.not_le_of_lt below reached
  simp [isDisagreement, notBelow]

theorem isDisagreement_of_isNuanced (h : s.isNuanced r = true) : s.isDisagreement r = false := by
  have notBelow : ¬Number.real r.shares.nuanced < s.nuanceThreshold := by simpa [isNuanced] using h
  simp [isDisagreement, notBelow]

/-- Nobody took part, or too few. -/
def leavesOut (s : Synthesis) (r : StanceRecord) : Bool :=
  decide (r.total = 0) || decide (.whole r.total < s.minParticipation)

theorem leavesOut_of_qualifies (h : r.qualifies s.minParticipation = true) : s.leavesOut r = false := by
  simp only [StanceRecord.qualifies, Bool.and_eq_true, decide_eq_true_eq] at h
  obtain ⟨positive, enough⟩ := h
  have notFew : ¬Number.whole r.total < s.minParticipation := fun few =>
    Number.not_le_of_lt few enough
  simp [leavesOut, positive.ne', notFew]

/-! ## Answers -/

/-- The zone of a record, where its percentage has an answer. -/
def zoneOf (s : Synthesis) (r : StanceRecord) : Option AgreementZone :=
  match s.agreementZone? r with
  | .ok zone => zone
  | .error _ => none

/-- A record has a zone exactly where enough agree, and the zone tells the percentage. -/
theorem exists_zone (s : Synthesis) {percentage : ℤ}
    (answer : agreementPercentage (.whole r.support) (.whole r.oppose) (.whole r.nuanced) =
      .ok (some percentage)) :
    ∃ zone?, s.agreementZone? r = .ok zone? ∧ zone?.isSome = s.isAgreement r ∧
      ∀ zone ∈ zone?, zone.percentage = percentage := by
  unfold agreementZone?
  cases s.isAgreement r with
  | false => exact ⟨none, rfl, rfl, by simp⟩
  | true =>
      rw [if_pos rfl, answer]
      exact ⟨_, rfl, rfl, by rintro _ ⟨⟩; rfl⟩

theorem agreementZone?_eq (positive : 0 < r.total) : s.agreementZone? r = .ok (s.zoneOf r) := by
  obtain ⟨p, -, percentage⟩ := exists_agreementPercentage positive
  obtain ⟨zone, answer, -⟩ := exists_zone s percentage
  simp [zoneOf, answer]

theorem zoneOf_of_not_isAgreement (h : s.isAgreement r = false) : s.zoneOf r = none := by
  simp [zoneOf, agreementZone?, h]

/-- Recorded scores lie in the unit interval. -/
def Rated (records : List StanceRecord) : Prop :=
  ∀ r ∈ records, ∀ score, r.consensus = some score → OfUnit score

theorem exists_consensusOf (rated : ∀ score, r.consensus = some score → OfUnit score) :
    ∃ x, consensusOf r = .ok x ∧ OfUnit x := by
  unfold consensusOf
  cases recorded : r.consensus with
  | some score => exact ⟨score, rfl, rated score recorded⟩
  | none =>
      obtain ⟨x, answer, unit⟩ := exists_derivedConsensus r.support r.oppose r.nuanced
      exact ⟨x, answer, unit.ofUnit⟩

/-- **Rated records have a mean consensus**, and it is a score. -/
theorem exists_overallConsensus (rated : Rated records) :
    ∃ consensus, overallConsensus records = .ok consensus ∧ ∀ x, consensus = some x → UpTo 1 x := by
  unfold overallConsensus
  split_ifs with empty
  · exact ⟨none, rfl, by simp⟩
  · have each : ∀ r ∈ records, ∃ x, consensusOf r = .ok x := by
      intro r hr
      obtain ⟨x, answer, -⟩ := exists_consensusOf (rated r hr)
      exact ⟨x, answer⟩
    obtain ⟨scores, answered⟩ := exists_mapM_eq_ok each
    have unit : ∀ x ∈ scores, OfUnit x := by
      intro x hx
      obtain ⟨r, hr, answer⟩ := exists_step_of_mapM answered hx
      obtain ⟨y, answer', unit⟩ := exists_consensusOf (rated r hr)
      obtain rfl : x = y := Except.ok.inj (answer.symm.trans answer')
      exact unit
    have nonempty : scores ≠ [] := by
      rintro rfl
      have := (mapM_eq_ok_iff.1 answered).length_eq
      simp_all
    obtain ⟨y, rounded, score⟩ := roundHalfUp_of_unit (upTo_mean unit nonempty)
    refine ⟨some y, ?_, ?_⟩
    · rw [answered, ok_bind]
      dsimp only
      rw [rounded, map_ok]
    · rintro x ⟨⟩
      exact score

theorem agreementZones_eq (positive : ∀ r ∈ records, 0 < r.total) : s.agreementZones records =
    .ok ((records.filterMap s.zoneOf).mergeSort fun a b => decide (b.percentage ≤ a.percentage)) := by
  have answered : records.mapM s.agreementZone? = .ok (records.map s.zoneOf) := by
    rw [mapM_eq_ok_iff, List.forall₂_map_right_iff, List.forall₂_same]
    exact fun r hr => agreementZone?_eq (positive r hr)
  unfold agreementZones
  rw [answered, ok_bind, List.filterMap_map]
  rfl

theorem positive_of_mem_qualifying (h : r ∈ s.qualifying records) : 0 < r.total := by
  have qualifies := (List.mem_filter.1 h).2
  simp only [StanceRecord.qualifies, Bool.and_eq_true, decide_eq_true_eq] at qualifies
  exact qualifies.1

/-- **Rated records have a report**, made of what the qualifying ones bring in. -/
theorem exists_report (s : Synthesis) (rated : Rated records) :
    ∃ report, s.report records = .ok report ∧
      report.agreementZones = ((s.qualifying records).filterMap s.zoneOf).mergeSort
        (fun a b => decide (b.percentage ≤ a.percentage)) ∧
      report.misunderstandings = (s.qualifying records).filterMap s.misunderstanding? ∧
      report.disagreements = (s.qualifying records).filterMap s.disagreement? := by
  have rated' : Rated (s.qualifying records) := fun r hr => rated r (List.mem_of_mem_filter hr)
  obtain ⟨consensus, answer, -⟩ := exists_overallConsensus rated'
  unfold report
  dsimp only
  rw [agreementZones_eq fun r hr => positive_of_mem_qualifying hr, ok_bind, answer, ok_bind]
  exact ⟨_, rfl, rfl, rfl, rfl⟩

/-! ## Parts -/

/-- What is reported on a record alone: a disagreement at most apart from all else, and nothing at all
on a record that is left out. -/
structure Part (s : Synthesis) (r : StanceRecord) (part : SynthesisReport) : Prop where
  alone : s.report [r] = .ok part
  apart : part.disagreements = [] ∨ (part.agreementZones = [] ∧ part.misunderstandings = [])
  leftOut : s.leavesOut r = true → part = ⟨[], [], [], none⟩

theorem disagreement?_eq_none (h : s.isDisagreement r = false) : s.disagreement? r = none := by
  simp [disagreement?, h]

/-- A record brings in a disagreement, or else a zone or a misunderstanding. -/
theorem brings_apart (s : Synthesis) (r : StanceRecord) :
    s.disagreement? r = none ∨ (s.zoneOf r = none ∧ s.misunderstanding? r = none) := by
  cases agrees : s.isAgreement r with
  | true => exact .inl (disagreement?_eq_none (isDisagreement_of_isAgreement agrees))
  | false =>
      cases nuanced : s.isNuanced r with
      | true => exact .inl (disagreement?_eq_none (isDisagreement_of_isNuanced nuanced))
      | false =>
          exact .inr ⟨zoneOf_of_not_isAgreement agrees, by simp [misunderstanding?, nuanced]⟩

/-- The part of a record, and that it holds what the record brings in. -/
theorem exists_part (s : Synthesis) (rated : ∀ score, r.consensus = some score → OfUnit score) :
    ∃ part, s.Part r part ∧ part.agreementZones = (s.qualifying [r]).filterMap s.zoneOf ∧
      part.misunderstandings = (s.qualifying [r]).filterMap s.misunderstanding? ∧
      part.disagreements = (s.qualifying [r]).filterMap s.disagreement? := by
  have alone : Rated [r] := by
    intro r' hr
    rw [List.mem_singleton.1 hr]
    exact rated
  cases qualifies : r.qualifies s.minParticipation with
  | false =>
      have none : s.qualifying [r] = [] := by simp [qualifying, qualifies]
      refine ⟨⟨[], [], [], .none⟩, ⟨?_, .inl rfl, fun _ => rfl⟩, ?_⟩
      · unfold report
        rw [none]
        simp [agreementZones, disagreements, overallConsensus]
      · simp [none]
  | true =>
      obtain ⟨part, answer, zones, misunderstandings, disagreements⟩ := exists_report s alone
      have one : s.qualifying [r] = [r] := by simp [qualifying, qualifies]
      have single : (([r].filterMap s.zoneOf).mergeSort fun a b =>
          decide (b.percentage ≤ a.percentage)) = [r].filterMap s.zoneOf := by
        cases brought : s.zoneOf r <;> simp [brought]
      rw [one] at zones misunderstandings disagreements ⊢
      rw [single] at zones
      refine ⟨part, ⟨answer, ?_, fun out => ?_⟩, zones, misunderstandings, disagreements⟩
      · rw [zones, misunderstandings, disagreements]
        rcases brings_apart s r with none | ⟨noZone, noMisunderstanding⟩
        · exact .inl (by simp [none])
        · exact .inr ⟨by simp [noZone], by simp [noMisunderstanding]⟩
      · rw [leavesOut_of_qualifies qualifies] at out
        cases out

/-- A report and the parts that it is put together from. -/
structure Assembles (s : Synthesis) (records : List StanceRecord) (parts : List SynthesisReport)
    (report : SynthesisReport) : Prop where
  each : List.Forall₂ s.Part records parts
  zones : RankedZones report.agreementZones (parts.flatMap SynthesisReport.agreementZones)
  misunderstandings : report.misunderstandings = parts.flatMap SynthesisReport.misunderstandings
  disagreements : report.disagreements = parts.flatMap SynthesisReport.disagreements

theorem qualifying_cons (r : StanceRecord) (records : List StanceRecord) :
    s.qualifying (r :: records) = s.qualifying [r] ++ s.qualifying records := by
  cases qualifies : r.qualifies s.minParticipation <;> simp [qualifying, qualifies]

theorem exists_parts (s : Synthesis) (rated : Rated records) : ∃ parts,
    List.Forall₂ s.Part records parts ∧
    parts.flatMap SynthesisReport.agreementZones = (s.qualifying records).filterMap s.zoneOf ∧
    parts.flatMap SynthesisReport.misunderstandings =
      (s.qualifying records).filterMap s.misunderstanding? ∧
    parts.flatMap SynthesisReport.disagreements =
      (s.qualifying records).filterMap s.disagreement? := by
  induction records with
  | nil => exact ⟨[], .nil, rfl, rfl, rfl⟩
  | cons r rest ih =>
      obtain ⟨first, others⟩ := List.forall_mem_cons.1 rated
      obtain ⟨part, own, zones, misunderstandings, disagreements⟩ := exists_part s first
      obtain ⟨parts, owns, allZones, allMisunderstandings, allDisagreements⟩ := ih others
      refine ⟨part :: parts, .cons own owns, ?_⟩
      rw [qualifying_cons]
      simp [zones, misunderstandings, disagreements, allZones, allMisunderstandings, allDisagreements]

/-! ## Reports -/

theorem run_of_accepted {v : Value} (accepted : readStanceRecords v = .ok records) :
    s.run v = liftM (s.report records) := by
  unfold run
  rw [accepted]
  rfl

/-- Records that are left out leave no trace. -/
theorem report_filter (s : Synthesis) (records : List StanceRecord) :
    s.report (records.filter fun r => !s.leavesOut r) = s.report records := by
  have same : s.qualifying (records.filter fun r => !s.leavesOut r) = s.qualifying records := by
    unfold qualifying
    rw [List.filter_filter]
    refine List.filter_congr fun r _ => ?_
    cases qualifies : r.qualifies s.minParticipation with
    | false => rfl
    | true => rw [leavesOut_of_qualifies qualifies]; rfl
  unfold report
  rw [same]

/-- **Every accepted list has a report, put together from its propositions.**  None of them is both a
disagreement and an agreement zone or a misunderstanding; those in which nobody or too few take part bring
in nothing, and without them the report is the same. -/
theorem assembled (s : Synthesis) {vs : List Value} (accepted : readStanceRecords (.list vs) = .ok records) :
    ∃ report parts, s.run (.list vs) = .ok report ∧ s.Assembles records parts report ∧
      s.run (.list (valuesWhere (fun r => !s.leavesOut r) vs records)) = .ok report := by
  have rated : Rated records := fun r hr score recorded => ofUnit_of_accepted accepted hr recorded
  obtain ⟨report, answer, zones, misunderstandings, disagreements⟩ := exists_report s rated
  obtain ⟨parts, owns, zones', misunderstandings', disagreements'⟩ := exists_parts s rated
  refine ⟨report, parts, ?_, ⟨owns, ?_, ?_, ?_⟩, ?_⟩
  · rw [run_of_accepted accepted, answer]
    rfl
  · rw [zones, zones']
    exact rankedZones_mergeSort _
  · rw [misunderstandings, misunderstandings']
  · rw [disagreements, disagreements']
  · rw [run_of_accepted (readStanceRecords_filter accepted _), report_filter, answer]
    rfl

/-- Two zones at three quarters, where a quarter is against, a disagreement, and two too small. -/
def fiveStances : List StanceRecord := [
  { id := "p1", statement := "Libraries should open on Sundays.", support := 6, oppose := 2
    nuanced := 0, consensus := none, alignments := [⟨"u1", .support, some "Families have time."⟩] },
  { id := "p2", statement := "Parking should be free.", support := 2, oppose := 0, nuanced := 0
    consensus := none, alignments := [] },
  { id := "p3", statement := "The fair should move.", support := 4, oppose := 4, nuanced := 1
    consensus := some oneHalf, alignments := [] },
  { id := "p4", statement := "The bridge should be rebuilt.", support := 9, oppose := 3, nuanced := 0
    consensus := none, alignments := [] },
  { id := "p5", statement := "The square needs trees.", support := 0, oppose := 0, nuanced := 0
    consensus := none, alignments := [] }]

theorem fiveStances_assembled :
    readStanceRecords (.list (fiveStances.map StanceRecord.toValue)) = .ok fiveStances ∧
    ∃ report parts, default.run (.list (fiveStances.map StanceRecord.toValue)) = .ok report ∧
      default.Assembles fiveStances parts report ∧
      default.run (.list (valuesWhere (fun r => !default.leavesOut r)
        (fiveStances.map StanceRecord.toValue) fiveStances)) = .ok report ∧
      fiveStances.map default.leavesOut = [false, true, false, false, true] := by
  have accepted : readStanceRecords (.list (fiveStances.map StanceRecord.toValue)) =
      .ok fiveStances := by decide +kernel
  obtain ⟨report, parts, ran, assembles, same⟩ := assembled default accepted
  exact ⟨accepted, report, parts, ran, assembles, same, by decide +kernel⟩

end Synthesis

end Deliberation
