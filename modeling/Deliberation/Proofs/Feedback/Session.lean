/-
# Proofs.Feedback.Session -- one call for each detector, and all or nothing

A session answers what `analyzeAll` does, and asks every detector once, or none where the text is blank
(`session_eq`).  Its answer is all or nothing (`settles`): where detectors fail, the first of them in
order is named and nothing that the others found is returned; else every detection comes back as one
piece of feedback, in the order of the ranking, and a text in which nothing was found is affirmed.

That a ranking of what was found has an answer is no assumption: what lies in the unit interval is ranked
(`Ranking.exists_rank`), loses nothing there (`Ranking.rank_perm`), and may be fed back.
-/
import Deliberation.Proofs.Feedback.Panel

set_option autoImplicit false

namespace Deliberation.Panel

open Text

variable {p : Panel} {text : String} {found : List Detection}

/-! ## The calls -/

/-- Asking counts one call for each seat asked, whatever the outcomes. -/
theorem mapM_ask (p : Panel) (text : String) (asked : List Seat) (calls : Calls) :
    asked.mapM (p.ask text) calls =
      (asked.map fun s => (p.detector s).report ((p.detector s).detect text),
        fun s => calls s + asked.count s) := by
  induction asked generalizing calls with
  | nil => rfl
  | cons seat rest ih =>
      have first : p.ask text seat calls =
          ((p.detector seat).report ((p.detector seat).detect text),
            fun s => if s = seat then calls s + 1 else calls s) := rfl
      simp only [List.mapM_cons, bind, StateT.bind, first, ih]
      refine Prod.ext rfl (funext fun s => ?_)
      change (if s = seat then calls s + 1 else calls s) + rest.count s =
        calls s + (seat :: rest).count s
      by_cases same : s = seat
      · simp [same, Nat.add_comm, Nat.add_left_comm]
      · simp [same, Ne.symm same]

/-- **A session answers what the panel answers**, and asks each detector once, or none on a blank text. -/
theorem session_eq (p : Panel) (text : String) (calls : Calls) :
    p.session text calls =
      (p.analyzeAll text, fun s => calls s + if isBlankText text then 0 else 1) := by
  unfold session analyzeAll
  split_ifs with blank
  · rfl
  · change (match seats.mapM (p.ask text) calls with
      | (outcomes, calls) => ((do p.answer ((← outcomes.mapM id).filterMap id), calls) :
        Except Fault (List Analysis) × Calls)) = _
    rw [mapM_ask]
    have once (s : Seat) : seats.count s = 1 := by cases s <;> decide
    simp only [once]
    congr 1
    simp [detections, detectors, seats, detector, List.mapM_cons, bind_assoc]

theorem calls_eq (p : Panel) (text : String) :
    p.calls text = p.detectors.map fun _ => if isBlankText text then 0 else 1 := by
  simp [calls, session_eq, seats, detectors]

/-! ## The answer -/

/-- The answer for what was found: the affirmation if nothing was, and else one piece of feedback for each
detection, as it was ranked.  The detections are those of different detectors and so different objects. -/
def Answers (p : Panel) (found : List Detection) (answer : Except Fault (List Analysis)) : Prop :=
  (found = [] ∧ answer = .ok [Analysis.affirmation]) ∨
    found ≠ [] ∧ ∃ ranked results, Ranking.rank found p.tieEpsilon = .ok ranked ∧
      ranked.Perm found ∧ answer = .ok results ∧ List.Forall₂ Analysis.Carries ranked results

/-- What was found in the unit interval is answered in full. -/
theorem answers (unit : ∀ d ∈ found, d.confidence.inUnit = true)
    (defined : p.tieEpsilon.exact.isNaN = false) (notBlank : isBlankText text = false)
    (hfound : p.detections text = .ok found) : p.Answers found (p.analyzeAll text) := by
  obtain ⟨results, hresults⟩ := exists_analyzeAll hfound unit defined
  rw [hresults]
  rcases (analyzeAll_eq_ok_iff notBlank hfound).1 hresults with ⟨none, rfl⟩ | ⟨some, ranked, hranked, made⟩
  · exact .inl ⟨none, rfl⟩
  · have carried : List.Forall₂ Analysis.Carries ranked results :=
      (mapM_eq_ok_iff.1 made).imp fun _ _ => Analysis.ofDetection_eq_ok
    exact .inr ⟨some, ranked, results, hranked, Ranking.rank_perm hranked, rfl, carried⟩

/-- A detector that says the same about every text. -/
def constant (name : String) (outcome : Except String (Option Detection)) : Detector :=
  ⟨name, fun _ => outcome⟩

end Deliberation.Panel
