/-
# Calibration.Benchmark -- feedback against labels

A benchmark compares the winning feedback on every sample with its label.  Each comparison is an
`Outcome`, and goes into a `Ledger`: it counts in one of four cells for every kind, and is either right
or a misclassification.  The rates and averages of a `BenchmarkReport` are computed from the ledger.
-/
import Deliberation.Calibration.Corpus
import Deliberation.Feedback.Panel

set_option autoImplicit false

namespace Deliberation

/-- How often a kind was chosen and expected. -/
structure KindMetrics where
  kind : FeedbackKind
  truePositives : Int
  falsePositives : Int
  falseNegatives : Int
  trueNegatives : Int
  deriving DecidableEq

/-- A quotient, or zero where the divisor is not positive. -/
def rate (num den : Int) : Except NumberFault Binary64 :=
  if 0 < den then Binary64.ofRatio num den else .ok (.finite 0)

namespace KindMetrics

/-- How often the kind was expected. -/
def support (m : KindMetrics) : Int := m.truePositives + m.falseNegatives

/-- The share of right choices among the choices of the kind. -/
def precisionRate (m : KindMetrics) : Except NumberFault Binary64 :=
  rate m.truePositives (m.truePositives + m.falsePositives)

/-- The share of samples of the kind that were chosen right. -/
def recallRate (m : KindMetrics) : Except NumberFault Binary64 := rate m.truePositives m.support

/-- The harmonic mean of precision and recall; zero where both are zero. -/
def f1 (m : KindMetrics) : Except NumberFault Binary64 := do
  let p ← m.precisionRate
  let r ← m.recallRate
  let sum := p + r
  if Binary64.finite 0 < sum then return Binary64.finite 2 * p * r / sum else return .finite 0

/-- The kind occurs in reports: it was expected or wrongly chosen. -/
def isActive (m : KindMetrics) : Bool := decide (0 < m.support) || decide (0 < m.falsePositives)

end KindMetrics

/-- A sample that got another kind of feedback than expected. -/
structure Misclassification where
  expected : String
  predicted : String
  predictedSubtype : Option String
  confidence : Number
  text : String
  source : String
  notes : Option String
  deriving DecidableEq

structure BenchmarkReport where
  totalSamples : Int
  cleanSamples : Int
  flaggedSamples : Int
  metrics : List KindMetrics
  accuracy : Number
  macroPrecision : Number
  macroRecall : Number
  macroF1 : Number
  subtypeAccuracy : Option Number
  confidenceWhenRight : Number
  confidenceWhenWrong : Number
  misclassifications : List Misclassification
  deriving DecidableEq

/-- A sample and the feedback it got. -/
structure Outcome where
  sample : Sample
  result : Analysis
  deriving DecidableEq

namespace Outcome

/-- The feedback is of the expected kind. -/
def isRight (o : Outcome) : Bool := o.result.kind = o.sample.expected

/-- The subtype counts: the kind is right and a subtype is labelled. -/
def checksSubtype (o : Outcome) : Bool :=
  o.isRight && o.sample.subtype.any fun s => !s.isEmpty

def subtypeIsRight (o : Outcome) : Bool := o.result.subtype = o.sample.subtype

/-- What a report keeps of a wrong outcome; of the text, the first 200 characters. -/
def misclassification (o : Outcome) : Misclassification where
  expected := o.sample.expected.label
  predicted := o.result.kind.label
  predictedSubtype := o.result.subtype
  confidence := o.result.confidence
  text := Text.cutText 200 o.sample.text
  source := o.sample.source
  notes := some o.sample.notes

end Outcome

/-! ## The ledger -/

namespace KindMetrics

/-- Nothing counted yet. -/
def zero (kind : FeedbackKind) : KindMetrics := ⟨kind, 0, 0, 0, 0⟩

/-- One more outcome counted, in one of the four cells. -/
def tally (m : KindMetrics) (o : Outcome) : KindMetrics :=
  if o.result.kind = m.kind then
    if o.sample.expected = m.kind then { m with truePositives := m.truePositives + 1 }
    else { m with falsePositives := m.falsePositives + 1 }
  else if o.sample.expected = m.kind then { m with falseNegatives := m.falseNegatives + 1 }
  else { m with trueNegatives := m.trueNegatives + 1 }

end KindMetrics

/-- What was counted so far. -/
structure Ledger where
  metrics : List KindMetrics
  right : Nat
  subtypesChecked : Nat
  subtypesRight : Nat
  confidencesRight : List Number
  confidencesWrong : List Number
  misclassifications : List Misclassification

namespace Ledger

def empty : Ledger where
  metrics := FeedbackKind.all.map .zero
  right := 0
  subtypesChecked := 0
  subtypesRight := 0
  confidencesRight := []
  confidencesWrong := []
  misclassifications := []

/-- One more outcome, counted for every kind.  Only what is right has its subtype checked. -/
def record (l : Ledger) (o : Outcome) : Ledger :=
  let l := { l with metrics := l.metrics.map (KindMetrics.tally · o) }
  if o.isRight then
    let l := { l with
      right := l.right + 1
      confidencesRight := l.confidencesRight ++ [o.result.confidence] }
    if o.checksSubtype then
      { l with
        subtypesChecked := l.subtypesChecked + 1
        subtypesRight := l.subtypesRight + if o.subtypeIsRight then 1 else 0 }
    else l
  else
    { l with
      confidencesWrong := l.confidencesWrong ++ [o.result.confidence]
      misclassifications := l.misclassifications ++ [o.misclassification] }

/-- The ledger of some outcomes. -/
def of (outcomes : List Outcome) : Ledger := outcomes.foldl record empty

end Ledger

/-! ## The report -/

namespace Benchmark

/-- The mean of doubles; zero without any. -/
def mean (xs : List Binary64) : Binary64 :=
  if xs.isEmpty then .finite 0 else xs.foldl (· + ·) (.finite 0) / .ofNat xs.length

/-- The mean of confidences, to four places. -/
def meanConfidence (confidences : List Number) : Except NumberFault Number := do
  return .real ((mean (← confidences.mapM Number.toBinary64)).roundPlaces 4)

/-- A share of a whole, to four places; zero of nothing. -/
def share (part whole : Nat) : Except NumberFault Number := do
  return .real ((← rate part whole).roundPlaces 4)

/-- The share of right subtypes among those checked; none where none were. -/
def subtypeShare (l : Ledger) : Except NumberFault (Option Number) :=
  if l.subtypesChecked = 0 then .ok none
  else some <$> share l.subtypesRight l.subtypesChecked

/-- The mean of a rate over kinds, to four places. -/
def macroMean (f : KindMetrics → Except NumberFault Binary64) (metrics : List KindMetrics) :
    Except NumberFault Number := do
  return .real ((mean (← metrics.mapM f)).roundPlaces 4)

/-- The report on some outcomes. -/
def report (outcomes : List Outcome) : Except NumberFault BenchmarkReport := do
  let ledger := Ledger.of outcomes
  let active := ledger.metrics.filter fun m => decide (0 < m.support)
  let clean := outcomes.countP fun o => o.sample.isClean
  return {
    totalSamples := outcomes.length
    cleanSamples := clean
    flaggedSamples := outcomes.length - clean
    metrics := ledger.metrics
    subtypeAccuracy := ← subtypeShare ledger
    accuracy := ← share ledger.right outcomes.length
    macroPrecision := ← macroMean KindMetrics.precisionRate active
    macroRecall := ← macroMean KindMetrics.recallRate active
    macroF1 := ← macroMean KindMetrics.f1 active
    confidenceWhenRight := ← meanConfidence ledger.confidencesRight
    confidenceWhenWrong := ← meanConfidence ledger.confidencesWrong
    misclassifications := ledger.misclassifications }

/-- The feedback of a panel on each sample. -/
def outcomes (panel : Panel) (samples : List Sample) : Except Fault (List Outcome) :=
  samples.mapM fun s => do return ⟨s, ← panel.analyze s.text⟩

/-- The report of a panel on samples. -/
def evaluate (panel : Panel) (samples : List Sample) : Except Fault BenchmarkReport := do
  return ← report (← outcomes panel samples)

/-- The report of a panel on a directory of corpus files. -/
def run (panel : Panel) (directory : String) (entries : List (String × Directory.Entry)) :
    Except Fault BenchmarkReport := do
  let samples ← Corpus.parseAll entries
  if samples.isEmpty then throw (.noSamples directory)
  evaluate panel samples

end Benchmark

end Deliberation
