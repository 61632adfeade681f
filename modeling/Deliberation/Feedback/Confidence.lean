/-
# Feedback.Confidence -- how sure a detector is

A detector is as sure as its weighted matches make it: a base and an increment for each, kept between
a floor (one plain match) and a cap.  Only when rules of two subtypes agree does the higher,
corroborated cap hold.
-/
import Deliberation.Number.Rounding

set_option autoImplicit false

namespace Deliberation

/-- The parameters of one detector's confidence. -/
structure ConfidenceModel where
  base : Number
  increment : Number
  cap : Number
  corroboratedCap : Number
  deriving DecidableEq

namespace ConfidenceModel

/-- The corroborated cap where none is stated. -/
def certainty : Number := .real (.finite 1)

/-- A model of hundredths, which may reach certainty when corroborated. -/
def ofHundredths (base increment cap : Nat) : ConfidenceModel :=
  let hundredths (n : Nat) : Number := .real (.ofDecimal n 2)
  ⟨hundredths base, hundredths increment, hundredths cap, certainty⟩

/-- The least confidence of a detector that reports. -/
def floor (m : ConfidenceModel) : Except NumberFault Number := do
  return (← m.base.add m.increment).least m.cap

/-- The confidence for weighted matches from a number of families, to four places. -/
def score (m : ConfidenceModel) (weighted families : Number) :
    Except NumberFault Binary64 := do
  let ceiling := if Number.whole 2 ≤ families then m.corroboratedCap else m.cap
  let raw ← m.base.add (← weighted.mul m.increment)
  let bounded := (← m.floor).greatest (raw.least ceiling)
  return bounded.clampUnit.roundPlaces 4

def tone : ConfidenceModel := ofHundredths 65 10 95

def fallacy : ConfidenceModel := ofHundredths 70 8 92

def unsourced : ConfidenceModel := ofHundredths 65 8 88

def bias : ConfidenceModel := ofHundredths 60 8 85

end ConfidenceModel

end Deliberation
