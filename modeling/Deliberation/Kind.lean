/-
# Kind -- the five kinds of feedback

`affirmation` is what a text gets when nothing was found in it; the other four are issues.  The
declared order is the order of reports.
-/

set_option autoImplicit false

namespace Deliberation

inductive FeedbackKind where
  | affirmation
  | inflammatory
  | fallacy
  | unsourced
  | bias
  deriving DecidableEq, Repr

namespace FeedbackKind

/-- Every kind, in declared order. -/
def all : List FeedbackKind := [affirmation, inflammatory, fallacy, unsourced, bias]

/-- The label of a kind in records, corpora and reports. -/
def label : FeedbackKind → String
  | affirmation => "AFFIRMATION"
  | inflammatory => "INFLAMMATORY"
  | fallacy => "FALLACY"
  | unsourced => "UNSOURCED"
  | bias => "BIAS"

/-- The kind with a given label. -/
def ofLabel? (label : String) : Option FeedbackKind := all.find? fun kind => kind.label == label

end FeedbackKind

end Deliberation
