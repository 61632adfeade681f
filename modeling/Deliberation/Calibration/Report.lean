/-
# Calibration.Report -- a benchmark as text and as a record

The text has fixed columns and rounds rates to a tenth of a percent or to whole percents; the record
keeps the numbers as they are.  Kinds are listed by falling support and then by falling F1.
-/
import Deliberation.Calibration.Benchmark
import Deliberation.Sorting

set_option autoImplicit false

namespace Deliberation

open Text

namespace KindMetrics

/-- A row of the table of kinds. -/
def row (m : KindMetrics) : Except NumberFault String := do
  let percent (x : Binary64) : String := x.percent 0
  return padRight 14 m.kind.label ++ " " ++
    padLeft 5 (percent (← m.precisionRate)) ++ " " ++
    padLeft 6 (percent (← m.recallRate)) ++ " " ++
    padLeft 5 (percent (← m.f1)) ++ " " ++
    padLeft 4 (intDigits m.truePositives) ++ " " ++
    padLeft 4 (intDigits m.falsePositives) ++ " " ++
    padLeft 4 (intDigits m.falseNegatives) ++ " " ++
    padLeft 7 (intDigits m.support)

def toValue (m : KindMetrics) : Except NumberFault Value := do
  return .record [
    ("precision", .real (← m.precisionRate)),
    ("recall", .real (← m.recallRate)),
    ("f1", .real (← m.f1)),
    ("tp", .whole m.truePositives),
    ("fp", .whole m.falsePositives),
    ("fn", .whole m.falseNegatives),
    ("support", .whole m.support)]

end KindMetrics

def Misclassification.toValue (m : Misclassification) : Value :=
  .record [
    ("expected", .text m.expected),
    ("predicted", .text m.predicted),
    ("predicted_subtype", .optText m.predictedSubtype),
    ("confidence", .number m.confidence),
    ("text", .text m.text),
    ("source", .text m.source),
    ("notes", .optText m.notes)]

/-- The lines about a wrong outcome; of the text, the first eighty characters. -/
def Misclassification.lines (m : Misclassification) : List String :=
  ("  [" ++ m.expected ++ " -> " ++ m.predicted ++ "] " ++ cutText 80 m.text ++ "...") ::
    match m.notes with
    | some notes => if notes.isEmpty then [] else ["    Notes: " ++ notes]
    | none => []

namespace BenchmarkReport

/-- The kinds of a report, the most frequent first and then the best. -/
def sortedMetrics (r : BenchmarkReport) : Except NumberFault (List KindMetrics) := do
  let scored ← r.metrics.mapM fun m => do return (m, ← m.f1)
  let precedes (a b : KindMetrics × Binary64) : Bool :=
    decide (b.1.support < a.1.support) || (a.1.support == b.1.support && b.2.lt a.2)
  return (sortBy precedes scored).map (·.1)

/-- A line of a character. -/
def ruler (c : Char) : String := String.ofList (List.replicate 60 c)

/-- The report as text. -/
def format (r : BenchmarkReport) : Except NumberFault String := do
  let tenths (n : Number) : Except NumberFault String := do return (← n.toBinary64).percent 1
  let hundredths (n : Number) : Except NumberFault String := do return (← n.toBinary64).fixed 2
  let subtype ←
    match r.subtypeAccuracy with
    | some share => tenths share
    | none => .ok "n/a"
  let rows ← ((← r.sortedMetrics).filter KindMetrics.isActive).mapM KindMetrics.row
  let misses := (r.misclassifications.take 10).flatMap Misclassification.lines
  let lines := [
    ruler '=',
    "REASONBRIDGE FEEDBACK CALIBRATION REPORT",
    ruler '=',
    "",
    "Samples: " ++ intDigits r.totalSamples ++ " (" ++ intDigits r.cleanSamples ++ " clean, " ++
      intDigits r.flaggedSamples ++ " flagged)",
    "",
    "--- OVERALL METRICS ---",
    "Accuracy:        " ++ (← tenths r.accuracy),
    "Macro precision: " ++ (← tenths r.macroPrecision),
    "Macro recall:    " ++ (← tenths r.macroRecall),
    "Macro F1:        " ++ (← tenths r.macroF1),
    "Subtype accuracy: " ++ subtype,
    "",
    "--- CONFIDENCE ---",
    "Avg confidence (correct):   " ++ (← hundredths r.confidenceWhenRight),
    "Avg confidence (incorrect): " ++ (← hundredths r.confidenceWhenWrong),
    "",
    "--- PER-TYPE BREAKDOWN ---",
    padRight 14 "Type" ++ " " ++ padLeft 6 "Prec" ++ " " ++ padLeft 6 "Recall" ++ " " ++
      padLeft 6 "F1" ++ " " ++ padLeft 4 "TP" ++ " " ++ padLeft 4 "FP" ++ " " ++
      padLeft 4 "FN" ++ " " ++ padLeft 7 "Support",
    ruler '-'] ++ rows ++
    (if misses.isEmpty then [] else ["", "--- MISCLASSIFICATIONS ---"] ++ misses) ++
    ["", ruler '=']
  return "\n".intercalate lines

/-- The report as a record. -/
def toValue (r : BenchmarkReport) : Except NumberFault Value := do
  let perKind ← (r.metrics.filter KindMetrics.isActive).mapM fun m => do
    return (m.kind.label, ← m.toValue)
  return .record [
    ("total_samples", .whole r.totalSamples),
    ("clean_samples", .whole r.cleanSamples),
    ("flagged_samples", .whole r.flaggedSamples),
    ("overall", .record [
      ("accuracy", .number r.accuracy),
      ("precision", .number r.macroPrecision),
      ("recall", .number r.macroRecall),
      ("f1", .number r.macroF1),
      ("subtype_accuracy", (r.subtypeAccuracy.map Value.number).getD .null)]),
    ("confidence", .record [
      ("correct", .number r.confidenceWhenRight),
      ("incorrect", .number r.confidenceWhenWrong)]),
    ("per_type", .record perKind),
    ("misclassifications", .list (r.misclassifications.map Misclassification.toValue))]

end BenchmarkReport

end Deliberation
