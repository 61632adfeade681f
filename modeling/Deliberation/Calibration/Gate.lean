/-
# Calibration.Gate -- passing or failing a calibration

The gate scores a corpus, writes the report as text and as JSON and says whether the accuracy reaches a
minimum.  `GateOptions.run` takes what stands in the corpus directory and answers what is printed, what is
written and the status: 0 for a pass, 1 where there is nothing to score, 2 for an accuracy below the
minimum.  A missing directory for the reports, or one that cannot be made, shows only when there is a
report to write, and a missing minimum only when it has been written.
-/
import Deliberation.Calibration.FileTree
import Deliberation.Calibration.Options
import Deliberation.Calibration.Report
import Deliberation.Value.Printer

set_option autoImplicit false

namespace Deliberation

/-- What a run of the gate prints, writes and answers. -/
structure GateOutcome where
  status : Nat
  output : String
  files : List (String × String)
  deriving DecidableEq

namespace GateOptions

/-- The accuracy of a report does not reach a minimum. -/
def fails (minimum : Binary64) (r : BenchmarkReport) : Bool := decide (r.accuracy < .real minimum)

/-- The names of the report as text and as JSON. -/
def reportNames : List String := ["calibration_report.txt", "calibration_report.json"]

/-- The outcome without a sample to score. -/
def nothingToScore (reason directory : String) : GateOutcome :=
  ⟨1, "Error: " ++ reason ++ " " ++ directory ++ "\n", []⟩

/-- A value of an option that has to have one. -/
def needed {α : Type} (value : Option α) : Except Fault α :=
  match value with
  | some a => .ok a
  | none => .error .wrongType

/-- The outcome for a report on a number of samples from a directory. -/
def judge (o : GateOptions) (directory output : String) (minimum : Binary64) (count : Nat)
    (r : BenchmarkReport) : Except NumberFault GateOutcome := do
  let text ← r.format
  let json := (← r.toValue).toIndentedJson
  let textFile := Directory.file output "calibration_report.txt"
  let jsonFile := Directory.file output "calibration_report.json"
  let failing := fails minimum r
  let printed :=
    if o.json then json ++ "\n"
    else
      "Loaded " ++ natDigits count ++ " samples from " ++ directory ++ "\n" ++ text ++ "\n" ++
        "\nReport saved to: " ++ textFile ++ "\n" ++
        "JSON saved to:   " ++ jsonFile ++ "\n" ++
        if failing then "\nAccuracy below " ++ minimum.percent 0 ++ ": calibration failing\n" else ""
  return ⟨if failing then 2 else 0, printed, [(textFile, text), (jsonFile, json)]⟩

/-- The outcome for what stands in the corpus directory, where there is one.  `writable` tells whether the
reports can be written to a directory. -/
def run (o : GateOptions) (panel : Panel) (corpus : Option (List (String × Directory.Entry)))
    (writable : String → Except Fault Unit) : Except Fault GateOutcome := do
  let directory := Directory.plain (← needed o.corpusDirectory)
  match corpus with
  | none => return nothingToScore "Corpus directory not found:" directory
  | some entries =>
    let samples ← Corpus.parseAll entries
    if samples.isEmpty then return nothingToScore "No samples found in" directory
    let report ← Benchmark.run panel directory entries
    let output ← needed o.outputDirectory
    writable output
    return ← o.judge directory output (← needed o.minAccuracy) samples.length report

/-- The outcome in a tree of files. -/
def runIn (o : GateOptions) (panel : Panel) (t : FileTree) : Except Fault GateOutcome :=
  o.run panel (t.entriesIn? (o.corpusDirectory.getD "")) fun directory =>
    t.checkFiles directory reportNames

end GateOptions

end Deliberation
