/-
# Calibration.Options -- the command line of the calibration gate

Four long options, which may be shortened as long as at least a letter is left, and a request for help,
which may be repeated in one word.  The value of an option follows it or stands after an equals sign; of
several values the last counts.  A value begins with a hyphen only where it is a negative number, a
single hyphen or holds a space; two hyphens after an equals sign leave the option without a value.
-/
import Deliberation.Number.Reading

set_option autoImplicit false

namespace Deliberation

open Text

/-- What the calibration gate is told to do.  An option may be left without a value. -/
structure GateOptions where
  corpusDirectory : Option String
  outputDirectory : Option String
  json : Bool
  minAccuracy : Option Binary64
  deriving DecidableEq

/-- Why a command line gives no options: help is asked for, or there is something wrong with it. -/
inductive UsageRequest where
  | help
  | misuse
  deriving DecidableEq, Repr

namespace GateOptions

def default : GateOptions where
  corpusDirectory := some "calibration/corpus"
  outputDirectory := some "calibration/reports"
  json := false
  minAccuracy := some (.ofDecimal 8 1)

/-- The lines that tell how the gate is called. -/
def usage : String :=
  "usage: calibration [-h] [--corpus-dir CORPUS_DIR] [--output-dir OUTPUT_DIR] [--json]\n" ++
  "                   [--min-accuracy MIN_ACCURACY]\n"

/-! ## Single arguments -/

inductive Name where
  | help
  | corpusDir
  | outputDir
  | json
  | minAccuracy
  deriving DecidableEq

/-- The long names. -/
def Name.all : List (String × Name) := [
  ("--help", help), ("--corpus-dir", corpusDir), ("--output-dir", outputDir), ("--json", json),
  ("--min-accuracy", minAccuracy)]

/-- A hyphen and a decimal number: digits, perhaps none before a point, and digits after the point. -/
def isNegativeNumber (argument : List Char) : Bool :=
  match argument with
  | '-' :: number =>
    let number := if number.getLast? = some '\n' then number.dropLast else number
    match number.dropWhile isDigit with
    | [] => !number.isEmpty
    | '.' :: part => !part.isEmpty && part.all isDigit
    | _ => false
  | _ => false

/-- One argument by itself. -/
inductive Argument where
  | value
  | option (name : Name) (value : Option String)
  | unknown
  /-- Several names begin as the argument does. -/
  | ambiguous
  deriving DecidableEq

/-- The name that begins with a text, or is it; with none of them the answer is by default. -/
def longOption (written : String) (value : Option String) (otherwise : Argument) : Argument :=
  match Name.all.filter fun (name, _) => name.startsWith written with
  | [] => otherwise
  | [(_, name)] => .option name value
  | _ :: _ :: _ => .ambiguous

/-- The request for help with more letters written to it: a request again where all ask for help, else
one with a value. -/
def Argument.helpWith (letters : List Char) : Argument :=
  .option .help (if letters ≠ [] ∧ letters.all (· = 'h') then none else some (String.ofList letters))

/-- An argument by itself. -/
def Argument.ofText (argument : String) : Argument :=
  let cs := argument.toList
  let plain : Argument := if isNegativeNumber cs || cs.contains ' ' then .value else .unknown
  match cs with
  | '-' :: '-' :: _ =>
    let name := String.ofList (cs.takeWhile (· ≠ '='))
    match cs.dropWhile (· ≠ '=') with
    | '=' :: rest => longOption name (some (String.ofList rest)) plain
    | _ => longOption argument none plain
  | ['-', 'h'] => .option .help none
  | '-' :: 'h' :: '=' :: letters => .helpWith letters
  | '-' :: 'h' :: letters => .helpWith letters
  | ['-'] => .value
  | '-' :: _ => plain
  | _ => .value

/-! ## The command line -/

/-- The options with one of them set to a value. -/
def setValue (o : GateOptions) (name : Name) (value : String) : Except UsageRequest GateOptions :=
  let given? := if value = "--" then none else some value
  match name with
  | .corpusDir => .ok { o with corpusDirectory := given? }
  | .outputDir => .ok { o with outputDirectory := given? }
  | .minAccuracy =>
    match given?.map Binary64.ofText? with
    | none => .ok { o with minAccuracy := none }
    | some (some x) => .ok { o with minAccuracy := some x }
    | some none => .error .misuse
  | .help | .json => .error .misuse

/-- The options after the rest of a command line; `known` as long as nothing else stood in it. -/
def readFrom (o : GateOptions) (known : Bool) : List String → Except UsageRequest GateOptions
  | [] => if known then .ok o else .error .misuse
  | argument :: rest =>
    if argument = "--" then .error .misuse
    else
      match Argument.ofText argument with
      | .value | .unknown => readFrom o false rest
      | .ambiguous => .error .misuse
      | .option name (some value) => do readFrom (← o.setValue name value) known rest
      | .option .help none => .error .help
      | .option .json none => readFrom { o with json := true } known rest
      | .option name none =>
        match rest with
        | value :: rest =>
          if value ≠ "--" ∧ Argument.ofText value = .value then do
            readFrom (← o.setValue name value) known rest
          else .error .misuse
        | [] => .error .misuse

/-- The options of a command line.  An ambiguous argument before two bare hyphens counts first. -/
def ofArguments (arguments : List String) : Except UsageRequest GateOptions :=
  let leading := arguments.takeWhile (· ≠ "--")
  if leading.any fun argument => Argument.ofText argument = .ambiguous then .error .misuse
  else readFrom default true arguments

end GateOptions

end Deliberation
