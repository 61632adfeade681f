/-
# Calibration.Corpus -- labelled samples in a text file

A corpus file holds blocks between delimiter lines `---`.  A block begins with header lines `name:
value`, and what follows the headers is the text of one sample; comment lines begin with `#` and count
nowhere.  `Corpus.parse` reads a file, `Corpus.write` writes one.

A delimiter takes the white space around it, so the line end after one delimiter cannot begin the
next: of two delimiter lines with nothing but white space between them, the second is text.
-/
import Deliberation.Calibration.Directory
import Deliberation.Fault
import Deliberation.Value.Basic
import Deliberation.Text.Basic
import Deliberation.Text.Case

set_option autoImplicit false

namespace Deliberation

open Text

/-- A text and what a reader made of it. -/
structure Sample where
  text : String
  expected : FeedbackKind
  subtype : Option String
  source : String
  notes : String
  deriving DecidableEq

/-- No issue is expected. -/
def Sample.isClean (s : Sample) : Bool := s.expected = .affirmation

namespace Corpus

/-! ## Blocks -/

/-- The number of characters up to and with the last line feed; none without one. -/
def throughLastLineFeed? (cs : List Char) : Option Nat :=
  match cs.reverse.dropWhile (· != '\n') with
  | [] => none
  | kept => some kept.length

/-- The length of a delimiter without the line feed it begins with: white space, three hyphens, and
white space up to the last line feed in it, or to the end of the text. -/
def hyphensLength? (cs : List Char) : Option Nat :=
  let margin := (cs.takeWhile isBlank).length
  match cs.dropWhile isBlank with
  | '-' :: '-' :: '-' :: after =>
    let space := after.takeWhile isBlank
    if space.length = after.length then some (margin + 3 + space.length)
    else (throughLastLineFeed? space).map fun n => margin + 3 + n
  | _ => none

/-- The length of a delimiter at a place: it begins at the start of the text or with a line feed. -/
def delimiterLength? (atStart : Bool) (cs : List Char) : Option Nat :=
  let bare := if atStart then hyphensLength? cs else none
  match bare, cs with
  | some n, _ => some n
  | none, '\n' :: rest => (hyphensLength? rest).map (· + 1)
  | none, _ => none

/-- The stretches between delimiters.  The first `covered` characters belong to a delimiter; `block`
holds the characters since the last one, latest first. -/
def blocksFrom (atStart : Bool) (block : List Char) : List Char → Nat → List (List Char)
  | [], _ => [block.reverse]
  | _ :: rest, covered + 1 => blocksFrom false block rest covered
  | c :: rest, 0 =>
    match delimiterLength? atStart (c :: rest) with
    | some n => block.reverse :: blocksFrom false [] rest (n - 1)
    | none => blocksFrom false (c :: block) rest 0

/-- The stretches between the delimiters of a text. -/
def blocks (content : List Char) : List (List Char) := blocksFrom true [] content 0

/-! ## One block -/

/-- The names that a header line may begin with. -/
def headerNames : List String := ["expected", "subtype", "source", "notes"]

/-- A header line, trimmed: one of the names without regard to case, a colon, and a value.  The name
is given as it stands in lower case. -/
def header? (line : List Char) : Option (String × String) :=
  headerNames.findSome? fun name =>
    let written := line.take name.length
    match (line.drop name.length).dropWhile isBlank with
    | ':' :: value =>
      let value := trimChars value
      if written.map caseKey = name.toList.map caseKey ∧ value ≠ [] then
        some (lower (String.ofList written), String.ofList value)
      else none
    | _ => none

/-- A line that counts nowhere. -/
def isComment (line : List Char) : Bool := (trimChars line).head? = some '#'

/-- The headers of lines without comments, latest first, and the lines from the first one that is
neither blank nor a header. -/
def splitHeaders (headers : List (String × String)) :
    List (List Char) → List (String × String) × List (List Char)
  | [] => (headers, [])
  | line :: rest =>
    match header? (trimChars line) with
    | some header => splitHeaders (header :: headers) rest
    | none => if (trimChars line).isEmpty then splitHeaders headers rest else (headers, line :: rest)

/-- The kind that a label names, in any case. -/
def kindOfLabel (label : String) : Except Fault FeedbackKind :=
  match FeedbackKind.ofLabel? (upper label) with
  | some kind => .ok kind
  | none => .error (.unknownLabel (upper label))

/-- The sample of a block; none without text.  Of headers with one name the last counts. -/
def sample? (block : List Char) : Except Fault (Option Sample) :=
  let lines := (splitChars (· == '\n') block).filter fun line => !isComment line
  let (headers, textLines) := splitHeaders [] lines
  let text := trimChars (List.intercalate ['\n'] textLines)
  if text.isEmpty then .ok none
  else do
    let kind ← kindOfLabel ((headers.lookup "expected").getD FeedbackKind.affirmation.label)
    return some {
      text := String.ofList text
      expected := kind
      subtype := (headers.lookup "subtype").map lower
      source := (headers.lookup "source").getD "unknown"
      notes := (headers.lookup "notes").getD "" }

/-! ## A file -/

/-- The samples of a text with line feeds.  A block that begins with a comment is no sample. -/
def parseLines (content : List Char) : Except Fault (List Sample) := do
  let kept := ((blocks content).map trimChars).filter fun block =>
    !block.isEmpty && block.head? ≠ some '#'
  return (← kept.mapM sample?).filterMap id

/-- The samples of a file. -/
def parse (content : String) : Except Fault (List Sample) :=
  parseLines (withLineFeeds content.toList)

/-- The name of a corpus file. -/
def isCorpusName (name : String) : Bool := name.endsWith ".txt"

/-- The samples of what stands under the name of a corpus file, which has to be a file. -/
def parseEntry : String × Directory.Entry → Except Fault (List Sample)
  | (_, .file content) => parse content
  | (name, .directory) => .error (.isDirectory name)

/-- The samples of the corpus files in a directory, in the order of their names. -/
def parseAll (entries : List (String × Directory.Entry)) : Except Fault (List Sample) := do
  let corpora := entries.filter fun (name, _) => isCorpusName name
  let sorted := corpora.mergeSort fun a b => !decide (b.1 < a.1)
  return (← sorted.mapM parseEntry).flatten

/-! ## Writing -/

/-- A header line, unless the value is empty. -/
def headerLine (name value : String) : String :=
  if value.isEmpty then "" else name ++ ": " ++ value ++ "\n"

/-- A sample after its delimiter: headers, an empty line, the text. -/
def writeSample (s : Sample) : String :=
  "---\n" ++ headerLine "expected" s.expected.label ++ headerLine "subtype" (s.subtype.getD "") ++
    headerLine "source" s.source ++ headerLine "notes" s.notes ++ "\n" ++ s.text ++ "\n"

/-- A file of samples. -/
def write (samples : List Sample) : String := String.join (samples.map writeSample) ++ "---\n"

end Corpus

/-! ## As values -/

def Sample.toValue (s : Sample) : Value :=
  .record [
    ("text", .text s.text),
    ("expected", .text s.expected.label),
    ("subtype", .optText s.subtype),
    ("source", .text s.source),
    ("notes", .text s.notes),
    ("is_clean", .bool s.isClean)]

end Deliberation
