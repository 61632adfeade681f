/-
# Log.Template -- messages with placeholders

A template is a text in which a percent sign begins a placeholder: an optional name in parentheses,
flags, a width, a precision and the letter of a conversion.  `Template.fill` puts the arguments in
their places, in order or by name.  All arguments in order have to be used.
-/
import Deliberation.Fault
import Deliberation.Number.Notation
import Deliberation.Number.Reading
import Deliberation.Text.Basic
import Deliberation.Value.Literal

set_option autoImplicit false

namespace Deliberation

open Text

namespace Template

/-! ## The pieces of a template -/

/-- How an argument is shown. -/
inductive Conversion where
  | display
  | literal
  | ascii
  | character
  | whole
  | octal
  | hexadecimal
  | fixed
  | scientific
  | general
  deriving DecidableEq

/-- The conversion that a letter stands for. -/
def Conversion.ofLetter? (letter : Char) : Option Conversion :=
  match letter.toLower with
  | 'x' => some .hexadecimal
  | 'f' => some .fixed
  | 'e' => some .scientific
  | 'g' => some .general
  | _ =>
    match letter with
    | 's' => some .display
    | 'r' => some .literal
    | 'a' => some .ascii
    | 'c' => some .character
    | 'd' | 'i' | 'u' => some .whole
    | 'o' => some .octal
    | _ => none

/-- A width or a precision: a number, or the next argument. -/
inductive Amount where
  | stated (n : Nat)
  | argument
  deriving DecidableEq

/-- The layout of a placeholder and the letter of its conversion, which is missing where the template ends
before it. -/
structure Placeholder where
  flags : List Char
  width : Amount
  precision : Option Amount
  letter : Option Char
  deriving DecidableEq

inductive Piece where
  | char (c : Char)
  /-- From here on the argument is the named one; without a name the parenthesis is not closed. -/
  | select (name : Option String)
  | placeholder (p : Placeholder)
  deriving DecidableEq

/-- The length of a name up to the parenthesis that closes it. -/
def nameLength? : Nat → List Char → Option Nat
  | _, [] => none
  | depth, '(' :: rest => (nameLength? (depth + 1) rest).map (· + 1)
  | 0, ')' :: _ => some 0
  | depth + 1, ')' :: rest => (nameLength? depth rest).map (· + 1)
  | depth, _ :: rest => (nameLength? depth rest).map (· + 1)

/-- A width or a precision at the front, and what follows it. -/
def amount : List Char → Amount × List Char
  | '*' :: rest => (.argument, rest)
  | cs =>
    (.stated ((natOfDigits? (cs.takeWhile Char.isDigit)).getD 0), cs.dropWhile Char.isDigit)

/-- A precision at the front, and what follows it. -/
def precision : List Char → Option Amount × List Char
  | '.' :: rest => let (p, rest) := amount rest; (some p, rest)
  | cs => (none, cs)

def isFlag (c : Char) : Bool := "-+ #0".toList.contains c

/-- The placeholder at the front, past a percent sign and a name, and its length. -/
def placeholder (cs : List Char) : Piece × Nat :=
  let (width, rest) := amount (cs.dropWhile isFlag)
  let (precision, rest) := precision rest
  let rest := if rest.head?.any "hlL".toList.contains then rest.drop 1 else rest
  (.placeholder ⟨cs.takeWhile isFlag, width, precision, rest.head?⟩, cs.length - (rest.drop 1).length)

/-- The pieces right after a percent sign, and their length.  A second sign stands for itself. -/
def afterPercent : List Char → List Piece × Nat
  | '%' :: _ => ([.char '%'], 1)
  | '(' :: cs =>
    match nameLength? 0 cs with
    | some n =>
      let (piece, size) := placeholder (cs.drop (n + 1))
      ([.select (some (String.ofList (cs.take n))), piece], n + 2 + size)
    | none => ([.select none], cs.length + 1)
  | cs => let (piece, size) := placeholder cs; ([piece], size)

/-- The pieces of a template. -/
def pieces : List Char → List Piece
  | [] => []
  | c :: rest =>
    if c = '%' then
      let (found, size) := afterPercent rest
      found ++ pieces (rest.drop size)
    else .char c :: pieces rest
termination_by cs => cs.length

/-! ## Arguments -/

/-- The arguments that are left, and those that can be asked for by name. -/
structure Supply where
  pending : List Value
  named : Option (List (String × Value))

/-- A single record with fields gives its fields by name, else arguments are taken in order. -/
def Supply.ofArguments : List Value → Supply
  | [.record (field :: fields)] => ⟨[.record (field :: fields)], some (field :: fields)⟩
  | arguments => ⟨arguments, none⟩

/-- Filling takes arguments from a supply. -/
abbrev Filling := StateT Supply (Except Fault)

/-- The next argument. -/
def next : Filling Value := do
  let supply ← get
  match supply.pending with
  | v :: rest => set { supply with pending := rest }; return v
  | [] => throw .wrongType

/-- The named argument becomes the next one. -/
def select (name : Option String) : Filling Unit := do
  let supply ← get
  match supply.named, name with
  | none, _ => throw .wrongType
  | some _, none => throw .malformedTemplate
  | some fields, some name =>
    match fields.lookup name with
    | some v => set { supply with pending := [v] }
    | none => throw (.missingArgument name)

/-- The greatest width. -/
def mostWidth : Nat := 0x7FFFFFFFFFFFFFFF

/-- The greatest precision. -/
def mostPrecision : Nat := 0x7FFFFFFF

/-- A width or a precision that an argument may give, up to a limit on its size. -/
def Amount.value (most : Nat) : Amount → Filling Int
  | stated n => if n ≤ most then return n else throw .malformedTemplate
  | argument => do
    match ← next with
    | .number (.whole n) => if n.natAbs ≤ most then return n else throw (.number .tooLarge)
    | .bool b => return if b then 1 else 0
    | _ => throw .wrongType

/-! ## Converted arguments -/

/-- A converted argument: the parts of a number, or a text without any but the last. -/
structure Shown where
  numeric : Bool
  sign : String
  marker : String
  body : String

/-- A text as an argument. -/
def Shown.ofText (body : String) : Shown := ⟨false, "", "", body⟩

/-- The sign of a number under some flags. -/
def signFor (flags : List Char) (negative : Bool) : String :=
  if negative then "-" else if flags.contains '+' then "+" else if flags.contains ' ' then " " else ""

/-- A number as an argument, its marker only under the alternate flag. -/
def Shown.ofNumber (flags : List Char) (negative : Bool) (marker body : String) : Shown :=
  ⟨true, signFor flags negative, if flags.contains '#' then marker else "", body⟩

/-- A value as a whole number, a fraction cut off if that is allowed. -/
def wholeOf (cutsFraction : Bool) : Value → Except Fault Int
  | .number (.whole n) => .ok n
  | .number (.real x) =>
    if cutsFraction then do return ← x.truncate else .error .wrongType
  | .bool b => .ok (if b then 1 else 0)
  | _ => .error .wrongType

/-- A value as a double. -/
def doubleOf : Value → Except Fault Binary64
  | .number n => do return ← n.toBinary64
  | .bool b => .ok (.ofNat (if b then 1 else 0))
  | _ => .error .wrongType

/-- A whole number in a base, with a least number of digits. -/
def wholeShown (flags : List Char) (upper : Bool) (base : Nat) (marker : String)
    (precision : Option Nat) (n : Int) : Shown :=
  let cased (text : String) : String := if upper then text.map Char.toUpper else text
  .ofNumber flags (decide (n < 0)) (cased marker)
    (cased (zeroFill (precision.getD 1) (String.ofList (Nat.toDigits base n.natAbs))))

/-- A double in a notation for magnitudes. -/
def doubleShown (flags : List Char) (upper : Bool) (writeMagnitude : Rat → String) (x : Binary64) :
    Shown :=
  let body :=
    match x with
    | .nan => "nan"
    | .infinite _ => "inf"
    | x => writeMagnitude (if x.toRat < 0 then -x.toRat else x.toRat)
  .ofNumber flags x.isNegative "" (if upper then body.map Char.toUpper else body)

/-- The escapes of quoted text also for characters that are printable but not ASCII. -/
def asciiChar (c : Char) : List Char :=
  if c.toNat < 0x80 then [c]
  else if c.toNat < 0x100 then '\\' :: 'x' :: hexDigits 2 c.toNat
  else if c.toNat < 0x10000 then '\\' :: 'u' :: hexDigits 4 c.toNat
  else '\\' :: 'U' :: hexDigits 8 c.toNat

/-- A value as a single character: a text of one, or a code point. -/
def characterOf : Value → Except Fault Char
  | .text s =>
    match s.toList with
    | [c] => .ok c
    | _ => .error .wrongType
  | v => do
    let n ← wholeOf false v
    if 0 ≤ n ∧ n < 0x110000 then return Char.ofNat n.toNat else throw (.number .tooLarge)

/-- An argument under a conversion. -/
def Conversion.shown (conversion : Conversion) (flags : List Char) (upper : Bool)
    (precision : Option Nat) (v : Value) : Except Fault Shown :=
  let padding : Padding := if flags.contains '#' then .full else .bare
  let limited (text : String) : Shown := .ofText <|
    match precision with
    | some n => cutText n text
    | none => text
  let places := precision.getD 6
  match conversion with
  | display => .ok (limited v.display)
  | literal => .ok (limited v.literal)
  | ascii => .ok (limited (String.ofList (v.literal.toList.flatMap asciiChar)))
  | character => do return .ofText (String.singleton (← characterOf v))
  | whole => do return wholeShown flags false 10 "" precision (← wholeOf true v)
  | octal => do return wholeShown flags false 8 "0o" precision (← wholeOf false v)
  | hexadecimal => do return wholeShown flags upper 16 "0x" precision (← wholeOf false v)
  | fixed => do
    return doubleShown flags upper (Binary64.fixedNotation padding places) (← doubleOf v)
  | scientific => do
    return doubleShown flags upper (Binary64.scientificNotation padding places) (← doubleOf v)
  | general => do
    return doubleShown flags upper (Binary64.generalNotation padding places) (← doubleOf v)

/-- A converted argument in a field of some width.  Zeros go between the sign and the digits. -/
def Shown.inField (s : Shown) (flags : List Char) (leftAligned : Bool) (width : Nat) : String :=
  let front := s.sign ++ s.marker
  if leftAligned then padRight width (front ++ s.body)
  else if flags.contains '0' ∧ s.numeric then front ++ zeroFill (width - front.length) s.body
  else padLeft width (front ++ s.body)

/-! ## Filling -/

/-- What stands in the place of a placeholder.  Its width and precision are taken before its letter is
looked at. -/
def Placeholder.fill (p : Placeholder) : Filling String := do
  let width ← p.width.value mostWidth
  let precision ← p.precision.mapM (Amount.value mostPrecision)
  match p.letter with
  | none => throw .malformedTemplate
  | some letter => do
    let v ← next
    match Conversion.ofLetter? letter with
    | none => throw .malformedTemplate
    | some conversion =>
      let shown ← conversion.shown p.flags letter.isUpper (precision.map Int.toNat) v
      return shown.inField p.flags (p.flags.contains '-' || decide (width < 0)) width.natAbs

def Piece.fill : Piece → Filling String
  | char c => return String.singleton c
  | select name => do Template.select name; return ""
  | placeholder p => p.fill

/-- The template with its arguments in place. -/
def fill (template : String) (arguments : List Value) : Except Fault String := do
  let (parts, supply) ← ((pieces template.toList).mapM Piece.fill).run (.ofArguments arguments)
  if supply.named.isNone && !supply.pending.isEmpty then throw .wrongType
  return String.join parts

end Template

end Deliberation
