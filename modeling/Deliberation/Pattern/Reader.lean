/-
# Pattern.Reader -- the written form of patterns

A pattern is written with literal characters, `\b \w \d \s` and their complements, classes in square
brackets, groups `(?:…)`, choices with a bar, and the suffixes `?`, `*`, `+` and a least count in
braces.  Every other character stands for itself, a punctuation mark also after a backslash, and so does
a brace with which no count begins; control characters have letters, and any character its number.

The reader takes one symbol after the other into a stack of open groups.  A choice between single
characters becomes a class, also where its branches begin alike: what they have in common comes first.
-/
import Deliberation.Distinct
import Deliberation.Pattern.Phrase
import Deliberation.Number.Reading

set_option autoImplicit false

namespace Deliberation.Pattern

/-- Why a text is no written form. -/
inductive Misreading where
  | malformed
  /-- A least count that is too large. -/
  | tooManyRepetitions
  deriving DecidableEq, Repr

/-! ## Characters -/

/-- What a letter after a backslash lists. -/
def category? : Char → Option ClassItem
  | 'w' => some (.category .word false)
  | 'W' => some (.category .word true)
  | 'd' => some (.category .digit false)
  | 'D' => some (.category .digit true)
  | 's' => some (.category .blank false)
  | 'S' => some (.category .blank true)
  | _ => none

/-- The letters of the control characters. -/
def controls : List (Char × Char) :=
  [('a', '\x07'), ('f', '\x0c'), ('n', '\n'), ('r', '\r'), ('t', '\t'), ('v', '\x0b')]

/-- How many digits of a number to base sixteen follow a letter. -/
def numberLength? : Char → Option Nat
  | 'x' => some 2
  | 'u' => some 4
  | 'U' => some 8
  | _ => none

/-- The value of a digit, to a base of at most sixteen. -/
def digitOf? (base : Nat) (c : Char) : Option Nat :=
  let value? :=
    if c.isDigit then some (c.toNat - '0'.toNat)
    else if 'a' ≤ c.toLower ∧ c.toLower ≤ 'f' then some (c.toLower.toNat - 'a'.toNat + 10)
    else none
  value?.filter fun value => decide (value < base)

/-- The character with a number. -/
def numbered (base : Nat) (digits : List Char) : Except Misreading ClassItem :=
  let value? := digits.foldlM (fun n c => (digitOf? base c).map fun d => base * n + d) 0
  match value? with
  | some n => if h : n.isValidChar then .ok (.char (Char.ofNatAux n h)) else .error .malformed
  | none => .error .malformed

/-- The item that a letter or mark after a backslash stands for. -/
def escaped (c : Char) (rest : List Char) : Except Misreading (ClassItem × List Char) :=
  match category? c, controls.lookup c, numberLength? c with
  | some item, _, _ => .ok (item, rest)
  | _, some control, _ => .ok (.char control, rest)
  | _, _, some length =>
    if rest.length < length then .error .malformed
    else do return (← numbered 16 (rest.take length), rest.drop length)
  | _, _, _ => if c.isAlphanum then .error .malformed else .ok (.char c, rest)

/-- Digits to base eight at the front, a limited number of them. -/
def octalDigits (most : Nat) (cs : List Char) : List Char :=
  (cs.takeWhile fun c => (digitOf? 8 c).isSome).take most

/-- The character with a number to base eight, at most 255. -/
def octal (digits : List Char) (rest : List Char) : Except Misreading (ClassItem × List Char) :=
  if digits.length = 3 ∧ '3' < digits.headD '0' then .error .malformed
  else do return (← numbered 8 digits, rest.drop (digits.length - 1))

/-! ## Classes -/

/-- What stands for one item of a class: in it, a backslash and `b` are a backspace. -/
def classItem : List Char → Except Misreading (ClassItem × List Char)
  | [] | ['\\'] => .error .malformed
  | '\\' :: 'b' :: rest => .ok (.char '\x08', rest)
  | '\\' :: c :: rest =>
    if (digitOf? 8 c).isSome then octal (c :: octalDigits 2 rest) rest else escaped c rest
  | c :: rest => .ok (.char c, rest)

/-- A range between two characters. -/
def rangeItem : ClassItem → ClassItem → Except Misreading ClassItem
  | .char first, .char last =>
    if first ≤ last then .ok (.range first last) else .error .malformed
  | _, _ => .error .malformed

/-- The items of a class up to its closing bracket, in at most as many steps as stated.  A closing bracket
that comes first is an item, and so is a hyphen before the closing bracket. -/
def classItems (items : List ClassItem) :
    Nat → List Char → Except Misreading (List ClassItem × List Char)
  | 0, _ => .error .malformed
  | steps + 1, cs =>
    match items, cs with
    | _ :: _, ']' :: rest => .ok (distinct items.reverse, rest)
    | _, _ => do
      let (item, rest) ← classItem cs
      match rest with
      | '-' :: ']' :: rest => return (distinct (.char '-' :: item :: items).reverse, rest)
      | '-' :: rest => do
        let (last, rest) ← classItem rest
        classItems ((← rangeItem item last) :: items) steps rest
      | _ => classItems (item :: items) steps rest

/-! ## Symbols -/

/-- A symbol of the written form. -/
inductive Symbol where
  | one (cls : CharClass)
  | boundary
  | opening
  | closing
  | bar
  | optional
  | atLeast (n : Nat)

/-- The least count beyond all that can be asked for. -/
def repetitionLimit : Nat := 4294967295

/-- A least count after an opening brace; a brace with which none begins stands for itself. -/
def bracedCount (brace : Symbol) (rest : List Char) : Except Misreading (Symbol × List Char) :=
  let least := rest.takeWhile Char.isDigit
  match rest.dropWhile Char.isDigit with
  | ',' :: after =>
    match after.dropWhile Char.isDigit with
    | '\x7d' :: tail =>
      if after.head? ≠ some '\x7d' then .error .malformed
      else
        let n := (digitsValue? least).getD 0
        if n < repetitionLimit then .ok (.atLeast n, tail) else .error .tooManyRepetitions
    | _ => .ok (brace, rest)
  | '\x7d' :: _ => if least.isEmpty then .ok (brace, rest) else .error .malformed
  | _ => .ok (brace, rest)

/-- The symbol that a backslash and a digit begin. -/
def numberedSymbol (c : Char) (rest : List Char) : Except Misreading (ClassItem × List Char) :=
  let digits := c :: octalDigits 2 rest
  if c = '0' ∨ ((digitOf? 8 c).isSome ∧ digits.length = 3) then octal digits rest
  else .error .malformed

/-- The first symbol of a written pattern. -/
def symbol (caseless : Bool) : List Char → Except Misreading (Symbol × List Char)
  | [] => .error .malformed
  | '\\' :: 'b' :: rest => .ok (.boundary, rest)
  | '\\' :: c :: rest => do
    let (item, rest) ← if c.isDigit then numberedSymbol c rest else escaped c rest
    return (.one ⟨[item], false, caseless⟩, rest)
  | '[' :: '^' :: rest => do
    let (items, rest) ← classItems [] rest.length rest
    return (.one ⟨items, true, caseless⟩, rest)
  | '[' :: rest => do
    let (items, rest) ← classItems [] rest.length rest
    return (.one ⟨items, false, caseless⟩, rest)
  | '(' :: '?' :: ':' :: rest => .ok (.opening, rest)
  | ')' :: rest => .ok (.closing, rest)
  | '|' :: rest => .ok (.bar, rest)
  | '?' :: rest => .ok (.optional, rest)
  | '*' :: rest => .ok (.atLeast 0, rest)
  | '+' :: rest => .ok (.atLeast 1, rest)
  | '\x7b' :: rest => bracedCount (.one ⟨[.char '\x7b'], false, caseless⟩) rest
  | c :: rest =>
    if c ∈ ['\\', '(', '.', '^', '$'] then .error .malformed
    else .ok (.one ⟨[.char c], false, caseless⟩, rest)

/-! ## Groups -/

/-- A piece of a sequence, and whether a suffix may follow it. -/
structure Piece where
  pattern : Pattern
  mayRepeat : Bool

/-- A group part way through: the branches before the last bar, latest first, and the pieces after it,
latest first. -/
structure Group where
  branches : List (List Pattern)
  pieces : List Piece

/-- The patterns that a pattern puts one after another. -/
def elements : Pattern → List Pattern
  | empty => []
  | seq first second => first.elements ++ second.elements
  | p => [p]

/-- A pattern that matches in one way at most: a single class or a boundary. -/
def isPlain : Pattern → Bool
  | one _ | boundary => true
  | _ => false

/-- The plain patterns that all of several branches begin with, and what is left of each branch. -/
def commonFront : List Pattern → List (List Pattern) → List Pattern × List (List Pattern)
  | [], others => ([], [] :: others)
  | p :: rest, others =>
    if p.isPlain && others.all fun branch => branch.head? == some p then
      let (front, left) := commonFront rest (others.map (·.drop 1))
      (p :: front, left)
    else ([], (p :: rest) :: others)

/-- The class that a branch is, when it is nothing else and lists what it holds. -/
def listing? : List Pattern → Option CharClass
  | [one cls] => if cls.outside then none else some cls
  | _ => none

/-- The class of what some classes list together. -/
def united (caseless : Bool) (classes : List CharClass) : CharClass :=
  ⟨distinct (classes.flatMap CharClass.items), false, caseless⟩

/-- A choice between branches without a common front. -/
def choiceOf (branches : List (List Pattern)) : Pattern :=
  match branches.mapM listing? with
  | some (cls :: classes) => one (united cls.caseless (cls :: classes))
  | _ => oneOf (branches.map inOrder)

/-- A choice between branches. -/
def ofBranches : List (List Pattern) → Pattern
  | [] => empty
  | [branch] => inOrder branch
  | branch :: others =>
    let (front, left) := commonFront branch others
    inOrder (front ++ [choiceOf left])

/-- A pattern repeated; a single class becomes a run. -/
def atLeast (least : Nat) : Pattern → Pattern
  | one cls => run cls least
  | body => repeated body least

namespace Group

/-- A group before its first character. -/
def start : Group := ⟨[], []⟩

/-- The branch that is being read. -/
def branch (g : Group) : List Pattern := (g.pieces.reverse.map Piece.pattern).flatMap elements

/-- A finished group as one pattern. -/
def close (g : Group) : Pattern := ofBranches (g.branch :: g.branches).reverse

def push (g : Group) (p : Pattern) (mayRepeat : Bool) : Group :=
  ⟨g.branches, ⟨p, mayRepeat⟩ :: g.pieces⟩

/-- The last piece under a suffix: one that has none yet, and is not a bare boundary. -/
def suffix (g : Group) (apply : Pattern → Pattern) : Except Misreading Group :=
  match g.pieces with
  | ⟨p, true⟩ :: pieces => .ok ⟨g.branches, ⟨apply p, false⟩ :: pieces⟩
  | _ => .error .malformed

end Group

/-- One symbol, given the innermost open group and those around it. -/
def readSymbol : Group × List Group → Symbol → Except Misreading (Group × List Group)
  | (g, around), .one cls => .ok (g.push (one cls) true, around)
  | (g, around), .boundary => .ok (g.push boundary false, around)
  | (g, around), .opening => .ok (Group.start, g :: around)
  | (g, outer :: around), .closing => .ok (outer.push g.close true, around)
  | (_, []), .closing => .error .malformed
  | (g, around), .bar => .ok (⟨g.branch :: g.branches, []⟩, around)
  | (g, around), .optional => do return (← g.suffix optional, around)
  | (g, around), .atLeast n => do return (← g.suffix (atLeast n), around)

/-- The groups after the symbols of a text.  Each takes a character or more, so as many steps as there are
characters suffice. -/
def readSymbols (caseless : Bool) :
    Nat → Group × List Group → List Char → Except Misreading (Group × List Group)
  | _, groups, [] => .ok groups
  | 0, _, _ :: _ => .error .malformed
  | steps + 1, groups, cs => do
    let (s, rest) ← symbol caseless cs
    readSymbols caseless steps (← readSymbol groups s) rest

/-- The pattern with a written form. -/
def ofWritten (caseless : Bool) (written : String) : Except Misreading Pattern := do
  let cs := written.toList
  match ← readSymbols caseless cs.length (Group.start, []) cs with
  | (g, []) => return g.close
  | _ => throw .malformed

end Deliberation.Pattern
