/-
# Pattern.Printer -- a pattern in its written form

Every pattern has a written form in the notation that `Pattern.Reader` reads.  A choice or a sequence
stands in a group where it would otherwise be misread; a character with a meaning in the notation is
written after a backslash.
-/
import Deliberation.Pattern.Basic
import Deliberation.Number.Decimal

set_option autoImplicit false

namespace Deliberation

/-- The characters that have a meaning in the notation. -/
def notationChars : List Char :=
  ['\\', '.', '^', '$', '*', '+', '?', '\x7b', '\x7d', '[', ']', '|', '(', ')']

def Category.letter : Category → Bool → Char
  | word, outside => if outside then 'W' else 'w'
  | digit, outside => if outside then 'D' else 'd'
  | blank, outside => if outside then 'S' else 's'

/-- An item inside square brackets. -/
def ClassItem.written : ClassItem → List Char
  | char c => if c ∈ ['\\', ']', '^', '-'] then ['\\', c] else [c]
  | range first last => [first, '-', last]
  | category kind outside => ['\\', kind.letter outside]

/-- A class: a character or a category by itself, else in square brackets. -/
def CharClass.written (cls : CharClass) : List Char :=
  match cls.items, cls.outside with
  | [.char c], false => if c ∈ notationChars then ['\\', c] else [c]
  | [.category kind outside], false => ['\\', kind.letter outside]
  | items, outside =>
    '[' :: (if outside then ['^'] else []) ++ items.flatMap ClassItem.written ++ [']']

namespace Pattern

/-- The suffix for a least number of repetitions. -/
def leastSuffix : Nat → List Char
  | 0 => ['*']
  | 1 => ['+']
  | n => '\x7b' :: (natDigits n).toList ++ [',', '\x7d']

def grouped (cs : List Char) : List Char := '(' :: '?' :: ':' :: cs ++ [')']

/-- What stands around a pattern: nothing or a branch of a choice, a sequence, or a suffix. -/
inductive Surrounding where
  | branch
  | sequence
  | suffix
  deriving DecidableEq

/-- The written form inside a surrounding. -/
def writtenIn : Pattern → Surrounding → List Char
  | empty, around => if around = .suffix then grouped [] else []
  | one cls, _ => cls.written
  | boundary, around => if around = .suffix then grouped ['\\', 'b'] else ['\\', 'b']
  | run cls least, around =>
    let body := cls.written ++ leastSuffix least
    if around = .suffix then grouped body else body
  | seq first second, around =>
    let body := first.writtenIn .sequence ++ second.writtenIn .sequence
    if around = .suffix then grouped body else body
  | choice first second, around =>
    let body := first.writtenIn .branch ++ '|' :: second.writtenIn .branch
    if around = .branch then body else grouped body
  | optional body, around =>
    let suffixed := body.writtenIn .suffix ++ ['?']
    if around = .suffix then grouped suffixed else suffixed
  | repeated body least, around =>
    let suffixed := body.writtenIn .suffix ++ leastSuffix least
    if around = .suffix then grouped suffixed else suffixed

/-- The written form. -/
def written (p : Pattern) : String := String.ofList (p.writtenIn .branch)

end Pattern

end Deliberation
