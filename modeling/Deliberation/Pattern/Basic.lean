/-
# Pattern.Basic -- what a pattern is

A pattern describes stretches of text: characters of a class, word boundaries, one pattern after
another, a choice that prefers its first branch, and greedy repetition.  A class lists single
characters, ranges and categories; without regard to case it holds a character when some character
with the same case key is listed.  Beyond the first 65536 code points a character that is listed among
other items counts only if it is a case key itself; so a capital there lists nothing.
-/
import Deliberation.Text.Case
import Deliberation.Text.Property.Word
import Deliberation.Text.Property.Digit

set_option autoImplicit false

namespace Deliberation

open Text

/-- The named classes of characters. -/
inductive Category where
  | word
  | digit
  | blank
  deriving DecidableEq, Repr

def Category.holds : Category → Char → Bool
  | word, c => isWord c
  | digit, c => isDigit c
  | blank, c => isBlank c

/-- What a class lists. -/
inductive ClassItem where
  | char (c : Char)
  | range (first last : Char)
  | category (kind : Category) (outside : Bool)
  deriving DecidableEq, Repr

namespace ClassItem

/-- The item lists the character. -/
def lists : ClassItem → Char → Bool
  | char d, c => c == d
  | range first last, c => decide (first ≤ c) && decide (c ≤ last)
  | category kind outside, c => kind.holds c != outside

/-- The key by which a character among other items is compared: its case key, but beyond the first 65536
code points the character itself. -/
def listedKey (d : Char) : Char := if d.toNat < 0x10000 then caseKey d else d

/-- The item lists, among others, a character that matches the given one without regard to case. -/
def listsMate : ClassItem → Char → Bool
  | char d, c => caseKey c == listedKey d
  | range first last, c => (caseMates c).any (range first last).lists
  | category kind outside, c => kind.holds c != outside

end ClassItem

/-- A class of characters: those listed, or all others. -/
structure CharClass where
  items : List ClassItem
  outside : Bool
  caseless : Bool
  deriving DecidableEq, Repr

namespace CharClass

/-- Some item lists a character that matches the given one without regard to case.  A single character
lists all that have its case key. -/
def listsMate (cls : CharClass) (c : Char) : Bool :=
  match cls.items with
  | [.char d] => caseKey c == caseKey d
  | items => items.any (·.listsMate c)

/-- The class holds the character. -/
def holds (cls : CharClass) (c : Char) : Bool :=
  (if cls.caseless then cls.listsMate c else cls.items.any (·.lists c)) != cls.outside

end CharClass

/-- A pattern.  `run` repeats one class and `repeated` any pattern, both at least `least` times and
as often as they can. -/
inductive Pattern where
  | empty
  | one (cls : CharClass)
  | boundary
  | run (cls : CharClass) (least : Nat)
  | seq (first second : Pattern)
  | choice (first second : Pattern)
  | optional (body : Pattern)
  | repeated (body : Pattern) (least : Nat)
  deriving DecidableEq, Repr

end Deliberation
