/-
# Text.Case -- matching without regard to case, and the full case mappings

`caseKey` is the one function behind matching without regard to case: two characters match when
their keys are equal, so the relation is an equivalence by construction.  `lower` and `upper` are the
full mappings of a text; a capital sigma becomes the final form where a word ends with it.
-/
import Deliberation.Text.Property.Letter

set_option autoImplicit false

namespace Deliberation.Text

/-! ## Without regard to case -/

/-- The representative of the characters that match each other without regard to case. -/
def caseKey (c : Char) : Char :=
  if c.toNat < 128 then c.toLower else mapByRuns caseKeyRuns c

/-- All characters that match a given one without regard to case. -/
def caseMates (c : Char) : List Char :=
  let key := caseKey c
  let capital := if 'a' ≤ key ∧ key ≤ 'z' then [key.toUpper] else []
  key :: capital ++ (preimagesByRuns caseKeyRuns key).filter fun d => 128 ≤ d.toNat

/-! ## Full mappings -/

/-- The lower case of one character outside the final position of a word. -/
def lowerChar (c : Char) : List Char :=
  if c.toNat < 128 then [c.toLower]
  else if c.toNat = 0x130 then ['i', Char.ofNat 0x307]
  else [mapByRuns lowerRuns c]

/-- The first character that is not ignored at the end of a word is a cased one. -/
def meetsCased (cs : List Char) : Bool :=
  match cs.dropWhile ignorableBounds.holds with
  | [] => false
  | c :: _ => casedBounds.holds c

/-- The lower case of characters that follow those in `before`, which is in reverse. -/
def lowerAfter (before : List Char) : List Char → List Char
  | [] => []
  | c :: rest =>
    let image :=
      if c.toNat = 0x3A3 then
        [Char.ofNat (if meetsCased before && !meetsCased rest then 0x3C2 else 0x3C3)]
      else lowerChar c
    image ++ lowerAfter (c :: before) rest

/-- The lower case of a text. -/
def lower (s : String) : String := String.ofList (lowerAfter [] s.toList)

/-- The upper case of one character. -/
def upperChar (c : Char) : List Char :=
  if c.toNat < 128 then [c.toUpper]
  else
    match upperExpansions.lookup c.toNat with
    | some image => image.toList
    | none => [mapByRuns upperRuns c]

/-- The upper case of a text. -/
def upper (s : String) : String := String.ofList (s.toList.flatMap upperChar)

end Deliberation.Text
