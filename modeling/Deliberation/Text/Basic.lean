/-
# Text.Basic -- trimming, splitting and cutting

Text is measured in characters.  `trim` and `words` work by white space of every script; `lines`
splits at line feeds only, and `withLineFeeds` first turns the other two line ends into them.
`cut` keeps the beginning of a list: a negative count leaves off that many at the end.
-/
import Deliberation.Text.Property.Digit

set_option autoImplicit false

namespace Deliberation.Text

/-- The text holds nothing but white space. -/
def isBlankText (s : String) : Bool := s.toList.all isBlank

/-- The characters without those at either end for which a predicate holds. -/
def trimWhere (margin : Char → Bool) (cs : List Char) : List Char :=
  ((cs.dropWhile margin).reverse.dropWhile margin).reverse

/-- The characters without white space at either end. -/
def trimChars (cs : List Char) : List Char := trimWhere isBlank cs

/-- The text without white space at either end. -/
def trim (s : String) : String := String.ofList (trimChars s.toList)

/-- The beginning of a list: the first `count` items, or all but the last `-count`. -/
def cut {α : Type} (count : Int) (xs : List α) : List α :=
  if 0 ≤ count then xs.take count.toNat else xs.take (xs.length - count.natAbs)

/-- The first characters of a text, as `cut` counts them. -/
def cutText (count : Int) (s : String) : String := String.ofList (cut count s.toList)

/-- The pieces between the characters at which a predicate holds. -/
def splitChars (sep : Char → Bool) (cs : List Char) : List (List Char) :=
  go cs []
where
  /-- `piece` holds the characters since the last separator, latest first. -/
  go : List Char → List Char → List (List Char)
    | [], piece => [piece.reverse]
    | c :: rest, piece => if sep c then piece.reverse :: go rest [] else go rest (c :: piece)

/-- The lines of a text: at least one, and none holds a line feed. -/
def lines (s : String) : List String := (splitChars (· == '\n') s.toList).map String.ofList

/-- The pieces between stretches of white space, none of them empty. -/
def words (cs : List Char) : List (List Char) :=
  (splitChars isBlank cs).filter fun piece => !piece.isEmpty

/-- Line feeds in place of the line ends CR LF and CR. -/
def withLineFeeds : List Char → List Char
  | [] => []
  | '\r' :: '\n' :: rest => '\n' :: withLineFeeds rest
  | '\r' :: rest => '\n' :: withLineFeeds rest
  | c :: rest => c :: withLineFeeds rest

/-- The text with spaces after it up to a width. -/
def padRight (width : Nat) (s : String) : String :=
  s ++ String.ofList (List.replicate (width - s.length) ' ')

/-- The text with spaces before it up to a width. -/
def padLeft (width : Nat) (s : String) : String :=
  String.ofList (List.replicate (width - s.length) ' ') ++ s

end Deliberation.Text
