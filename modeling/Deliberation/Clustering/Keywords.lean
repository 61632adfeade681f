/-
# Clustering.Keywords -- the significant words of a statement

Keywords are the words of a statement in lower case, without short words and stop words, each once, in
order of first occurrence.  `rankKeywords` orders the keywords of several statements by how often they
occur; among equals the earlier one stays first.
-/
import Deliberation.Distinct
import Deliberation.Text.Case
import Deliberation.Text.Basic
import Deliberation.Text.Property.Word

set_option autoImplicit false

namespace Deliberation

open Text

/-- Words that carry no topic, in order. -/
def stopWords : List String := [
  "a", "an", "and", "are", "as", "at", "be", "been", "but", "by", "can", "could", "did", "do",
  "does", "for", "from", "had", "has", "have", "in", "is", "it", "may", "might", "of", "on", "or",
  "should", "that", "the", "this", "to", "was", "were", "which", "will", "with", "would"]

/-- The words of a text in lower case; punctuation divides words as white space does. -/
def lowerWords (statement : String) : List String :=
  let cs := (lower statement).toList.map fun c => if isWord c || isBlank c then c else ' '
  (words cs).map String.ofList

/-- A word of three characters or more that is no stop word. -/
def isSignificant (word : String) : Bool := 2 < word.length && !stopWords.contains word

/-- The significant words of a statement, each once. -/
def keywords (statement : String) : List String :=
  distinct ((lowerWords statement).filter isSignificant)

/-- The words of several lists by falling number of occurrences, as `cut` limits them. -/
def rankKeywords (lists : List (List String)) (limit : Int) : List String :=
  let all := lists.flatten
  cut limit ((distinct all).mergeSort fun a b => decide (all.count b ≤ all.count a))

/-- The number of keywords that a cluster reports. -/
def maxKeywords : Int := 5

/-- The title of a cluster with given keywords. -/
def themeOf : List String → String
  | [] => "Related propositions"
  | ranked => "Propositions about " ++ ", ".intercalate (ranked.take 3)

end Deliberation
