/-
# Pattern.Phrase -- patterns of plain language

The shipped tables are put together from phrases.  In a phrase a blank stands for any stretch of white
space, an apostrophe for the straight or the curly one, and every other character for itself without
regard to case; a text where a pattern is expected is read as a phrase.
-/
import Deliberation.Pattern.Basic

set_option autoImplicit false

namespace Deliberation.Pattern

/-- The class of some items, without regard to case. -/
def caselessClass (items : List ClassItem) : CharClass := ⟨items, false, true⟩

/-- One character of a phrase. -/
def phraseChar (c : Char) : Pattern :=
  if c = ' ' then run (caselessClass [.category .blank false]) 1
  else if c = '\'' then one (caselessClass [.char '\'', .char '’'])
  else one (caselessClass [.char c])

/-- Patterns one after another. -/
def inOrder : List Pattern → Pattern
  | [] => empty
  | [p] => p
  | p :: rest => seq p (inOrder rest)

/-- One of several patterns, the earlier preferred. -/
def oneOf : List Pattern → Pattern
  | [] => empty
  | [p] => p
  | p :: rest => choice p (oneOf rest)

/-- A phrase as a pattern. -/
def phrase (s : String) : Pattern := inOrder (s.toList.map phraseChar)

instance : Coe String Pattern := ⟨phrase⟩

/-- A pattern that may be left out. -/
def maybe (p : Pattern) : Pattern := optional p

/-- A stretch of word characters. -/
def anyWord : Pattern := run (caselessClass [.category .word false]) 1

/-- A stretch of decimal digits. -/
def digits : Pattern := run (caselessClass [.category .digit false]) 1

/-- A stretch of white space. -/
def gap : Pattern := run (caselessClass [.category .blank false]) 1

end Deliberation.Pattern
