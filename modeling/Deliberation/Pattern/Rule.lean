/-
# Pattern.Rule -- tables of weighted patterns, and what they find

A table is a list of rules in order; each rule gives a pattern, the subtype it is evidence for and a
weight.  `matchTable` runs every rule over a text and keeps those that match.  From the matches come
the counts, the weighted total, the leading subtype (`leadingSubtype`: most spans, the earlier in a
given order on a tie) and a few quoted excerpts.
-/
import Deliberation.Distinct
import Deliberation.Pattern.Reader
import Deliberation.Pattern.Matching
import Deliberation.Pattern.Printer
import Deliberation.Text.Basic

set_option autoImplicit false

namespace Deliberation

open Text

/-- An entry of a table. -/
structure Rule where
  written : String
  pattern : Pattern
  subtype : String
  weight : Number
  deriving DecidableEq

namespace Rule

/-- The weight of a rule that states none. -/
def fullWeight : Number := .real (.finite 1)

/-- Half of the full weight, for weak evidence. -/
def halfWeight : Number := .real (.finite (1 / 2 : Rat))

/-- A rule with a written pattern, which matches with or without regard to case. -/
def ofWritten (written subtype : String) (weight : Number) (caseless : Bool) :
    Except Pattern.Misreading Rule := do
  return ⟨written, ← Pattern.ofWritten caseless written, subtype, weight⟩

/-- A rule of a shipped table: parts one after another. -/
def shipped (subtype : String) (parts : List Pattern) (weight : Number := fullWeight) : Rule :=
  let pattern := Pattern.inOrder parts
  ⟨pattern.written, pattern, subtype, weight⟩

end Rule

/-- All matches of one rule in a text. -/
structure RuleMatch where
  position : Nat
  rule : Rule
  spans : List String

def RuleMatch.count (m : RuleMatch) : Nat := m.spans.length

/-- The rules that match a text, with their places in the table. -/
def matchTable (text : String) (rules : List Rule) : List RuleMatch :=
  (rules.zipIdx.map fun (r, i) => RuleMatch.mk i r (r.pattern.spans text)).filter
    fun m => !m.spans.isEmpty

/-- The number of spans. -/
def totalMatches (found : List RuleMatch) : Nat := (found.map RuleMatch.count).foldr (· + ·) 0

/-- The number of spans, each counted with the weight of its rule.  The sum starts from a whole
zero, so whole weights give a whole total. -/
def weightedMatches (found : List RuleMatch) : Except NumberFault Number :=
  found.foldlM (fun sum m => do sum.add (← (Number.whole m.count).mul m.rule.weight)) (.whole 0)

/-- The subtypes of a table in order of first declaration. -/
def subtypeOrder (rules : List Rule) : List String := distinct (rules.map Rule.subtype)

/-- The number of spans of a subtype. -/
def subtypeCount (found : List RuleMatch) (subtype : String) : Nat :=
  totalMatches (found.filter fun m => m.rule.subtype == subtype)

/-- The subtypes that were found, in order of first match, with their counts. -/
def subtypeCounts (found : List RuleMatch) : List (String × Nat) :=
  (distinct (found.map fun m => m.rule.subtype)).map fun s => (s, subtypeCount found s)

/-- The subtype with the most spans; of equal ones the first in the given order. -/
def leadingSubtype (found : List RuleMatch) (order : List String) : Option String :=
  order.foldl (fun best subtype =>
    let n := subtypeCount found subtype
    match best with
    | none => if 0 < n then some subtype else none
    | some leader => if subtypeCount found leader < n then some subtype else some leader) none

/-- Collects spans, trimmed and cut, that are neither empty nor met before.  Collecting ends when
enough are held after some span, so one may be taken even where none is asked for. -/
def collectExcerpts (limit maxChars : Int) : List String → List String → List String
  | [], seen => seen
  | span :: rest, seen =>
    let excerpt := cutText maxChars (trim span)
    let seen := if excerpt.isEmpty || seen.contains excerpt then seen else seen ++ [excerpt]
    if limit ≤ seen.length then seen else collectExcerpts limit maxChars rest seen

/-- Different spans in order of discovery, each between double quotes. -/
def quotedExcerpts (found : List RuleMatch) (limit : Int) (maxChars : Int) : List String :=
  (collectExcerpts limit maxChars (found.flatMap RuleMatch.spans) []).map
    fun s => "\"" ++ s ++ "\""

/-- The excerpts that a message quotes: two, of at most 120 characters. -/
def messageExcerpts (found : List RuleMatch) : List String := quotedExcerpts found 2 120

end Deliberation
