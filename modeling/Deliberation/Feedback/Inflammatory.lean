/-
# Feedback.Inflammatory -- attacks, aggression, dismissal, hostility

The table of inflammatory language, and the detector over such a table.  A subtype that the table
declares first wins a tie.
-/
import Deliberation.Feedback.Detector

set_option autoImplicit false

namespace Deliberation.Inflammatory

open Rule Pattern

/-- "are" after a pronoun, in full or contracted. -/
def are : Pattern := oneOf ["'re", " are"]

def intensifier : Pattern :=
  maybe (inOrder [oneOf ["really", "very", "so", "completely", "totally", "absolutely"], gap])

def insult : Pattern :=
  oneOf ["stupid", "dumb", inOrder ["idiot", maybe "s"], inOrder ["moron", maybe "s"],
    inOrder ["fool", maybe "s"], "ignorant", "ridiculous"]

/-- "an idiot", also with a missing letter. -/
def anIdiot : Pattern := inOrder ["a", maybe "n", " idiot"]

/-- Four capitals or more; regard to case is had. -/
def shoutedWord : Pattern := run ⟨[.range 'A' 'Z'], false, false⟩ 4

/-- White space beside shouted words. -/
def shoutedGap : Pattern := run ⟨[.category .blank false], false, false⟩ 1

def rules : List Rule := [
  shipped "personal_attack" [boundary, "you", are, gap, intensifier,
    oneOf ["stupid", "dumb", anIdiot, "a moron", "a fool", "ignorant", "ridiculous"]],
  shipped "personal_attack" [boundary, "shut up", boundary],
  shipped "personal_attack" [boundary, "get lost", boundary],
  shipped "personal_attack" [boundary,
    oneOf ["they", "these people", "those people", "those folks",
      inOrder ["people like ", oneOf ["you", "this", "that"]]],
    are, gap, intensifier, insult],
  shipped "personal_attack" [boundary, oneOf ["everyone", "anyone"], " who ",
    oneOf [inOrder ["think", maybe "s"], inOrder ["believe", maybe "s"], inOrder ["say", maybe "s"]],
    gap, oneOf ["this", "that"], " is ", oneOf ["stupid", "dumb", anIdiot]],
  shipped "personal_attack" ["f", run (caselessClass [.char '*']) 1, "ck ",
    oneOf ["you", "off", "this", "that", "them"]],
  shipped "aggressive_language" [boundary, oneOf ["hate", "despise"], gap,
    oneOf ["you", "your", "them", "this", "these"], boundary],
  shipped "aggressive_language" [boundary, oneOf [inOrder ["make", maybe "s"], "making", "make"],
    " me ", oneOf ["sick", "angry"], boundary],
  shipped "dismissive" [boundary, oneOf ["this", "that", "these", "those"], gap,
    oneOf ["is", "are"], gap, intensifier,
    oneOf ["stupid", "dumb", "idiotic", "moronic", "foolish", "ignorant", "ridiculous"]],
  shipped "dismissive" [boundary, oneOf ["typical", "classic"], gap,
    oneOf ["liberal", "conservative", "leftist", "right-wing"]],
  shipped "dismissive" [boundary, "wake up sheeple", boundary],
  -- Shouting: three words or more in a row that are all capitals.
  shipped "dismissive" [boundary, shoutedWord, shoutedGap, shoutedWord, shoutedGap, shoutedWord]
    halfWeight,
  shipped "hostile_tone" [boundary, "obviously ", oneOf ["you", "they"], gap,
    oneOf ["don't", "can't", "won't"]],
  shipped "hostile_tone" [boundary, "clearly you ", oneOf ["don't", "can't", "haven't"]],
  shipped "hostile_tone" [boundary, "anyone with half a brain"],
  shipped "hostile_tone" [boundary, "it's obvious that you"]]

def suggestions : List (String × String) := [
  ("personal_attack",
    "Consider rephrasing to focus on ideas rather than personal characteristics. " ++
    "Attack the argument, not the person."),
  ("aggressive_language",
    "Strong feelings are understandable, but aggressive language tends to end the " ++
    "conversation. Describe what you disagree with and why."),
  ("dismissive",
    "Dismissing a view with a label or an insult does not answer it. " ++
    "Engage with the strongest version of the other position."),
  ("hostile_tone",
    "Your message may come across as hostile. Consider using more neutral " ++
    "language to foster constructive dialogue.")]

/-- The suggestion for a subtype that has none of its own. -/
def generalSuggestion : String :=
  "Consider revising inflammatory language to maintain a constructive tone."

def resources : List Resource := [
  ⟨"Constructive Communication Guide",
    "https://en.wikipedia.org/wiki/Nonviolent_Communication"⟩,
  ⟨"Avoiding Personal Attacks in Discussions", "https://en.wikipedia.org/wiki/Ad_hominem"⟩]

/-- The detection for the matches of a table, when there are any. -/
def report (rules : List Rule) (model : ConfidenceModel) (found : List RuleMatch) :
    Except NumberFault Detection := do
  let subtype := leadingSubtype found (subtypeOrder rules)
  let excerpts := messageExcerpts found
  let score ← model.scoreOf found
  return {
    kind := .inflammatory
    subtype
    matchCount := totalMatches found
    confidence := .real score
    reasoning := "Detected " ++ natDigits (totalMatches found) ++
      " instance(s) of potentially inflammatory language " ++ examples excerpts ++
      ". While passion is valuable, personal attacks or hostile tone can shut down " ++
      "productive dialogue."
    suggestion := forSubtype suggestions subtype generalSuggestion
    resources
    excerpts }

/-- What a table of inflammatory language finds in a text. -/
def analyze (rules : List Rule) (model : ConfidenceModel) (text : String) :
    Except NumberFault (Option Detection) :=
  match findings rules text with
  | [] => .ok none
  | found => some <$> report rules model found

/-- The detector with the shipped table. -/
def detector : Detector := .ofAnalysis "ToneAnalyzer" (analyze rules .tone)

end Deliberation.Inflammatory
