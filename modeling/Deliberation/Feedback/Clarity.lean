/-
# Feedback.Clarity -- unsourced claims before loaded language

Two tables in a fixed order.  A text in which the table of unsourced claims matches is reported as
unsourced, whatever the other table would find; only otherwise is the table of biased framing asked.
This is a rule and no comparison of confidences.
-/
import Deliberation.Feedback.Detector

set_option autoImplicit false

namespace Deliberation.Clarity

open Rule Pattern

def unsourcedRules : List Rule := [
  shipped "unsourced_claim" [boundary, "studies show that", boundary],
  shipped "unsourced_claim" [boundary, "research ", oneOf ["shows", "proves", "demonstrates"],
    boundary],
  shipped "unsourced_claim" [boundary, "scientists ", oneOf ["say", "believe", "found"], boundary],
  shipped "unsourced_claim" [boundary, "it", oneOf ["'s", " is"], gap, oneOf ["proven", "a fact"],
    " that", boundary],
  shipped "unsourced_claim" [boundary, "according to ", oneOf ["experts", "studies", "research"],
    boundary],
  shipped "unsourced_claim" [boundary, "the data shows", boundary],
  shipped "statistical_claim" [boundary, digits, "% of ", oneOf ["people", "users", "respondents"],
    boundary],
  shipped "vague_attribution" [boundary, "some people say", boundary] halfWeight,
  shipped "vague_attribution" [boundary, "I heard that", boundary] halfWeight,
  shipped "vague_attribution" [boundary, "they say that", boundary] halfWeight,
  shipped "vague_attribution" [boundary, "word on the street", boundary] halfWeight,
  shipped "vague_attribution" [boundary, "rumo", maybe "u", "r has it", boundary] halfWeight]

def biasRules : List Rule := [
  shipped "loaded_language" [boundary, oneOf ["obviously", "clearly", "undeniably"], gap, anyWord,
    gap, oneOf ["is", "are"], boundary],
  shipped "loaded_language" [boundary, "any reasonable person ", oneOf ["would", "knows"], boundary],
  shipped "loaded_language" [boundary, "it's common sense that", boundary],
  shipped "one_sided_framing" [boundary, "only ", anyWord, " would ",
    oneOf ["think", "believe", "say"], boundary],
  shipped "one_sided_framing" [boundary, "of course ", anyWord, gap, oneOf ["is", "are", "would"],
    boundary],
  shipped "charged_descriptor" [boundary, oneOf ["radical", "extremist", "fanatic"], gap, anyWord],
  shipped "charged_descriptor" [boundary, oneOf ["crazy", "insane", "lunatic"], gap, anyWord]]

def unsourcedSuggestion : String :=
  "Consider providing specific sources for factual claims. Include links, " ++
  "citations, or specific study names to strengthen your argument."

/-- The suggestion for loaded language, and for any subtype without one of its own. -/
def loadedLanguageSuggestion : String :=
  "Consider using more neutral language to present your argument. Avoid " ++
  "loaded terms and acknowledge alternative perspectives where relevant."

def biasSuggestions : List (String × String) := [
  ("loaded_language", loadedLanguageSuggestion),
  ("one_sided_framing",
    "This framing presents only one side as reasonable. Acknowledge what " ++
    "people who disagree actually believe, and why."),
  ("charged_descriptor",
    "Emotionally charged labels can make readers defensive. Describe the " ++
    "position itself instead of labelling the people who hold it.")]

def unsourcedResources : List Resource := [
  ⟨"How to Cite Sources", "https://en.wikipedia.org/wiki/Citation"⟩,
  ⟨"Evaluating Information Sources", "https://en.wikipedia.org/wiki/Source_criticism"⟩]

def biasResources : List Resource := [
  ⟨"Neutral Point of View", "https://en.wikipedia.org/wiki/Wikipedia:Neutral_point_of_view"⟩,
  ⟨"Loaded Language", "https://en.wikipedia.org/wiki/Loaded_language"⟩]

/-- The detection for the matches of the unsourced table, when there are any. -/
def reportUnsourced (rules : List Rule) (model : ConfidenceModel) (found : List RuleMatch) :
    Except NumberFault Detection := do
  let excerpts := messageExcerpts found
  let score ← model.scoreOf found
  return {
    kind := .unsourced
    subtype := leadingSubtype found (subtypeOrder rules)
    matchCount := totalMatches found
    confidence := .real score
    reasoning := "Detected " ++ natDigits (totalMatches found) ++
      " instance(s) of potentially unsourced claims " ++ examples excerpts ++
      ". Providing specific sources helps others verify and engage with your evidence."
    suggestion := unsourcedSuggestion
    resources := unsourcedResources
    excerpts }

/-- The detection for the matches of the bias table, when there are any. -/
def reportBias (rules : List Rule) (model : ConfidenceModel) (found : List RuleMatch) :
    Except NumberFault Detection := do
  let subtype := leadingSubtype found (subtypeOrder rules)
  let excerpts := messageExcerpts found
  let score ← model.scoreOf found
  return {
    kind := .bias
    subtype
    matchCount := totalMatches found
    confidence := .real score
    reasoning := "Detected " ++ natDigits (totalMatches found) ++
      " instance(s) of potentially biased framing " ++ examples excerpts ++
      ". Loaded language or one-sided framing may make your argument less persuasive to " ++
      "those who don't already agree."
    suggestion := forSubtype biasSuggestions subtype loadedLanguageSuggestion
    resources := biasResources
    excerpts }

/-- The two tables and the confidence of each. -/
structure Settings where
  unsourced : List Rule
  bias : List Rule
  unsourcedModel : ConfidenceModel
  biasModel : ConfidenceModel

/-- The shipped tables and models. -/
def Settings.shipped : Settings := ⟨unsourcedRules, biasRules, .unsourced, .bias⟩

/-- What the two tables find in a text. -/
def analyze (s : Settings) (text : String) : Except NumberFault (Option Detection) :=
  match findings s.unsourced text with
  | [] =>
    match findings s.bias text with
    | [] => .ok none
    | found => some <$> reportBias s.bias s.biasModel found
  | found => some <$> reportUnsourced s.unsourced s.unsourcedModel found

/-- The detector with the shipped tables. -/
def detector : Detector := .ofAnalysis "ClarityAnalyzer" (analyze Settings.shipped)

end Deliberation.Clarity
