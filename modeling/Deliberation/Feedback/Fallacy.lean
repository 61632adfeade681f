/-
# Feedback.Fallacy -- seven families of fallacies

The table of fallacies, a family after another, and the detector over such a table.  The report names
the family with the most spans and quotes only that family; its count is of all spans.
-/
import Deliberation.Feedback.Detector

set_option autoImplicit false

namespace Deliberation.Fallacy

open Rule Pattern

/-- "are" after a pronoun, in full or contracted. -/
def are : Pattern := oneOf ["'re", " are"]

def rules : List Rule := [
  shipped "ad_hominem" [boundary, "you", are, gap, oneOf ["just", "only"], " a", maybe "n", gap,
    anyWord],
  shipped "ad_hominem" [boundary, "coming from ", oneOf ["someone", "you"], boundary],
  shipped "ad_hominem" [boundary, oneOf ["you", "your"], gap, oneOf ["lack", "don't have"], gap,
    oneOf ["credentials", "experience", "expertise"]],
  shipped "ad_hominem" [boundary, "what would you know", boundary],
  shipped "strawman" [boundary, "so you", are, " saying ", maybe "that ", "we should"],
  shipped "strawman" [boundary, "by that logic", boundary],
  shipped "strawman" [boundary, "if we follow your reasoning", boundary],
  shipped "strawman" [boundary, "you think that all ", anyWord, " are", boundary],
  shipped "false_dichotomy" [boundary, "either ", anyWord, " or ", anyWord],
  shipped "false_dichotomy" [boundary, "you", are, gap,
    oneOf ["either", "with us or against us"]],
  shipped "false_dichotomy" [boundary, "only two ", oneOf ["options", "choices"], boundary],
  shipped "false_dichotomy" [boundary, "if you don't ", anyWord, maybe ",", " then you must",
    boundary],
  shipped "slippery_slope" [boundary, "if we allow ", anyWord, maybe ",", gap, maybe "then ",
    "next thing", boundary],
  shipped "slippery_slope" [boundary, "this will lead to", boundary],
  shipped "slippery_slope" [boundary, "where does it ", oneOf ["end", "stop"], boundary],
  shipped "slippery_slope" [boundary, "it's a slippery slope", boundary],
  shipped "appeal_to_emotion" [boundary, "think of the children", boundary],
  shipped "appeal_to_emotion" [boundary, "how would you feel if", boundary],
  shipped "appeal_to_emotion" [boundary, "imagine if it ", oneOf ["was", "were"], " your", boundary],
  shipped "appeal_to_emotion" [boundary, "this makes me ", maybe "so ",
    oneOf ["angry", "sad", "upset"], boundary],
  shipped "hasty_generalization" [boundary, "all ", anyWord, " are ", oneOf ["always", "never"],
    boundary],
  shipped "hasty_generalization" [boundary, "every", maybe "one", " knows that", boundary],
  shipped "hasty_generalization" [boundary, oneOf ["no one", "nobody"], " thinks that", boundary],
  shipped "hasty_generalization" [boundary, anyWord, " always ", oneOf ["does", "says", "thinks"],
    boundary] halfWeight,
  shipped "appeal_to_authority" [boundary, "experts agree", boundary],
  shipped "appeal_to_authority" [boundary, "studies show", boundary],
  shipped "appeal_to_authority" [boundary, "science says", boundary],
  shipped "appeal_to_authority" [boundary, anyWord, " said ", oneOf ["so", "it"], boundary]
    halfWeight]

/-- The families by the names that a reader sees. -/
def names : List (String × String) := [
  ("ad_hominem", "Ad Hominem (attacking the person)"),
  ("strawman", "Strawman (misrepresenting the argument)"),
  ("false_dichotomy", "False Dichotomy (presenting only two options)"),
  ("slippery_slope", "Slippery Slope (claiming cascading consequences without evidence)"),
  ("appeal_to_emotion", "Appeal to Emotion (using feelings instead of logic)"),
  ("hasty_generalization", "Hasty Generalization (overgeneralizing from limited examples)"),
  ("appeal_to_authority", "Appeal to Authority (citing sources without specifics)")]

def suggestions : List (String × String) := [
  ("ad_hominem",
    "Focus on addressing the argument itself rather than attacking the person " ++
    "making it. What specific claims can you refute?"),
  ("strawman",
    "Ensure you're responding to the actual argument being made, not a " ++
    "misrepresented version. Can you quote their exact position?"),
  ("false_dichotomy",
    "Consider whether there are more than two options available. Are there " ++
    "middle-ground positions or alternative approaches?"),
  ("slippery_slope",
    "Provide evidence for each step in the causal chain. What specific " ++
    "mechanisms would lead to the predicted outcome?"),
  ("appeal_to_emotion",
    "While emotions are valid, consider supporting your point with factual " ++
    "reasoning. What objective evidence supports this position?"),
  ("hasty_generalization",
    "Avoid sweeping generalizations. Can you provide specific examples or " ++
    "acknowledge exceptions?"),
  ("appeal_to_authority",
    "When citing authorities, provide specific sources and be open to " ++
    "counter-evidence. Which studies or experts specifically?")]

/-- The suggestion for a family that has none of its own. -/
def generalSuggestion : String := "Consider strengthening your logical reasoning."

def resources : List (String × List Resource) := [
  ("ad_hominem", [
    ⟨"Ad Hominem Fallacy", "https://en.wikipedia.org/wiki/Ad_hominem"⟩,
    ⟨"Arguing Against the Person", "https://yourlogicalfallacyis.com/ad-hominem"⟩]),
  ("strawman", [
    ⟨"Straw Man Fallacy", "https://en.wikipedia.org/wiki/Straw_man"⟩,
    ⟨"Misrepresenting Arguments", "https://yourlogicalfallacyis.com/strawman"⟩]),
  ("false_dichotomy", [
    ⟨"False Dilemma", "https://en.wikipedia.org/wiki/False_dilemma"⟩,
    ⟨"Black or White Thinking", "https://yourlogicalfallacyis.com/black-or-white"⟩]),
  ("slippery_slope", [
    ⟨"Slippery Slope Fallacy", "https://en.wikipedia.org/wiki/Slippery_slope"⟩,
    ⟨"Understanding Slippery Slopes", "https://yourlogicalfallacyis.com/slippery-slope"⟩]),
  ("appeal_to_emotion", [
    ⟨"Appeal to Emotion", "https://en.wikipedia.org/wiki/Appeal_to_emotion"⟩,
    ⟨"Emotional Reasoning", "https://yourlogicalfallacyis.com/appeal-to-emotion"⟩]),
  ("hasty_generalization", [
    ⟨"Hasty Generalization", "https://en.wikipedia.org/wiki/Hasty_generalization"⟩,
    ⟨"Overgeneralization", "https://yourlogicalfallacyis.com/composition-division"⟩]),
  ("appeal_to_authority", [
    ⟨"Appeal to Authority", "https://en.wikipedia.org/wiki/Argument_from_authority"⟩,
    ⟨"When Authorities Aren't Enough",
      "https://yourlogicalfallacyis.com/appeal-to-authority"⟩])]

/-- The reading for a family that has none of its own. -/
def generalResources : List Resource := [
  ⟨"Logical Fallacies", "https://en.wikipedia.org/wiki/List_of_fallacies"⟩]

/-- The detection for the matches of a table, when there are any. -/
def report (rules : List Rule) (model : ConfidenceModel) (found : List RuleMatch) :
    Except NumberFault Detection := do
  let subtype := leadingSubtype found (subtypeOrder rules)
  let leader := subtype.getD ""
  let excerpts := messageExcerpts (found.filter fun m => m.rule.subtype == leader)
  let score ← model.scoreOf found
  return {
    kind := .fallacy
    subtype
    matchCount := totalMatches found
    confidence := .real score
    reasoning := "Detected " ++ natDigits (subtypeCount found leader) ++
      " instance(s) of the logical fallacy " ++ forSubtype names subtype leader ++ " " ++
      examples excerpts ++ ". Logical fallacies can weaken your argument even when your " ++
      "underlying point may be valid."
    suggestion := forSubtype suggestions subtype generalSuggestion
    resources := forSubtype resources subtype generalResources
    excerpts }

/-- What a table of fallacies finds in a text. -/
def analyze (rules : List Rule) (model : ConfidenceModel) (text : String) :
    Except NumberFault (Option Detection) :=
  match findings rules text with
  | [] => .ok none
  | found => some <$> report rules model found

/-- The detector with the shipped table. -/
def detector : Detector := .ofAnalysis "FallacyDetector" (analyze rules .fallacy)

end Deliberation.Fallacy
