/-
# CommonGround.Notes -- what participants wrote

The notes of some stances, and how those of nuanced participants lean.  A note that speaks of support
and of opposition leans both ways and counts twice; one that speaks of neither depends on context.
-/
import Deliberation.Proposition.Basic
import Deliberation.Pattern.Matching
import Deliberation.Pattern.Phrase
import Deliberation.Text.Basic

set_option autoImplicit false

namespace Deliberation

open Text Pattern

/-- The notes that are not blank of participants with one of the given stances, in order. -/
def StanceRecord.notes (r : StanceRecord) (stances : List Stance) : List String :=
  (r.alignments.filter fun a => stances.contains a.stance).filterMap fun a =>
    a.note.filter fun s => !isBlankText s

/-- A word that speaks of support. -/
def supportWord : Pattern :=
  inOrder [boundary, oneOf ["support", "agree", inOrder ["favo", maybe "u", "r"]]]

/-- A word that speaks of opposition. -/
def opposeWord : Pattern := inOrder [boundary, oneOf ["oppose", "against", "disagree"]]

def leansSupport (note : String) : Bool := supportWord.occursIn note

def leansOppose (note : String) : Bool := opposeWord.occursIn note

/-- A reading of a proposition, and how many participants share it. -/
structure Interpretation where
  label : String
  count : Nat
  deriving DecidableEq

def supportLabel : String := "Support with conditions or caveats"

def opposeLabel : String := "Opposition with exceptions"

def contextLabel : String := "Context-dependent position"

/-- The readings of nuanced participants, in fixed order, without those that nobody shares. -/
def StanceRecord.interpretations (r : StanceRecord) : List Interpretation :=
  let notes := r.notes [.nuanced]
  let found : List Interpretation := [
    ⟨supportLabel, notes.countP leansSupport⟩,
    ⟨opposeLabel, notes.countP leansOppose⟩,
    ⟨contextLabel, notes.countP fun note => !(leansSupport note || leansOppose note)⟩]
  found.filter fun i => 0 < i.count

/-- The reasons of participants of one stance: their first two notes, or a stock sentence. -/
def StanceRecord.reasons (r : StanceRecord) (stance : Stance) (stock : String) : List String :=
  match (r.notes [stance]).take 2 with
  | [] => [stock]
  | notes => notes

def supportStock : String := "Supports this proposition"

def opposeStock : String := "Opposes this proposition"

def Interpretation.toValue (i : Interpretation) : Value :=
  .record [("interpretation", .text i.label), ("participant_count", .whole i.count)]

end Deliberation
