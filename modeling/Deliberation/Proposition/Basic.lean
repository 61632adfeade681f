/-
# Proposition.Basic -- the records of a discussion

A `Proposition` is a statement under an id.  A `StanceRecord` is a proposition with its stances: how
many participants support it, oppose it or hold a nuanced view, and what some of them noted.  Every
record has a value form (`toValue`).
-/
import Deliberation.Value.Basic

set_option autoImplicit false

namespace Deliberation

/-- A statement to be clustered. -/
structure Proposition where
  id : String
  statement : String
  metadata : Option (List (String × Value))

/-- How a participant stands to a proposition. -/
inductive Stance where
  | support
  | oppose
  | nuanced
  deriving DecidableEq, Repr

namespace Stance

def all : List Stance := [support, oppose, nuanced]

def label : Stance → String
  | support => "SUPPORT"
  | oppose => "OPPOSE"
  | nuanced => "NUANCED"

/-- The stance that a value names. -/
def ofValue? : Value → Option Stance
  | .text s => all.find? fun stance => stance.label == s
  | _ => none

end Stance

/-- The stance of one participant, with a note where one was left. -/
structure Alignment where
  user : String
  stance : Stance
  note : Option String
  deriving DecidableEq

/-- A proposition with its stances. -/
structure StanceRecord where
  id : String
  statement : String
  support : Nat
  oppose : Nat
  nuanced : Nat
  consensus : Option Binary64
  alignments : List Alignment
  deriving DecidableEq

/-- The number of stances taken. -/
def StanceRecord.total (r : StanceRecord) : Nat := r.support + r.oppose + r.nuanced

/-! ## As values -/

def Proposition.toValue (p : Proposition) : Value :=
  .record [
    ("id", .text p.id),
    ("statement", .text p.statement),
    ("metadata", (p.metadata.map Value.record).getD .null)]

def Alignment.toValue (a : Alignment) : Value :=
  .record [
    ("user_id", .text a.user),
    ("stance", .text a.stance.label),
    ("nuance_explanation", .optText a.note)]

def StanceRecord.toValue (r : StanceRecord) : Value :=
  .record [
    ("id", .text r.id),
    ("statement", .text r.statement),
    ("support_count", .whole r.support),
    ("oppose_count", .whole r.oppose),
    ("nuanced_count", .whole r.nuanced),
    ("consensus_score", (r.consensus.map Value.real).getD .null),
    ("alignments", .list (r.alignments.map Alignment.toValue))]

end Deliberation
