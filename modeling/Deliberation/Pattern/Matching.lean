/-
# Pattern.Matching -- the preferred match, and all matches of a text

`Pattern.find` tries the ways a pattern can match from a cursor in order of preference and stops at
the first that what follows accepts: the first branch of a choice before the second, more repetitions
before fewer.  A repetition that consumed nothing is not followed by another one.

`Pattern.spans` lists the matches in a text from left to right, none overlapping another.  An empty
match counts, also directly after a match; after one at some place, a match that is not empty is
still sought there.
-/
import Deliberation.Pattern.Basic

set_option autoImplicit false

namespace Deliberation

open Text

/-- A place in a text: the character before it and the characters after it. -/
structure Cursor where
  before : Option Char
  rest : List Char

namespace Cursor

/-- A word character stands on exactly one side. -/
def atBoundary (s : Cursor) : Bool :=
  (s.before.map isWord).getD false != (s.rest.head?.map isWord).getD false

/-- The places up to which characters of the class follow, farthest first.  `nearer` holds the
places already passed. -/
def stops (cls : CharClass) (nearer : List Cursor) (before : Option Char) :
    List Char → List Cursor
  | [] => ⟨before, []⟩ :: nearer
  | c :: rest =>
    if cls.holds c then stops cls (⟨before, c :: rest⟩ :: nearer) (some c) rest
    else ⟨before, c :: rest⟩ :: nearer

end Cursor

namespace Pattern

/-- A way to match from a cursor: every place reached is offered to what follows, in order of
preference, until one is accepted. -/
abbrev Way (β : Type) := Cursor → (Cursor → Option β) → Option β

/-- A way taken a number of times. -/
def exactly {β : Type} (body : Way β) : Nat → Way β
  | 0, s, next => next s
  | n + 1, s, next => body s fun t => exactly body n t next

/-- A way taken as often as possible.  One that stays in place ends the repetition, so the number of
characters left bounds it. -/
def greedily {β : Type} (body : Way β) : Nat → Way β
  | 0, s, next => next s
  | left + 1, s, next =>
    match body s fun t =>
      if t.rest.length < s.rest.length then greedily body left t next else next t with
    | some r => some r
    | none => next s

/-- The first way to match that what follows accepts. -/
def find {β : Type} : Pattern → Way β
  | empty, s, next => next s
  | one cls, s, next =>
    match s.rest with
    | c :: rest => if cls.holds c then next ⟨some c, rest⟩ else none
    | [] => none
  | boundary, s, next => if s.atBoundary then next s else none
  | run cls least, s, next =>
    let stops := Cursor.stops cls [] s.before s.rest
    (stops.take (stops.length - least)).findSome? next
  | seq first second, s, next => first.find s fun t => second.find t next
  | choice first second, s, next =>
    match first.find s next with
    | some r => some r
    | none => second.find s next
  | optional body, s, next =>
    match body.find s next with
    | some r => some r
    | none => next s
  | repeated body least, s, next =>
    exactly body.find least s fun t => greedily body.find t.rest.length t next

/-- The characters of the preferred match at a cursor. -/
def spanAt? (p : Pattern) (s : Cursor) : Option (List Char) :=
  p.find s fun t => some (s.rest.take (s.rest.length - t.rest.length))

/-- The characters of the preferred match at a cursor among those that are not empty. -/
def nonEmptySpanAt? (p : Pattern) (s : Cursor) : Option (List Char) :=
  p.find s fun t =>
    let span := s.rest.take (s.rest.length - t.rest.length)
    if span.isEmpty then none else some span

/-- The matches that begin at a cursor. -/
def spansAt (p : Pattern) (s : Cursor) : List (List Char) :=
  match p.spanAt? s with
  | none => []
  | some [] => [] :: (p.nonEmptySpanAt? s).toList
  | some span => [span]

/-- The matches from a place on; the first `covered` characters belong to an earlier match. -/
def spansFrom (p : Pattern) (before : Option Char) : List Char → Nat → List (List Char)
  | [], _ => p.spansAt ⟨before, []⟩
  | c :: rest, covered + 1 => spansFrom p (some c) rest covered
  | c :: rest, 0 =>
    let here := p.spansAt ⟨before, c :: rest⟩
    here ++ spansFrom p (some c) rest ((here.getLast?.map List.length).getD 0 - 1)

/-- The matches in a text. -/
def spans (p : Pattern) (text : String) : List String :=
  (p.spansFrom none text.toList 0).map String.ofList

/-- The pattern matches somewhere in the text. -/
def occursIn (p : Pattern) (text : String) : Bool := !(p.spans text).isEmpty

end Pattern

end Deliberation
