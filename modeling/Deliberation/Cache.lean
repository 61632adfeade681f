/-
# Cache -- answers kept for a while

A cache keeps one payload under a key, with the time at which it was put there.  `get` finds a payload
until its time to live has run out; `put` of a new key into a full cache first drops the entry with the
earliest time.  A put under a stored key takes the place of the old entry.  Hits and misses count the
gets since the start or the last clear.  `run` carries out timed commands in order.

Times are numbers, whole ones or doubles, so the age of an entry may have no answer; then the get fails
and leaves the cache as it is.  An undefined time is neither before nor after any other.
-/
import Deliberation.Fault
import Deliberation.Value.Basic
import Deliberation.Digest

set_option autoImplicit false

namespace Deliberation

namespace Cache

/-- A payload under its key, and when it was put there. -/
structure Entry (κ α : Type) where
  key : κ
  stamp : Number
  payload : α

end Cache

/-- Entries in the order in which their keys were first put. -/
structure Cache (κ α : Type) where
  ttl : Number
  capacity : Int
  entries : List (Cache.Entry κ α)
  hits : Nat
  misses : Nat

namespace Cache

variable {κ α : Type} [DecidableEq κ]

/-- A cache without entries. -/
def empty (ttl : Number) (capacity : Int) : Cache κ α := ⟨ttl, capacity, [], 0, 0⟩

/-- The entry under a key. -/
def find? (c : Cache κ α) (key : κ) : Option (Entry κ α) := c.entries.find? (·.key = key)

/-- The entries without those under a key. -/
def without (entries : List (Entry κ α)) (key : κ) : List (Entry κ α) :=
  entries.filter fun e => e.key ≠ key

/-- The time to live of an entry has run out: more time has passed. -/
def isExpired (c : Cache κ α) (now : Number) (e : Entry κ α) : Except NumberFault Bool := do
  return decide (c.ttl < (← now.sub e.stamp))

/-! ## Commands -/

/-- The payload under a key.  An expired entry is dropped, and counts as a miss like an absent one.
Where the age of the entry has no answer, nothing is counted or dropped. -/
def get (c : Cache κ α) (now : Number) (key : κ) : Except Fault (Option α) × Cache κ α :=
  match c.find? key with
  | none => (.ok none, { c with misses := c.misses + 1 })
  | some e =>
    match c.isExpired now e with
    | .ok true => (.ok none, { c with entries := without c.entries key, misses := c.misses + 1 })
    | .ok false => (.ok (some e.payload), { c with hits := c.hits + 1 })
    | .error fault => (.error (.number fault), c)

/-- The entry with the earliest time; of several, the first. -/
def oldest? : List (Entry κ α) → Option (Entry κ α)
  | [] => none
  | first :: rest =>
    some (rest.foldl (fun oldest e => if e.stamp < oldest.stamp then e else oldest) first)

/-- Room for a new key: the oldest entry is dropped when the cache is full, which must not be empty. -/
def makeRoom (c : Cache κ α) : Except Fault (List (Entry κ α)) :=
  if (c.entries.length : Int) < c.capacity then .ok c.entries
  else
    match oldest? c.entries with
    | some e => .ok (without c.entries e.key)
    | none => .error .emptyChoice

/-- A payload put under a key. -/
def put (c : Cache κ α) (now : Number) (key : κ) (payload : α) : Except Fault (Cache κ α) :=
  match c.find? key with
  | some _ =>
    .ok { c with entries := c.entries.map fun e => if e.key = key then ⟨key, now, payload⟩ else e }
  | none => do
    let kept ← c.makeRoom
    return { c with entries := kept ++ [⟨key, now, payload⟩] }

/-- Nothing under a key. -/
def invalidate (c : Cache κ α) (key : κ) : Cache κ α :=
  { c with entries := without c.entries key }

/-- No entries, and counting starts again. -/
def clear (c : Cache κ α) : Cache κ α := empty c.ttl c.capacity

/-- The share of hits among the gets, to three places. -/
def hitRate (c : Cache κ α) : Binary64 :=
  if c.hits + c.misses = 0 then .finite 0
  else (Binary64.ofRat (c.hits / (c.hits + c.misses : Nat) : Rat)).roundPlaces 3

/-- What can be asked of a cache. -/
inductive Command (κ α : Type) where
  | get (key : κ)
  | put (key : κ) (payload : α)
  | invalidate (key : κ)
  | clear

/-- The payload found by a command, and the cache after it.  A failed command changes nothing. -/
def step (c : Cache κ α) (now : Number) : Command κ α → Except Fault (Option α) × Cache κ α
  | .get key => c.get now key
  | .put key payload =>
    match c.put now key payload with
    | .ok c => (.ok none, c)
    | .error fault => (.error fault, c)
  | .invalidate key => (.ok none, c.invalidate key)
  | .clear => (.ok none, c.clear)

/-- The cache after timed commands. -/
def run (c : Cache κ α) (commands : List (Number × Command κ α)) : Cache κ α :=
  commands.foldl (fun c (now, command) => (c.step now command).2) c

end Cache

/-! ## Keys and payloads of previews -/

/-- The key of a draft at a sensitivity: the digest of both, with two bars between them. -/
def fingerprint (content sensitivity : String) : String :=
  Digest.sha256 (content ++ "||" ++ sensitivity)

/-- A payload as it comes out of a cache; only records can be told to come from there. -/
def Value.markCached : Value → Except Fault Value
  | .record fields => .ok (.record (setField "cached" (.bool true) fields))
  | _ => .error .wrongType

/-- What a command answers: the payload found, as it comes out of a cache, or null. -/
def Cache.answerOf (found : Except Fault (Option Value)) : Except Fault Value := do
  match ← found with
  | some payload => payload.markCached
  | none => return .null

/-- Entries, hits, misses and the share of hits. -/
def Cache.toValue {κ α : Type} (c : Cache κ α) : Value :=
  .record [
    ("entries", .whole c.entries.length),
    ("hits", .whole c.hits),
    ("misses", .whole c.misses),
    ("hit_rate", .real c.hitRate)]

end Deliberation
