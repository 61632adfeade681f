/-
# Clustering.Linkage -- average linkage

Starting from single items, the two clusters whose items are most alike on average are merged, again
and again, until the best average lies below a threshold.  The sums of similarities between clusters
are kept in a table and updated in place; after a merge only the survivor's averages are recomputed.
Of equally good pairs the first in the order of rows is merged.  The survivor is the cluster with the
smaller index, and its items stand before those it takes in.

The scalars are left open (`Averaging`): doubles, in which every sum and mean is rounded, or any
others.  The merges do not depend on the threshold, which only says where they end.
-/
import Deliberation.Clustering.Similarity

set_option autoImplicit false

namespace Deliberation

/-- What average linkage asks of its scalars. -/
class Averaging (α : Type) where
  zero : α
  one : α
  add : α → α → α
  /-- A sum over a number of pairs, divided by that number. -/
  mean : α → Nat → α
  /-- The second scalar takes the place of the first as the best so far. -/
  betters : α → α → Bool
  /-- Merging at this average ends under a threshold. -/
  ends : α → α → Bool

/-- What absorbs the noise of rounded averages that are compared with a threshold. -/
def linkageSlack : Binary64 := .ofDecimal 1 12

/-- Doubles: an undefined average is better than any other, and merging ends at an average that is
not finite. -/
instance : Averaging Binary64 where
  zero := .finite 0
  one := .finite 1
  add := (· + ·)
  mean sum count := sum / .ofNat count
  betters best x := !best.isNaN && (x.isNaN || best.lt x)
  ends best threshold := !best.isFinite || (best + linkageSlack).lt threshold

/-- Two clusters that became one: the survivor, the other one, and their average similarity. -/
structure Merge (α : Type) (n : Nat) where
  survivor : Fin n
  absorbed : Fin n
  average : α

/-- The clusters after some merges.  A cluster goes by the index of its first item; `live` lists the
indices in order.  `sums` holds the sums of similarities between clusters, and `averages` their means
for live clusters in order. -/
structure Clusters (α : Type) (n : Nat) where
  sums : Grid α n
  averages : Grid α n
  members : Vector (List (Fin n)) n
  live : List (Fin n)
  /-- The merges so far, latest first. -/
  merges : List (Merge α n)

/-- The pairs of a list, an earlier item before a later one, in the order of rows. -/
def orderedPairs {β : Type} : List β → List (β × β)
  | [] => []
  | x :: rest => rest.map (x, ·) ++ orderedPairs rest

namespace Clusters

variable {α : Type} [Averaging α] {n : Nat}

/-- Every item by itself. -/
def singletons (sim : Grid α n) : Clusters α n where
  sums := sim
  averages := sim
  members := .ofFn fun i => [i]
  live := List.finRange n
  merges := []

/-- The best of two merges in order: the later only where it betters the earlier. -/
def better (best : Option (Merge α n)) (m : Merge α n) : Option (Merge α n) :=
  match best with
  | none => some m
  | some b => if Averaging.betters b.average m.average then some m else some b

/-- The merge of the two live clusters that are most alike on average. -/
def best? (c : Clusters α n) : Option (Merge α n) :=
  (orderedPairs c.live).foldl (fun best (i, j) => better best ⟨i, j, c.averages i j⟩) none

/-- The sums after a cluster took in another: the rows are added, then the columns. -/
def mergedSums (sums : Grid α n) (i j : Fin n) : Grid α n :=
  let rows : Fin n → Fin n → α := fun r k =>
    if r = i then Averaging.add (sums i k) (sums j k) else sums r k
  .ofFn fun r k => if k = i then Averaging.add (rows r i) (rows r j) else rows r k

/-- The clusters after a merge. -/
def merge (c : Clusters α n) (m : Merge α n) : Clusters α n :=
  let i := m.survivor
  let j := m.absorbed
  let sums := mergedSums c.sums i j
  let members := (c.members.set i (c.members.get i ++ c.members.get j)).set j []
  let average (k : Fin n) : α :=
    Averaging.mean (sums i k) ((members.get i).length * (members.get k).length)
  let row := Vector.ofFn average
  { sums
    averages := .ofFn fun r k =>
      if r = i then row.get k else if k = i then row.get r else c.averages r k
    members
    live := c.live.erase j
    merges := m :: c.merges }

/-- One merge, unless merging ends. -/
def step? (threshold : α) (c : Clusters α n) : Option (Clusters α n) :=
  match c.best? with
  | none => none
  | some m => if Averaging.ends m.average threshold then none else some (c.merge m)

/-- At most a number of merges. -/
def mergeUpTo (threshold : α) : Nat → Clusters α n → Clusters α n
  | 0, c => c
  | fuel + 1, c =>
    match c.step? threshold with
    | none => c
    | some c' => mergeUpTo threshold fuel c'

/-- The items of each live cluster, in the order of their first items. -/
def groups (c : Clusters α n) : List (List (Fin n)) := c.live.map c.members.get

end Clusters

/-- The clusters in which merging ends.  Each merge leaves one cluster fewer, so as many merges as
there are items are never used up. -/
def agglomerate {α : Type} [Averaging α] {n : Nat} (sim : Grid α n) (threshold : α) :
    Clusters α n :=
  (Clusters.singletons sim).mergeUpTo threshold n

/-! ## Cohesion -/

section Sums

variable {α : Type} [Averaging α]

/-- A sum from left to right. -/
def runningSum (start : α) (xs : List α) : α := xs.foldl Averaging.add start

/-- The rows of a given width; what is left over makes no row. -/
def fullRows {β : Type} (width : Nat) : Nat → List β → List (List β)
  | 0, _ => []
  | count + 1, xs => xs.take width :: fullRows width count (xs.drop width)

/-- Neighbours added pairwise. -/
def addNeighbours : List α → List α
  | x :: y :: rest => Averaging.add x y :: addNeighbours rest
  | rest => rest

/-- The sum of up to 128 scalars.  From eight on, every eighth one goes to the same of eight running
sums, these are added pairwise, and what is left over follows. -/
def blockSum (xs : List α) : α :=
  if xs.length < 8 then runningSum Averaging.zero xs
  else
    let count := xs.length / 8
    match fullRows 8 count xs with
    | [] => Averaging.zero
    | first :: rows =>
      let lanes := rows.foldl (List.zipWith Averaging.add) first
      let total := (addNeighbours (addNeighbours (addNeighbours lanes))).headD Averaging.zero
      runningSum total (xs.drop (8 * count))

/-- The sum of scalars by halving down to blocks of at most 128, which keeps rounding small.  Each
half is shorter, so as many halvings as there are scalars suffice. -/
def pairwiseSum (xs : List α) : α := go xs.length xs
where
  /-- The sum after at most a number of halvings. -/
  go : Nat → List α → α
    | 0, xs => blockSum xs
    | fuel + 1, xs =>
      if xs.length ≤ 128 then blockSum xs
      else
        let half := xs.length / 2 / 8 * 8
        Averaging.add (go fuel (xs.take half)) (go fuel (xs.drop half))

/-- The mean similarity of the pairs of a group; one for a group of fewer than two. -/
def cohesion {n : Nat} (sim : Grid α n) (group : List (Fin n)) : α :=
  let pairs := orderedPairs group
  if pairs.isEmpty then Averaging.one
  else Averaging.mean (pairwiseSum (pairs.map fun (i, j) => sim i j)) pairs.length

end Sums

/-- An index from either end: `-1` is the last. -/
def indexFromEnds? (n : Nat) (i : Int) : Option (Fin n) :=
  let place := if i < 0 then i + n else i
  if h : 0 ≤ place ∧ place < n then some ⟨place.toNat, by omega⟩ else none

end Deliberation
