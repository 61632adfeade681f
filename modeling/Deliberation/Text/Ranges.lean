/-
# Text.Ranges -- sets and mappings of characters as sorted tables

A set of characters is the list of code points at which membership changes (`Bounds`): a character
is in the set when an odd number of them are at or below it.  A mapping is a list of runs, in each of
which every `step`-th code point is shifted by the same amount (`ShiftRun`).  Both are searched by
halving.
-/

set_option autoImplicit false

namespace Deliberation.Text

/-- How many of the first `size` keys, which do not decrease, are at most `c`. -/
def countAtMost (key : Nat → Nat) (size : Nat) (c : Nat) : Nat :=
  go size 0 size
where
  /-- The count lies between `low` and `high`; each step halves what is between them. -/
  go : Nat → Nat → Nat → Nat
    | 0, low, _ => low
    | fuel + 1, low, high =>
      if low < high then
        let middle := (low + high) / 2
        if key middle ≤ c then go fuel (middle + 1) high else go fuel low middle
      else low

/-- The code points at which membership in a set changes, in increasing order. -/
abbrev Bounds := Array Nat

/-- Membership in the set with the given bounds. -/
def Bounds.holds (bounds : Bounds) (c : Char) : Bool :=
  countAtMost (fun i => bounds[i]?.getD 0) bounds.size c.toNat % 2 = 1

/-- Every `step`-th code point from `first` to `last` is mapped by adding `shift`. -/
structure ShiftRun where
  first : Nat
  last : Nat
  step : Nat
  shift : Int

/-- The run covers the code point. -/
def ShiftRun.covers (run : ShiftRun) (c : Nat) : Bool :=
  run.first ≤ c && c ≤ run.last && (c - run.first) % run.step = 0

/-- The image of a code point of the run. -/
def ShiftRun.apply (run : ShiftRun) (c : Nat) : Char := Char.ofNat ((c : Int) + run.shift).toNat

/-- The image of a character under sorted runs; itself where no run covers it. -/
def mapByRuns (runs : Array ShiftRun) (c : Char) : Char :=
  let below := countAtMost (fun i => (runs[i]?.map (·.first)).getD 0) runs.size c.toNat
  match runs[below - 1]? with
  | some run => if run.covers c.toNat then run.apply c.toNat else c
  | none => c

/-- The characters that sorted runs map to the given one. -/
def preimagesByRuns (runs : Array ShiftRun) (c : Char) : List Char :=
  runs.toList.filterMap fun run =>
    let source := ((c.toNat : Int) - run.shift).toNat
    if run.covers source && run.apply source == c then some (Char.ofNat source) else none

end Deliberation.Text
