/-
# Clustering.Incidence -- which list holds which word

Every word has a column, given out where the word is met first.  The table of incidence has a row for every
list, with ones in the columns of its words and zeros elsewhere.  The product of two rows counts the words
that both lists hold, and the sum of a row those of its list, so that the words in either list are counted
without a look at the lists.

The scalars are left open (`Counting`): whole numbers, or doubles, which count exactly as far as they hold
every whole number.
-/
import Deliberation.Distinct
import Deliberation.Number.Basic

set_option autoImplicit false

namespace Deliberation

/-- What counting by products asks of its scalars. -/
class Counting (α : Type) where
  zero : α
  one : α
  add : α → α → α
  sub : α → α → α
  mul : α → α → α
  /-- The quotient as a double; zero where the divisor is not positive. -/
  share : α → α → Binary64

instance : Counting Nat where
  zero := 0
  one := 1
  add := (· + ·)
  sub := (· - ·)
  mul := (· * ·)
  share part all := if 0 < all then .ofQuotient part all else .finite 0

instance : Counting Binary64 where
  zero := .finite 0
  one := .finite 1
  add := (· + ·)
  sub := (· - ·)
  mul := (· * ·)
  share part all := if .finite 0 < all then part / all else .finite 0

/-- The words in the order of their columns, and the places of the table that hold a one, as row and
column, latest first. -/
structure Incidence where
  columns : List String
  ones : List (Nat × Nat)

namespace Incidence

/-- Every row with each of its words, once. -/
def marks (sets : List (List String)) : List (Nat × String) :=
  sets.zipIdx.flatMap fun (words, row) => (distinct words).map fun word => (row, word)

/-- A word of a row is marked at its column, or at the next one where it has none yet. -/
def mark (c : Incidence) (m : Nat × String) : Incidence where
  columns := if c.columns.contains m.2 then c.columns else c.columns ++ [m.2]
  ones := (m.1, c.columns.idxOf m.2) :: c.ones

/-- The words of all lists, row by row. -/
def of (sets : List (List String)) : Incidence := (marks sets).foldl mark ⟨[], []⟩

section Table

variable {α : Type} [Counting α]

/-- A one at every marked place of the row, and zeros elsewhere. -/
def row (α : Type) [Counting α] (c : Incidence) (r : Nat) : List α :=
  c.ones.foldl (fun cells place => if place.1 = r then cells.set place.2 Counting.one else cells)
    (List.replicate c.columns.length Counting.zero)

/-- The sum of a row. -/
def total (cells : List α) : α := cells.foldl Counting.add Counting.zero

/-- The product of two rows. -/
def product (cells cells' : List α) : α := total (List.zipWith Counting.mul cells cells')

end Table

end Incidence

end Deliberation
