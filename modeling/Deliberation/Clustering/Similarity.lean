/-
# Clustering.Similarity -- how alike two statements are

The similarity of two statements is the share of common keywords among all their keywords, and zero
when either has none (`jaccard`).  A `Grid` holds a value for every pair of items.  The similarities of a
list of statements make a symmetric one with ones on the diagonal; they are not taken pair by pair, but
come from products of the rows of one table of incidence.
-/
import Deliberation.Clustering.Incidence
import Deliberation.Clustering.Keywords

set_option autoImplicit false

namespace Deliberation

/-- A square table of values. -/
structure Grid (α : Type) (n : Nat) where
  rows : Vector (Vector α n) n

namespace Grid

variable {α : Type} {n : Nat}

/-- The table of a function. -/
def ofFn (f : Fin n → Fin n → α) : Grid α n := ⟨.ofFn fun i => .ofFn fun j => f i j⟩

def get (g : Grid α n) (i j : Fin n) : α := g.rows[i][j]

instance : CoeFun (Grid α n) fun _ => Fin n → Fin n → α := ⟨get⟩

@[simp] theorem get_ofFn (f : Fin n → Fin n → α) (i j : Fin n) : (ofFn f).get i j = f i j := by
  simp [get, ofFn]

end Grid

/-- The number of different words in both lists, and the number in either. -/
def overlap (a b : List String) : Nat × Nat :=
  let a := distinct a
  let b := distinct b
  let common := (a.filter b.contains).length
  (common, a.length + b.length - common)

/-- The share of common words among all; zero when either list is empty. -/
def jaccard (a b : List String) : Binary64 :=
  if a.isEmpty || b.isEmpty then .finite 0
  else
    let (common, either) := overlap a b
    .ofQuotient common either

/-- The shares of common words, counted in given scalars; one on the diagonal. -/
def similaritiesBy (α : Type) [Counting α] (sets : List (List String)) : Grid Binary64 sets.length :=
  let incidence := Incidence.of sets
  let rows : Vector (List α) sets.length := .ofFn fun i => incidence.row α i
  let counts := rows.map Incidence.total
  .ofFn fun i j =>
    if i = j then .finite 1
    else
      let common := Incidence.product rows[i] rows[j]
      Counting.share common (Counting.sub (Counting.add counts[i] counts[j]) common)

/-- The similarities of a list of keyword lists, one on the diagonal. -/
def similarities (sets : List (List String)) : Grid Binary64 sets.length := similaritiesBy Nat sets

end Deliberation
