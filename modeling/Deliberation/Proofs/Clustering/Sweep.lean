/-
# Proofs.Clustering.Sweep -- a loop over the whole table comes to an end

Linkage can also be read as an unbounded loop.  It keeps a square table in which every place that is no
pair of live clusters in order holds minus infinity (`masked`).  At every turn it takes the greatest entry
of the table, row by row, whatever cell this is in (`greatest?`), and it stops where that entry is not
finite or lies below the threshold (`sweep`).

A finite greatest entry sits at two live clusters in order (`live_of_sweep?`), because all other places are
below it.  So every turn leaves one cluster fewer and the loop ends, for any doubles at all.  Where no pair
is left, or all pairs are at minus infinity, the sweep may find a place that is no pair, but it ends there
as the search among the pairs does (`sweep?_eq_step?`).  Both make the same clusters (`sweep_ends`).
-/
import Deliberation.Proofs.Clustering.Averages
import Deliberation.Proofs.Clustering.Threshold
import Mathlib.Data.List.Sort

set_option autoImplicit false

namespace Deliberation

open Binary64

/-- The ordered pairs of a sorted list are those of all pairs, row by row, that are in order. -/
theorem orderedPairs_eq_filter {n : ℕ} {l : List (Fin n)} (sorted : l.Pairwise (· < ·)) :
    orderedPairs l = (l ×ˢ l).filter fun p => p.1 < p.2 := by
  have rows (l' : List (Fin n)) : (l ×ˢ l').filter (fun p => p.1 < p.2) =
      l.flatMap fun r => (l'.filter (r < ·)).map fun k => (r, k) := by
    simp only [SProd.sprod, List.product, List.filter_flatMap, List.filter_map, Function.comp_def]
  rw [rows]
  clear rows
  induction l with
  | nil => rfl
  | cons x rest ih =>
      rw [List.pairwise_cons] at sorted
      have firstRow : (x :: rest).filter (x < ·) = rest := by
        rw [List.filter_cons_of_neg (by simp), List.filter_eq_self]
        simpa using sorted.1
      have otherRows : ∀ r ∈ rest, (x :: rest).filter (r < ·) = rest.filter (r < ·) := by
        intro r hr
        exact List.filter_cons_of_neg (by simpa using (sorted.1 r hr).le)
      rw [orderedPairs, ih sorted.2, List.flatMap_cons, firstRow]
      congr 1
      exact List.flatMap_congr fun r hr => by rw [otherRows r hr]

/-- Every place of a table with what it holds, row by row. -/
def Grid.entries {α : Type} {n : ℕ} (g : Grid α n) : List (Merge α n) :=
  (List.finRange n ×ˢ List.finRange n).map fun p => ⟨p.1, p.2, g p.1 p.2⟩

theorem average_of_mem_entries {α : Type} {n : ℕ} {g : Grid α n} {m : Merge α n}
    (entry : m ∈ g.entries) : m.average = g m.survivor m.absorbed := by
  obtain ⟨p, -, rfl⟩ := List.mem_map.1 entry
  rfl

namespace Clusters

variable {n : ℕ} {threshold : Binary64} {c c' : Clusters Binary64 n} {m : Merge Binary64 n}

/-- The averages of live clusters in order, and minus infinity in every other place. -/
def masked (c : Clusters Binary64 n) : Grid Binary64 n :=
  .ofFn fun r k => if r ∈ c.live ∧ k ∈ c.live ∧ r < k then c.averages r k else .infinite true

/-- The first of the greatest entries of a table; an undefined one counts as the greatest. -/
def greatest? (g : Grid Binary64 n) : Option (Merge Binary64 n) := g.entries.foldl better none

/-- A merge that was found is carried out, unless it ends merging. -/
def carriedOut (threshold : Binary64) (c : Clusters Binary64 n) :
    Option (Merge Binary64 n) → Option (Clusters Binary64 n)
  | none => none
  | some m => if Averaging.ends m.average threshold then none else some (c.merge m)

/-- One turn of the loop. -/
def sweep? (threshold : Binary64) (c : Clusters Binary64 n) : Option (Clusters Binary64 n) :=
  carriedOut threshold c (greatest? c.masked)

/-! ## Where a finite entry sits -/

theorem ends_lowest (threshold : Binary64) : Averaging.ends (infinite true) threshold = true :=
  ends_iff.2 (.inl rfl)

theorem sweep?_eq_some_iff :
    c.sweep? threshold = some c' ↔
      ∃ m, greatest? c.masked = some m ∧ Averaging.ends m.average threshold = false ∧
        c' = c.merge m := by
  rw [sweep?]
  cases greatest? c.masked with
  | none => simp [carriedOut]
  | some m =>
      cases ends : Averaging.ends m.average threshold with
      | true => simp [carriedOut, ends]
      | false => simp [carriedOut, ends, eq_comm (a := c')]

/-- **A greatest entry that does not end the loop sits at two live clusters in order.** -/
theorem live_of_sweep? (greatest : greatest? c.masked = some m)
    (goesOn : Averaging.ends m.average threshold = false) :
    m.survivor ∈ c.live ∧ m.absorbed ∈ c.live ∧ m.survivor < m.absorbed := by
  have entry : m ∈ c.masked.entries := (mem_of_foldl_better greatest).resolve_right (by simp)
  by_contra dead
  rw [average_of_mem_entries entry, masked, Grid.get_ofFn, if_neg dead, ends_lowest] at goesOn
  cases goesOn

theorem length_live_of_sweep? (turn : c.sweep? threshold = some c') :
    c'.live.length < c.live.length := by
  obtain ⟨m, greatest, goesOn, rfl⟩ := sweep?_eq_some_iff.1 turn
  have live := (live_of_sweep? greatest goesOn).2.1
  have positive := List.length_pos_of_mem live
  rw [merge, List.length_erase_of_mem live]
  omega

/-- The loop: turn after turn, until one does not go on. -/
def sweep (threshold : Binary64) (c : Clusters Binary64 n) : Clusters Binary64 n :=
  match _turn : c.sweep? threshold with
  | none => c
  | some c' => sweep threshold c'
termination_by c.live.length
decreasing_by exact length_live_of_sweep? _turn

/-! ## The sweep and the search among the pairs -/

/-- Two live clusters in order. -/
def isOpen (c : Clusters Binary64 n) (m : Merge Binary64 n) : Bool :=
  decide (m.survivor ∈ c.live ∧ m.absorbed ∈ c.live ∧ m.survivor < m.absorbed)

theorem live_eq_filter (sorted : c.live.Pairwise (· < ·)) :
    c.live = (List.finRange n).filter (· ∈ c.live) :=
  sorted.eq_of_mem_iff ((List.pairwise_lt_finRange n).filter _) (by simp)

/-- What is open are the places of the table that are not masked. -/
theorem candidates_eq_filter (sorted : c.live.Pairwise (· < ·)) :
    c.candidates = c.masked.entries.filter c.isOpen := by
  have pairs : orderedPairs c.live = (List.finRange n ×ˢ List.finRange n).filter fun p =>
      c.isOpen ⟨p.1, p.2, c.masked p.1 p.2⟩ := by
    conv_lhs => rw [live_eq_filter sorted]
    rw [orderedPairs_filter, orderedPairs_eq_filter (List.pairwise_lt_finRange n), List.filter_filter]
    refine List.filter_congr fun p _ => ?_
    simp [isOpen, Bool.and_assoc]
  rw [candidates, Grid.entries, List.filter_map, Function.comp_def, pairs]
  refine List.map_congr_left fun p hp => ?_
  have place := of_decide_eq_true (List.mem_filter.1 hp).2
  rw [masked, Grid.get_ofFn, if_pos place]

theorem betters_lowest (x : Binary64) : Averaging.betters x (infinite true) = false := by
  rcases x with _ | (_ | _) | _ | _ <;> rfl

theorem lowest_betters {x : Binary64} (above : x ≠ infinite true) :
    Averaging.betters (infinite true) x = true := by
  rcases x with _ | (_ | _) | _ | _
  case infinite.true => exact absurd rfl above
  all_goals rfl

/-- Nothing above minus infinity was found. -/
def Lowest (best : Option (Merge Binary64 n)) : Prop := ∀ m ∈ best, m.average = infinite true

/-- What is at minus infinity takes the place of nothing that was found. -/
theorem better_of_lowest (b : Merge Binary64 n) (lowest : m.average = infinite true) :
    better (some b) m = some b := by
  rw [better, lowest, betters_lowest, if_neg Bool.false_ne_true]

theorem better_of_above {best : Option (Merge Binary64 n)} (nothing : Lowest best)
    (above : m.average ≠ infinite true) : better best m = some m := by
  cases best with
  | none => rfl
  | some b => rw [better, nothing b rfl, lowest_betters above, if_pos rfl]

theorem Lowest.better {best : Option (Merge Binary64 n)} (nothing : Lowest best)
    (lowest : m.average = infinite true) : Lowest (better best m) := by
  obtain ⟨b, found, rfl | rfl⟩ := better_mem best m
  · rw [found]
    rintro _ ⟨⟩
    exact lowest
  · rw [found]
    exact nothing

/-- Places at minus infinity can be left out of a search: it finds the same, or nothing above them. -/
theorem foldl_better_filter {keep : Merge Binary64 n → Bool} {ms : List (Merge Binary64 n)}
    (dropped : ∀ m ∈ ms, keep m = false → m.average = infinite true)
    {a b : Option (Merge Binary64 n)} (agree : a = b ∨ Lowest a ∧ Lowest b) :
    ms.foldl better a = (ms.filter keep).foldl better b ∨
      Lowest (ms.foldl better a) ∧ Lowest ((ms.filter keep).foldl better b) := by
  induction ms generalizing a b with
  | nil => exact agree
  | cons m rest ih =>
      have ih {a b} := @ih (fun x hx => dropped x (List.mem_cons_of_mem m hx)) a b
      rw [List.foldl_cons]
      cases kept : keep m with
      | true =>
          rw [List.filter_cons_of_pos kept, List.foldl_cons]
          apply ih
          rcases agree with rfl | ⟨nothingA, nothingB⟩
          · exact .inl rfl
          · by_cases lowest : m.average = infinite true
            · exact .inr ⟨nothingA.better lowest, nothingB.better lowest⟩
            · rw [better_of_above nothingA lowest, better_of_above nothingB lowest]
              exact .inl rfl
      | false =>
          have lowest := dropped m List.mem_cons_self kept
          rw [List.filter_cons_of_neg (by simp [kept])]
          apply ih
          rcases agree with rfl | ⟨nothingA, nothingB⟩
          · cases a with
            | none => exact .inr ⟨Lowest.better (by rintro _ ⟨⟩) lowest, by rintro _ ⟨⟩⟩
            | some x => exact .inl (better_of_lowest x lowest)
          · exact .inr ⟨nothingA.better lowest, nothingB⟩

/-- What is not open is at minus infinity. -/
theorem average_of_not_isOpen (entry : m ∈ c.masked.entries) (closed : c.isOpen m = false) :
    m.average = infinite true := by
  rw [average_of_mem_entries entry, masked, Grid.get_ofFn, if_neg (of_decide_eq_false closed)]

theorem carriedOut_of_lowest {best : Option (Merge Binary64 n)} (nothing : Lowest best) :
    carriedOut threshold c best = none := by
  cases best with
  | none => rfl
  | some m =>
      rw [carriedOut, nothing m rfl, ends_lowest, if_pos rfl]

theorem step?_eq_carriedOut : c.step? threshold = carriedOut threshold c c.best? := by
  rw [step?]
  cases c.best? <;> rfl

/-- **A turn over the whole table is a step among the live pairs.** -/
theorem sweep?_eq_step? (sorted : c.live.Pairwise (· < ·)) :
    c.sweep? threshold = c.step? threshold := by
  rw [sweep?, step?_eq_carriedOut, best?_eq, candidates_eq_filter sorted, greatest?]
  have dropped : ∀ m ∈ c.masked.entries, c.isOpen m = false → m.average = infinite true :=
    fun m entry => average_of_not_isOpen entry
  rcases foldl_better_filter dropped (.inl rfl) with same | ⟨nothing, nothing'⟩
  · rw [same]
  · rw [carriedOut_of_lowest nothing, carriedOut_of_lowest nothing']

/-- The loop makes a run and stops where no further step can be made. -/
theorem run_sweep (threshold : Binary64) (sound : c.Sound) :
    Run threshold c (c.sweep threshold) ∧ (c.sweep threshold).step? threshold = none := by
  induction h : c.live.length using Nat.strong_induction_on generalizing c with
  | _ count ih =>
      rw [sweep]
      split
      next stops =>
        rw [sweep?_eq_step? sound.sorted] at stops
        exact ⟨.refl, stops⟩
      next c' turn =>
        have shorter := length_live_of_sweep? turn
        rw [sweep?_eq_step? sound.sorted] at turn
        obtain ⟨reached, ended⟩ := ih _ (h ▸ shorter) (sound.step turn) rfl
        exact ⟨.head turn reached, ended⟩

/-! ## How many merges there are -/

section Count

variable {α : Type} [Averaging α] {sim : Grid α n} {threshold : α} {c : Clusters α n}

/-- Every merge leaves one cluster fewer. -/
theorem length_merges_add (reached : Run threshold (singletons sim) c) :
    c.merges.length + c.live.length = n := by
  induction reached with
  | refl => simp [singletons]
  | tail _ next ih =>
      have fewer := length_live_of_step next
      obtain ⟨m, -, -, rfl⟩ := step_iff.1 next
      rw [merge, List.length_cons]
      rw [merge] at fewer
      omega

/-- There are fewer merges than items, because some cluster is left. -/
theorem length_performed_le (sim : Grid α n) (threshold : α) :
    (performed sim threshold).length ≤ n - 1 := by
  have total := length_merges_add (run_agglomerate sim threshold)
  have all := (sound_agglomerate sim threshold).placed.length_eq
  rw [List.length_finRange] at all
  rw [performed, List.length_reverse]
  cases live : (agglomerate sim threshold).live with
  | nil =>
      rw [live, List.flatMap_nil, List.length_nil] at all
      omega
  | cons i rest =>
      rw [live, List.length_cons] at total
      omega

end Count

end Clusters

/-- A division of the items into groups, each beginning with its earliest item, in the order of these. -/
structure Division {n : ℕ} (groups : List (List (Fin n))) : Prop where
  nonempty : ∀ g ∈ groups, g ≠ []
  once : ∀ i, groups.flatten.count i = 1
  earliest : ∀ g ∈ groups, ∀ i ∈ g.head?, ∀ k ∈ g, i ≤ k
  ordered : groups.Pairwise fun g h => ∀ i ∈ g.head?, ∀ k ∈ h.head?, i < k

theorem Clusters.Sound.division {α : Type} [Averaging α] {n : ℕ} {c : Clusters α n} (h : c.Sound) :
    Division c.groups where
  nonempty _ member := h.ne_nil member
  once i := List.count_eq_one_of_mem h.nodup_flatten (h.groups_perm.mem_iff.2 (List.mem_finRange i))
  earliest g member i hi k hk := by
    obtain ⟨first, rest, rfl, after⟩ := h.exists_cons member
    obtain rfl := Option.some.inj hi
    rcases List.mem_cons.1 hk with rfl | later
    · exact le_rfl
    · exact (after k later).le
  ordered := h.pairwise_groups

/-- **The loop over the table ends in a division of the items, after fewer merges than there are of them.**
This holds of any table of doubles and any threshold, infinite and undefined ones among them. -/
theorem sweep_ends {n : ℕ} (sim : Grid Binary64 n) (threshold : Binary64) :
    (Clusters.singletons sim).sweep threshold = agglomerate sim threshold ∧
      (agglomerate sim threshold).sweep? threshold = none ∧
      (Clusters.performed sim threshold).length ≤ n - 1 ∧
      Division (agglomerate sim threshold).groups := by
  have sound := Clusters.sound_agglomerate sim threshold
  have ended := Clusters.step?_agglomerate sim threshold
  obtain ⟨reached, stopped⟩ := Clusters.run_sweep threshold (Clusters.sound_singletons sim)
  refine ⟨?_, ?_, Clusters.length_performed_le sim threshold, sound.division⟩
  · exact Clusters.eq_of_ended reached (Clusters.run_agglomerate sim threshold) stopped ended
  · rw [Clusters.sweep?_eq_step? sound.sorted]
    exact ended

/-- An undefined similarity is taken for the greatest and ends merging at once, whatever else is alike. -/
example :
    let sim : Grid Binary64 3 := .ofFn fun i k => if i.val + k.val = 1 then nan else finite 1
    (agglomerate sim (finite 0)).groups = [[0], [1], [2]] := by decide +kernel

end Deliberation
