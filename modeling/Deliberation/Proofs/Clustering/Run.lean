/-
# Proofs.Clustering.Run -- merging as steps, and what each step keeps

`Step` is one merge under a threshold and `Run` any number of them; `agglomerate` is the one end of
the run that starts from single items (`run_agglomerate`, `step?_agglomerate`, `Run.eq_of_ended`).
Proofs about it are proofs about one step.

`Sound` says that the live clusters divide the items among themselves: they are in order, each begins
with the item it goes by, which is its earliest one, and every item is in exactly one of them.  A merge
of two live clusters keeps this (`Sound.merge`), whatever the scalars are.
-/
import Deliberation.Proofs.Clustering.Pairs
import Mathlib.Data.Fintype.Card
import Mathlib.Data.List.FinRange
import Mathlib.Data.List.Infix
import Mathlib.Data.List.Pairwise
import Mathlib.Logic.Relation

set_option autoImplicit false
set_option linter.unusedSectionVars false

namespace Deliberation

theorem vector_get_eq {β : Type} {n : ℕ} (v : Vector β n) (i : Fin n) :
    v.get i = getElem v i.val i.isLt := rfl

/-- Where nothing occurs twice, lists that share an item are the same one. -/
theorem eq_of_mem_flatMap {β γ : Type} {f : β → List γ} {l : List β} (nodup : (l.flatMap f).Nodup)
    {a b : β} (ha : a ∈ l) (hb : b ∈ l) {x : γ} (inA : x ∈ f a) (inB : x ∈ f b) : a = b := by
  have apart := (List.nodup_flatMap.1 nodup).2
  have : Std.Symm (Function.onFun List.Disjoint f) := ⟨fun _ _ d => d.symm⟩
  by_contra different
  exact apart.forall ha hb different inA inB

namespace Clusters

variable {α : Type} [Averaging α] {n : ℕ} {threshold : α} {c c' : Clusters α n} {m : Merge α n}

/-! ## Steps -/

/-- The merges that are open: one of every two live clusters, in the order of rows. -/
def candidates (c : Clusters α n) : List (Merge α n) :=
  (orderedPairs c.live).map fun p => ⟨p.1, p.2, c.averages p.1 p.2⟩

theorem best?_eq (c : Clusters α n) : c.best? = c.candidates.foldl better none := by
  rw [best?, candidates, List.foldl_map]

theorem better_mem (best : Option (Merge α n)) (x : Merge α n) :
    ∃ m, better best x = some m ∧ (m = x ∨ best = some m) := by
  cases best with
  | none => exact ⟨x, rfl, .inl rfl⟩
  | some b =>
      rw [better]
      split
      · exact ⟨x, rfl, .inl rfl⟩
      · exact ⟨b, rfl, .inr rfl⟩

theorem mem_of_foldl_better {best : Option (Merge α n)} {ms : List (Merge α n)}
    (h : ms.foldl better best = some m) : m ∈ ms ∨ best = some m := by
  induction ms generalizing best with
  | nil => exact .inr h
  | cons x rest ih =>
      obtain ⟨b, hb, origin⟩ := better_mem best x
      rw [List.foldl_cons, hb] at h
      rcases ih h with later | now
      · exact .inl (List.mem_cons_of_mem x later)
      · obtain rfl := Option.some.inj now
        rcases origin with rfl | origin
        · exact .inl List.mem_cons_self
        · exact .inr origin

theorem mem_candidates_of_best? (h : c.best? = some m) : m ∈ c.candidates := by
  rw [best?_eq] at h
  exact (mem_of_foldl_better h).resolve_right (by simp)

/-- The search comes to nothing only where nothing is open. -/
theorem candidates_eq_nil (h : c.best? = none) : c.candidates = [] := by
  have kept (ms : List (Merge α n)) (b : Merge α n) : ms.foldl better (some b) ≠ none := by
    induction ms generalizing b with
    | nil => simp
    | cons x rest ih =>
        obtain ⟨b', hb', -⟩ := better_mem (some b) x
        rw [List.foldl_cons, hb']
        exact ih b'
  rw [best?_eq] at h
  cases open_ : c.candidates with
  | nil => rfl
  | cons b rest =>
      rw [open_] at h
      exact absurd h (kept rest b)

theorem mem_candidates_iff :
    m ∈ c.candidates ↔
      (m.survivor, m.absorbed) ∈ orderedPairs c.live ∧
        m.average = c.averages m.survivor m.absorbed := by
  rw [candidates, List.mem_map]
  constructor
  · rintro ⟨p, hp, rfl⟩; exact ⟨hp, rfl⟩
  · rintro ⟨hp, average⟩; exact ⟨_, hp, by rw [← average]⟩

theorem live_of_mem_candidates (candidate : m ∈ c.candidates) :
    m.survivor ∈ c.live ∧ m.absorbed ∈ c.live :=
  mem_of_mem_orderedPairs (mem_candidates_iff.1 candidate).1

/-- One merge that the threshold does not end. -/
def Step (threshold : α) (c c' : Clusters α n) : Prop := c.step? threshold = some c'

/-- Any number of merges. -/
abbrev Run (threshold : α) : Clusters α n → Clusters α n → Prop :=
  Relation.ReflTransGen (Step threshold)

/-- All that one step does. -/
theorem step_iff :
    Step threshold c c' ↔
      ∃ m, c.best? = some m ∧ Averaging.ends m.average threshold = false ∧ c' = c.merge m := by
  unfold Step step?
  cases c.best? with
  | none => simp
  | some m =>
      constructor
      · intro h
        cases ends : Averaging.ends m.average threshold with
        | true => simp [ends] at h
        | false => exact ⟨m, rfl, ends, by simpa only [ends, Bool.false_eq_true, if_false,
            Option.some.injEq, eq_comm] using h⟩
      · rintro ⟨m', found, ends, rfl⟩
        obtain rfl := Option.some.inj found
        simp [ends]

/-- Merging has ended where no two clusters are left or the best average ends it. -/
theorem step?_eq_none_iff :
    c.step? threshold = none ↔
      ∀ m, c.best? = some m → Averaging.ends m.average threshold = true := by
  unfold step?
  cases c.best? with
  | none => simp
  | some m => cases ends : Averaging.ends m.average threshold <;> simp [ends]

theorem length_live_of_step (h : Step threshold c c') : c'.live.length + 1 = c.live.length := by
  obtain ⟨m, best, -, rfl⟩ := step_iff.1 h
  have live : m.absorbed ∈ c.live := (live_of_mem_candidates (mem_candidates_of_best? best)).2
  have positive := List.length_pos_of_mem live
  rw [merge, List.length_erase_of_mem live]
  omega

theorem run_mergeUpTo (fuel : ℕ) (c : Clusters α n) :
    Run threshold c (c.mergeUpTo threshold fuel) := by
  induction fuel generalizing c with
  | zero => exact .refl
  | succ fuel ih =>
      rw [mergeUpTo]
      cases h : c.step? threshold with
      | none => exact .refl
      | some c' => exact .head h (ih c')

/-- With as many merges as live clusters, merging comes to its end. -/
theorem step?_mergeUpTo {fuel : ℕ} {c : Clusters α n} (enough : c.live.length ≤ fuel) :
    (c.mergeUpTo threshold fuel).step? threshold = none := by
  induction fuel generalizing c with
  | zero =>
      have empty : c.live = [] := List.eq_nil_of_length_eq_zero (by omega)
      rw [mergeUpTo, step?, best?, empty]
      rfl
  | succ fuel ih =>
      rw [mergeUpTo]
      cases h : c.step? threshold with
      | none => exact h
      | some c' =>
          have := length_live_of_step (show Step threshold c c' from h)
          exact ih (by omega)

theorem run_agglomerate (sim : Grid α n) (threshold : α) :
    Run threshold (singletons sim) (agglomerate sim threshold) :=
  run_mergeUpTo n _

theorem step?_agglomerate (sim : Grid α n) (threshold : α) :
    (agglomerate sim threshold).step? threshold = none :=
  step?_mergeUpTo (by simp [singletons])

/-- Two runs from one start: the one that has ended goes on from the other. -/
theorem run_of_ended {a b : Clusters α n} (ha : Run threshold c a) (hb : Run threshold c b)
    (ended : b.step? threshold = none) : Run threshold a b := by
  have rightUnique : Relator.RightUnique (Step (n := n) threshold) := by
    intro x y z hy hz
    exact Option.some.inj (hy.symm.trans hz)
  rcases Relation.ReflTransGen.total_of_right_unique rightUnique ha hb with h | h
  · exact h
  · rcases h.cases_head with rfl | ⟨d, first, -⟩
    · exact .refl
    · exact absurd (first.symm.trans ended) (by simp)

theorem eq_of_ended {a b : Clusters α n} (ha : Run threshold c a) (hb : Run threshold c b)
    (endedA : a.step? threshold = none) (endedB : b.step? threshold = none) : a = b := by
  rcases (run_of_ended ha hb endedB).cases_head with rfl | ⟨d, first, -⟩
  · rfl
  · exact absurd (first.symm.trans endedA) (by simp)

/-! ## What a merge does -/

/-- The members after a merge: the survivor's are those of both, the absorbed one's are none. -/
theorem members_merge (k : Fin n) :
    (c.merge m).members.get k =
      if k = m.absorbed then []
      else if k = m.survivor then c.members.get m.survivor ++ c.members.get m.absorbed
      else c.members.get k := by
  simp only [merge, vector_get_eq, Vector.getElem_set, ← Fin.ext_iff]
  simp only [eq_comm]

theorem sums_merge (r k : Fin n) :
    (c.merge m).sums r k = mergedSums c.sums m.survivor m.absorbed r k := rfl

theorem averages_merge (r k : Fin n) :
    (c.merge m).averages r k =
      if r = m.survivor then
        Averaging.mean ((c.merge m).sums m.survivor k)
          (((c.merge m).members.get m.survivor).length * ((c.merge m).members.get k).length)
      else if k = m.survivor then
        Averaging.mean ((c.merge m).sums m.survivor r)
          (((c.merge m).members.get m.survivor).length * ((c.merge m).members.get r).length)
      else c.averages r k := by
  simp [merge, vector_get_eq]

/-! ## The items are divided among the clusters -/

/-- The live clusters stand in order, each begins with its own item, which is its earliest one, and
together they hold every item once. -/
structure Sound (c : Clusters α n) : Prop where
  sorted : c.live.Pairwise (· < ·)
  first : ∀ i ∈ c.live, ∃ rest, c.members.get i = i :: rest ∧ ∀ k ∈ rest, i < k
  placed : (c.live.flatMap c.members.get).Perm (List.finRange n)

theorem members_singletons (sim : Grid α n) (i : Fin n) :
    (singletons sim).members.get i = [i] := by
  simp [singletons, vector_get_eq]

theorem sound_singletons (sim : Grid α n) : (singletons sim).Sound where
  sorted := List.pairwise_lt_finRange n
  first i _ := ⟨[], members_singletons sim i, by simp⟩
  placed := by
    have alone : (singletons sim).members.get = fun i => [i] := funext (members_singletons sim)
    rw [alone, ← List.map_eq_flatMap, List.map_id']
    exact .refl _

namespace Sound

theorem survivor_lt_absorbed (h : c.Sound) (open_ : m ∈ c.candidates) : m.survivor < m.absorbed :=
  rel_of_mem_orderedPairs h.sorted (mem_candidates_iff.1 open_).1

theorem members_pos (h : c.Sound) {i : Fin n} (live : i ∈ c.live) :
    0 < (c.members.get i).length := by
  obtain ⟨rest, hi, -⟩ := h.first i live
  simp [hi]

theorem nodup_live (h : c.Sound) : c.live.Nodup := h.sorted.imp ne_of_lt

/-- The clusters that a merge leaves alone have the members they had. -/
theorem members_merge_of_mem (h : c.Sound) {k : Fin n}
    (other : k ∈ (c.live.erase m.absorbed).erase m.survivor) :
    (c.merge m).members.get k = c.members.get k := by
  have nodup := h.nodup_live.erase m.absorbed
  obtain ⟨notSurvivor, other⟩ := (List.Nodup.mem_erase_iff nodup).1 other
  obtain ⟨notAbsorbed, -⟩ := (List.Nodup.mem_erase_iff h.nodup_live).1 other
  rw [members_merge, if_neg notAbsorbed, if_neg notSurvivor]

/-- **A merge keeps the division of the items.** -/
theorem merge (h : c.Sound) (candidate : m ∈ c.candidates) : (c.merge m).Sound := by
  obtain ⟨survivorLive, absorbedLive⟩ := live_of_mem_candidates candidate
  have less := h.survivor_lt_absorbed candidate
  have survivorLeft : m.survivor ∈ c.live.erase m.absorbed :=
    (List.mem_erase_of_ne less.ne).2 survivorLive
  refine ⟨h.sorted.sublist List.erase_sublist, ?_, ?_⟩
  · intro i live
    obtain ⟨notAbsorbed, live⟩ := (List.Nodup.mem_erase_iff h.nodup_live).1 live
    rw [members_merge, if_neg notAbsorbed]
    split_ifs with survivor
    · obtain ⟨rest, hi, after⟩ := h.first m.survivor survivorLive
      obtain ⟨rest', hj, after'⟩ := h.first m.absorbed absorbedLive
      refine ⟨rest ++ m.absorbed :: rest', by rw [hi, hj, survivor]; rfl, ?_⟩
      intro k hk
      rw [List.mem_append, List.mem_cons] at hk
      rcases hk with hk | rfl | hk
      · exact survivor ▸ after k hk
      · exact survivor ▸ less
      · exact survivor ▸ less.trans (after' k hk)
    · exact h.first i live
  · -- Both member lists stay, joined where the survivor stands.
    have before : (c.live.flatMap c.members.get).Perm
        (c.members.get m.absorbed ++ (c.members.get m.survivor ++
          ((c.live.erase m.absorbed).erase m.survivor).flatMap c.members.get)) :=
      ((List.perm_cons_erase absorbedLive).trans
        ((List.perm_cons_erase survivorLeft).cons m.absorbed)).flatMap_right _
    have after : ((c.merge m).live.flatMap (c.merge m).members.get).Perm
        ((c.members.get m.survivor ++ c.members.get m.absorbed) ++
          ((c.live.erase m.absorbed).erase m.survivor).flatMap c.members.get) := by
      refine ((List.perm_cons_erase survivorLeft).flatMap_right _).trans (.of_eq ?_)
      rw [List.flatMap_cons, members_merge, if_neg less.ne, if_pos rfl]
      congr 1
      exact List.flatMap_congr fun k hk => h.members_merge_of_mem hk
    refine after.trans (.trans ?_ (before.symm.trans h.placed))
    rw [← List.append_assoc]
    exact List.perm_append_comm.append_right _

theorem step (h : c.Sound) (next : Step threshold c c') : c'.Sound := by
  obtain ⟨m, best, -, rfl⟩ := step_iff.1 next
  exact h.merge (mem_candidates_of_best? best)

theorem run (h : c.Sound) (reached : Run threshold c c') : c'.Sound := by
  induction reached with
  | refl => exact h
  | tail _ next ih => exact ih.step next

end Sound

theorem sound_agglomerate (sim : Grid α n) (threshold : α) : (agglomerate sim threshold).Sound :=
  (sound_singletons sim).run (run_agglomerate sim threshold)

/-! ## The groups -/

namespace Sound

theorem groups_perm (h : c.Sound) : c.groups.flatten.Perm (List.finRange n) := by
  rw [groups, ← List.flatMap_def]
  exact h.placed

theorem nodup_flatten (h : c.Sound) : c.groups.flatten.Nodup :=
  h.groups_perm.nodup_iff.2 (List.nodup_finRange n)

theorem ne_nil (h : c.Sound) {g : List (Fin n)} (member : g ∈ c.groups) : g ≠ [] := by
  obtain ⟨i, live, rfl⟩ := List.mem_map.1 member
  exact List.ne_nil_of_length_pos (h.members_pos live)

theorem nodup_group (h : c.Sound) {g : List (Fin n)} (member : g ∈ c.groups) : g.Nodup :=
  (List.nodup_flatten.1 h.nodup_flatten).1 g member

theorem length_le (h : c.Sound) {g : List (Fin n)} (member : g ∈ c.groups) : g.length ≤ n := by
  simpa using (h.nodup_group member).length_le_card

/-- Clusters that share an item are the same one. -/
theorem eq_of_mem (h : c.Sound) {i k x : Fin n} (hi : i ∈ c.live) (hk : k ∈ c.live)
    (inI : x ∈ c.members.get i) (inK : x ∈ c.members.get k) : i = k := by
  exact eq_of_mem_flatMap (h.placed.nodup_iff.2 (List.nodup_finRange n)) hi hk inI inK

/-- Each group begins with the item that its cluster goes by. -/
theorem map_head? (h : c.Sound) : c.groups.map List.head? = c.live.map some := by
  rw [groups, List.map_map]
  apply List.map_congr_left
  intro i live
  obtain ⟨rest, hi, -⟩ := h.first i live
  simp [hi]

/-- A group begins with its earliest item. -/
theorem exists_cons (h : c.Sound) {g : List (Fin n)} (member : g ∈ c.groups) :
    ∃ i rest, g = i :: rest ∧ ∀ k ∈ rest, i < k := by
  obtain ⟨i, live, rfl⟩ := List.mem_map.1 member
  obtain ⟨rest, hi, after⟩ := h.first i live
  exact ⟨i, rest, hi, after⟩

/-- The groups stand in the order of their first items. -/
theorem pairwise_groups (h : c.Sound) :
    c.groups.Pairwise fun g g' => ∀ i ∈ g.head?, ∀ k ∈ g'.head?, i < k := by
  rw [← List.pairwise_map (f := List.head?) (R := fun a b => ∀ i ∈ a, ∀ k ∈ b, i < k),
    h.map_head?, List.pairwise_map]
  apply h.sorted.imp
  intro a b less i hi k hk
  obtain rfl := Option.some.inj hi
  obtain rfl := Option.some.inj hk
  exact less

end Sound

end Clusters

end Deliberation
