/-
# Proofs.Clustering.Incidence -- products of rows count common words

Marking gives every word one column and puts a one exactly where a row holds the word of a column
(`Records`, `records_of`).  So a row is the list of columns with the words of its list turned into ones
(`row_of`).  In scalars that count exactly (`CountsUpTo`) the sum of a row is the number of words in its
list (`total_row`), and the product of two rows is the number of words in both (`product_row`), whatever
columns the words were given and however often a list repeats them.  Both together make the share of the
common words in all words of two lists (`share_rows`).

Whole numbers count exactly without end (`countsUpTo_nat`), doubles as far as they hold every whole number
(`countsUpTo_binary64`).
-/
import Deliberation.Clustering.Incidence
import Deliberation.Proofs.Number.Scores
import Mathlib.Data.Finset.Card
import Mathlib.Data.List.Dedup

set_option autoImplicit false

namespace Deliberation

namespace Incidence

variable {c : Incidence} {marked : List (ℕ × String)} {sets : List (List String)}

/-! ## Columns and ones -/

/-- Every marked word has one column, and a row has its ones at the columns of its words. -/
structure Records (c : Incidence) (marked : List (ℕ × String)) : Prop where
  nodup : c.columns.Nodup
  mem_columns : ∀ w, w ∈ c.columns ↔ ∃ r, (r, w) ∈ marked
  mem_ones : ∀ r k, (r, k) ∈ c.ones ↔ ∃ w, (r, w) ∈ marked ∧ c.columns.idxOf w = k

theorem records_nil : Records ⟨[], []⟩ [] where
  nodup := List.nodup_nil
  mem_columns w := by simp
  mem_ones r k := by simp

theorem mem_columns_mark (m : ℕ × String) (w : String) :
    w ∈ (c.mark m).columns ↔ w ∈ c.columns ∨ w = m.2 := by
  simp only [mark, List.contains_iff_mem]
  split_ifs with known
  · exact ⟨.inl, Or.rec id fun same => same ▸ known⟩
  · simp

/-- A column that was given out stays, and a new word has the one that it is marked at. -/
theorem idxOf_columns_mark {m : ℕ × String} {w : String} (known : w ∈ c.columns ∨ w = m.2) :
    (c.mark m).columns.idxOf w = c.columns.idxOf w := by
  simp only [mark, List.contains_iff_mem]
  split_ifs with old
  · rfl
  · rcases known with before | rfl
    · exact List.idxOf_append_of_mem before
    · rw [List.idxOf_append_of_notMem old, List.idxOf_of_notMem old]
      simp

/-- One more mark. -/
theorem Records.mark (h : Records c marked) (m : ℕ × String) :
    Records (c.mark m) (marked ++ [m]) where
  nodup := by
    simp only [Incidence.mark, List.contains_iff_mem]
    split_ifs with known
    · exact h.nodup
    · exact List.nodup_append.2 ⟨h.nodup, List.nodup_singleton _, fun w old w' new same =>
        known (List.mem_singleton.1 new ▸ same ▸ old)⟩
  mem_columns w := by
    rw [mem_columns_mark, h.mem_columns]
    constructor
    · rintro (⟨r, old⟩ | rfl)
      · exact ⟨r, List.mem_append_left _ old⟩
      · exact ⟨m.1, by simp⟩
    · rintro ⟨r, member⟩
      rcases List.mem_append.1 member with old | new
      · exact .inl ⟨r, old⟩
      · exact .inr (congrArg Prod.snd (List.mem_singleton.1 new))
  mem_ones r k := by
    have grown : (r, k) ∈ (c.mark m).ones ↔
        (r = m.1 ∧ k = c.columns.idxOf m.2) ∨ (r, k) ∈ c.ones := by
      simp [Incidence.mark]
    rw [grown, h.mem_ones]
    constructor
    · rintro (⟨rfl, rfl⟩ | ⟨w, old, column⟩)
      · exact ⟨m.2, by simp, idxOf_columns_mark (.inr rfl)⟩
      · refine ⟨w, List.mem_append_left _ old, ?_⟩
        rw [idxOf_columns_mark (.inl ((h.mem_columns w).2 ⟨r, old⟩)), column]
    · rintro ⟨w, member, column⟩
      rcases List.mem_append.1 member with old | new
      · rw [idxOf_columns_mark (.inl ((h.mem_columns w).2 ⟨r, old⟩))] at column
        exact .inr ⟨w, old, column⟩
      · obtain rfl : m = (r, w) := (List.mem_singleton.1 new).symm
        rw [idxOf_columns_mark (m := (r, w)) (.inr rfl)] at column
        exact .inl ⟨rfl, column.symm⟩

/-- **Marking word by word records all marks.** -/
theorem records_of (sets : List (List String)) : Records (of sets) (marks sets) := by
  have started (later : List (ℕ × String)) (c : Incidence) (marked : List (ℕ × String))
      (h : Records c marked) : Records (later.foldl Incidence.mark c) (marked ++ later) := by
    induction later generalizing c marked with
    | nil => simpa using h
    | cons m rest ih => simpa using ih (c.mark m) (marked ++ [m]) (h.mark m)
  exact started (marks sets) ⟨[], []⟩ [] records_nil

theorem mem_marks {r : ℕ} {w : String} :
    (r, w) ∈ marks sets ↔ ∃ words, sets[r]? = some words ∧ w ∈ words := by
  simp only [marks, List.mem_flatMap, List.mem_map, mem_distinct, Prod.mk.injEq, Prod.exists]
  constructor
  · rintro ⟨words, row, member, word, held, rfl, rfl⟩
    exact ⟨words, List.mem_zipIdx_iff_getElem?.1 member, held⟩
  · rintro ⟨words, found, held⟩
    exact ⟨words, r, List.mem_zipIdx_iff_getElem?.2 found, w, held, rfl, rfl⟩

/-- The columns are those of all words, one for each. -/
theorem length_columns (sets : List (List String)) :
    (of sets).columns.length = (distinct sets.flatten).length := by
  have records := records_of sets
  apply List.Perm.length_eq
  rw [List.perm_ext_iff_of_nodup records.nodup (nodup_distinct _)]
  intro w
  rw [records.mem_columns, mem_distinct, List.mem_flatten]
  constructor
  · rintro ⟨r, marked⟩
    obtain ⟨words, found, held⟩ := mem_marks.1 marked
    exact ⟨words, List.mem_of_getElem? found, held⟩
  · rintro ⟨words, member, held⟩
    obtain ⟨r, found⟩ := List.getElem?_of_mem member
    exact ⟨r, mem_marks.2 ⟨words, found, held⟩⟩

/-! ## Rows -/

section Rows

variable {α : Type} [Counting α]

/-- What a row holds at a place: a one where one was set, else what it held before. -/
theorem getElem?_setOnes (places : List (ℕ × ℕ)) (cells : List α) (r k : ℕ) :
    (places.foldl (fun cells (place : ℕ × ℕ) =>
      if place.1 = r then cells.set place.2 Counting.one else cells) cells)[k]? =
      if (r, k) ∈ places ∧ k < cells.length then some Counting.one else cells[k]? := by
  induction places generalizing cells with
  | nil => simp
  | cons place rest ih =>
      obtain ⟨row, column⟩ := place
      rw [List.foldl_cons, ih]
      by_cases same : row = r
      · subst same
        by_cases here : column = k
        · subst here
          by_cases inside : column < cells.length <;> simp [inside]
        · simp [here, Ne.symm here]
      · simp [same, Ne.symm same]

/-- One for the words of a set, zero for all others. -/
def indicator (α : Type) [Counting α] (s : Finset String) (w : String) : α :=
  if w ∈ s then Counting.one else Counting.zero

/-- **A row turns the words of its list into ones**, column by column. -/
theorem row_of {r : ℕ} {words : List String} (found : sets[r]? = some words) :
    (of sets).row α r = (of sets).columns.map (indicator α words.toFinset) := by
  have records := records_of sets
  apply List.ext_getElem?
  intro k
  rw [row, getElem?_setOnes, List.getElem?_map, List.length_replicate]
  rcases Nat.lt_or_ge k (of sets).columns.length with inside | outside
  · have held : (r, k) ∈ (of sets).ones ↔ (of sets).columns[k] ∈ words := by
      rw [records.mem_ones]
      constructor
      · rintro ⟨w, marked, column⟩
        obtain ⟨words', found', member⟩ := mem_marks.1 marked
        obtain rfl := Option.some.inj (found.symm.trans found')
        subst column
        rwa [List.getElem_idxOf]
      · intro member
        exact ⟨_, mem_marks.2 ⟨words, found, member⟩, records.nodup.idxOf_getElem k inside⟩
    rw [List.getElem?_replicate, if_pos inside, List.getElem?_eq_getElem inside, Option.map_some,
      indicator]
    simp only [held, inside, and_true, List.mem_toFinset]
    split_ifs <;> rfl
  · rw [List.getElem?_eq_none outside, if_neg (by omega), List.getElem?_replicate, if_neg (by omega)]
    rfl

end Rows

end Incidence

/-! ## Counting -/

/-- Scalars in which the whole numbers up to a bound are counted as they are. -/
structure CountsUpTo (α : Type) [Counting α] (embed : ℕ → α) (bound : ℕ) : Prop where
  zero : Counting.zero = embed 0
  one : Counting.one = embed 1
  add : ∀ {m n : ℕ}, m + n ≤ bound → Counting.add (embed m) (embed n) = embed (m + n)
  sub : ∀ {m n : ℕ}, n ≤ m → m ≤ bound → Counting.sub (embed m) (embed n) = embed (m - n)
  mul : ∀ {m n : ℕ}, m ≤ 1 → n ≤ 1 → Counting.mul (embed m) (embed n) = embed (m * n)
  share : ∀ {m n : ℕ}, m ≤ bound → n ≤ bound →
    Counting.share (embed m) (embed n) = if 0 < n then .ofQuotient m n else .finite 0

/-- Whole numbers count as they are, without end. -/
theorem countsUpTo_nat (bound : ℕ) : CountsUpTo ℕ id bound where
  zero := rfl
  one := rfl
  add _ := rfl
  sub _ _ := rfl
  mul _ _ := rfl
  share _ _ := rfl

open Binary64 in
/-- Doubles count as they should, as far as they hold every whole number. -/
theorem countsUpTo_binary64 : CountsUpTo Binary64 (fun n => finite n) (2 ^ 53) where
  zero := by simp [Counting.zero]
  one := by simp [Counting.one]
  add {m n} few := by
    have sum := ofRat_int (k := (m + n : ℕ)) (by rw [Nat.abs_cast]; exact_mod_cast few)
    calc finite m + finite n = ofRat (((m + n : ℕ) : ℤ) : ℚ) := by
          rw [finite_add_finite]
          push_cast
          rfl
      _ = finite ((m + n : ℕ) : ℚ) := by rw [sum, Int.cast_natCast]
  sub {m n} le few := by
    have difference := ofRat_int (k := (m - n : ℕ)) (by
      rw [Nat.abs_cast]
      exact_mod_cast (Nat.sub_le m n).trans few)
    calc finite m - finite n = ofRat (((m - n : ℕ) : ℤ) : ℚ) := by
          rw [finite_sub_finite]
          push_cast [Nat.cast_sub le]
          rfl
      _ = finite ((m - n : ℕ) : ℚ) := by rw [difference, Int.cast_natCast]
  mul {m n} hm hn := by
    have small : m * n ≤ 1 := Nat.mul_le_mul hm hn
    have product := ofRat_int (k := (m * n : ℕ)) (by
      rw [Nat.abs_cast]
      exact_mod_cast small.trans (by norm_num))
    calc finite m * finite n = ofRat (((m * n : ℕ) : ℤ) : ℚ) := by
          rw [finite_mul_finite (Nat.cast_nonneg m) (Nat.cast_nonneg n)]
          push_cast
          rfl
      _ = finite ((m * n : ℕ) : ℚ) := by rw [product, Int.cast_natCast]
  share {m n} _ _ := by
    have positive : finite 0 < finite (n : ℚ) ↔ 0 < n :=
      finite_lt_finite_iff.trans Nat.cast_pos
    change (if finite 0 < finite (n : ℚ) then finite m / finite n else finite 0) = _
    simp only [positive]
    split_ifs with some
    · rw [finite_div_finite (Nat.cast_nonneg m) (Nat.cast_pos.2 some), ofQuotient,
        Rat.mkRat_eq_div]
      rfl
    · rfl

namespace Incidence

variable {α : Type} [Counting α] {embed : ℕ → α} {bound : ℕ} {sets : List (List String)}

theorem indicator_eq (h : CountsUpTo α embed bound) (s : Finset String) (w : String) :
    indicator α s w = embed (if w ∈ s then 1 else 0) := by
  unfold indicator
  split_ifs
  · exact h.one
  · exact h.zero

/-- Ones add up to their number. -/
theorem total_indicator (h : CountsUpTo α embed bound) (s : Finset String) {words : List String}
    (few : words.length ≤ bound) :
    total (words.map (indicator α s)) = embed (words.countP (· ∈ s)) := by
  have started (words : List String) (n : ℕ) (few : n + words.length ≤ bound) :
      (words.map (indicator α s)).foldl Counting.add (embed n) = embed (n + words.countP (· ∈ s)) := by
    induction words generalizing n with
    | nil => rfl
    | cons w rest ih =>
        rw [List.length_cons] at few
        rw [List.map_cons, List.foldl_cons, indicator_eq h, h.add (by split_ifs <;> omega),
          ih _ (by split_ifs <;> omega), List.countP_cons]
        congr 1
        simp only [decide_eq_true_eq]
        omega
  rw [total, h.zero, started words 0 (by omega), Nat.zero_add]

theorem mul_indicator (h : CountsUpTo α embed bound) (s t : Finset String) (w : String) :
    Counting.mul (indicator α s w) (indicator α t w) = indicator α (s ∩ t) w := by
  simp only [indicator_eq h, Finset.mem_inter]
  rw [h.mul (by split_ifs <;> omega) (by split_ifs <;> omega)]
  congr 1
  split_ifs <;> simp_all

/-- Among the columns, the words of a set are all there, each once. -/
theorem countP_columns {s : Finset String} (known : ∀ w ∈ s, w ∈ (of sets).columns) :
    (of sets).columns.countP (· ∈ s) = s.card := by
  have nodup := (records_of sets).nodup.filter fun w => decide (w ∈ s)
  rw [List.countP_eq_length_filter, ← List.toFinset_card_of_nodup nodup]
  congr 1
  ext w
  simpa using known w

variable {r r' : ℕ} {words words' : List String}

theorem known_of_found (found : sets[r]? = some words) :
    ∀ w ∈ words.toFinset, w ∈ (of sets).columns := fun w member =>
  ((records_of sets).mem_columns w).2 ⟨r, mem_marks.2 ⟨words, found, List.mem_toFinset.1 member⟩⟩

/-- **The sum of a row is the number of words in its list.** -/
theorem total_row (h : CountsUpTo α embed bound) (few : (of sets).columns.length ≤ bound)
    (found : sets[r]? = some words) :
    total ((of sets).row α r) = embed words.toFinset.card := by
  rw [row_of found, total_indicator h _ few, countP_columns (known_of_found found)]

/-- **The product of two rows is the number of words in both lists.** -/
theorem product_row (h : CountsUpTo α embed bound) (few : (of sets).columns.length ≤ bound)
    (found : sets[r]? = some words) (found' : sets[r']? = some words') :
    product ((of sets).row α r) ((of sets).row α r') =
      embed (words.toFinset ∩ words'.toFinset).card := by
  have both : List.zipWith Counting.mul ((of sets).row α r) ((of sets).row α r') =
      (of sets).columns.map (indicator α (words.toFinset ∩ words'.toFinset)) := by
    rw [row_of found, row_of found', List.zipWith_map, List.zipWith_self]
    exact List.map_congr_left fun w _ => mul_indicator h _ _ w
  rw [product, both, total_indicator h _ few, countP_columns]
  intro w member
  exact known_of_found found w (Finset.mem_inter.1 member).1

/-- **What two rows have in common over what either has**, a column being counted twice at most. -/
theorem share_rows (h : CountsUpTo α embed bound) (few : 2 * (of sets).columns.length ≤ bound)
    (found : sets[r]? = some words) (found' : sets[r']? = some words') :
    let common := product ((of sets).row α r) ((of sets).row α r')
    Counting.share common (Counting.sub
        (Counting.add (total ((of sets).row α r)) (total ((of sets).row α r'))) common) =
      Binary64.ofRat
        ((words.toFinset ∩ words'.toFinset).card / (words.toFinset ∪ words'.toFinset).card) := by
  have columns : (of sets).columns.length ≤ bound := by omega
  have counted {r : ℕ} {words : List String} (found : sets[r]? = some words) :
      words.toFinset.card ≤ (of sets).columns.length := by
    rw [← countP_columns (known_of_found found)]
    exact List.countP_le_length
  have left := counted found
  have right := counted found'
  have both : (words.toFinset ∩ words'.toFinset).card ≤ words.toFinset.card :=
    Finset.card_le_card Finset.inter_subset_left
  have either := Finset.card_union words.toFinset words'.toFinset
  dsimp only
  rw [total_row h columns found, total_row h columns found', product_row h columns found found',
    h.add (by omega), h.sub (by omega) (by omega), ← either, h.share (by omega) (by omega)]
  split_ifs with some
  · rw [Binary64.ofQuotient, Rat.mkRat_eq_div]
    rfl
  · rw [Nat.eq_zero_of_not_pos some]
    simp

end Incidence

end Deliberation
