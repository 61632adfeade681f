/-
# Proofs.Pattern.Seams -- matching on either side of a separator

A separator is a character that is not part of a word and that no class of a pattern holds.  A place before
the separator reads as it does where the text ends there (`readAlike_cut`), and the place after it as the
beginning of a text (`readAlike_start`).  So no match crosses the separator, none moves and none is lost
(`spansFrom_append`, by induction on the text before the separator), and the matches of the whole are those
of the two parts (`spans_of_seam`).

A pattern that demands a character of a class without white space matches nowhere in white space
(`spans_of_blank`).
-/
import Deliberation.Proofs.Pattern.Ways
import Deliberation.Proofs.Text.Blanks
import Deliberation.Text.Basic

set_option autoImplicit false

namespace Deliberation

open Text

namespace Pattern

variable {p : Pattern} {s s' : Cursor} {sep : Char} {cs ds : List Char}

/-! ## The matches at a place -/

theorem found_of_mem_spansAt {span : List Char} (h : span ∈ p.spansAt s) :
    p.spanAt? s = some span ∨ p.nonEmptySpanAt? s = some span := by
  unfold spansAt at h
  split at h
  · exact absurd h List.not_mem_nil
  · rename_i found
    rcases List.mem_cons.1 h with rfl | second
    · exact .inl found
    · exact .inr (Option.mem_toList.1 second)
  · rename_i found
    obtain rfl := List.mem_singleton.1 h
    exact .inl found

theorem length_le_of_mem_spansAt (flat : p.flat = true) {span : List Char} (h : span ∈ p.spansAt s) :
    span.length ≤ s.rest.length := by
  have taken : ∃ k, span = s.rest.take k := by
    rcases found_of_mem_spansAt h with found | found
    · obtain ⟨t, -, -, same⟩ := exists_reads flat found
      exact ⟨_, (Option.some.inj same).symm⟩
    · obtain ⟨t, -, -, same⟩ := exists_reads flat found
      simp only [Option.ite_none_left_eq_some] at same
      exact ⟨_, (Option.some.inj same.2).symm⟩
  obtain ⟨k, rfl⟩ := taken
  exact List.length_take_le' k s.rest

/-- Where no character of the kind is ahead, a pattern that demands one does not match. -/
theorem spansAt_eq_nil {kind : CharClass → Bool} (flat : p.flat = true)
    (demands : p.demands kind = true)
    (lacking : ∀ c ∈ s.rest, ∀ cls, kind cls = true → cls.holds c = false) : p.spansAt s = [] := by
  have unmatched : p.spanAt? s = none := by
    by_contra matched
    obtain ⟨span, found⟩ := Option.ne_none_iff_exists'.1 matched
    obtain ⟨t, read, reads, -⟩ := exists_reads flat found
    obtain ⟨c, member, cls, ofKind, held⟩ := reads.demanded demands
    have ahead : c ∈ s.rest := reads.rest ▸ List.mem_append_left _ member
    rw [lacking c ahead cls ofKind] at held
    exact absurd held Bool.false_ne_true
  simp [spansAt, unmatched]

/-- Places that cannot be told apart have related matches, where what is taken between related places is
related and of one length. -/
theorem spansAt_rel {R : Cursor → Cursor → Prop} {Q : List Char → List Char → Prop}
    (flat : p.flat = true) (alike : ReadAlike R p.classes) (related : R s s')
    (taken : ∀ t t', R t t' → Q (s.rest.take (s.rest.length - t.rest.length))
      (s'.rest.take (s'.rest.length - t'.rest.length)))
    (lengths : ∀ xs ys, Q xs ys → xs.length = ys.length) :
    List.Forall₂ Q (p.spansAt s) (p.spansAt s') := by
  have first : Option.Rel Q (p.spanAt? s) (p.spanAt? s') :=
    find_rel flat alike related fun t t' later => .some (taken t t' later)
  have second : Option.Rel Q (p.nonEmptySpanAt? s) (p.nonEmptySpanAt? s') := by
    apply find_rel flat alike related
    intro t t' later
    have both := taken t t' later
    simp only [List.isEmpty_iff_length_eq_zero, lengths _ _ both]
    split
    · exact .none
    · exact .some both
  unfold spansAt
  cases found : p.spanAt? s with
  | none =>
      rw [found] at first
      rw [eq_none_of_rel_none first]
      exact .nil
  | some span =>
      rw [found] at first
      obtain ⟨span', found', both⟩ := exists_of_rel_some first
      have same := lengths span span' both
      rw [found']
      cases span with
      | nil =>
          obtain rfl := List.length_eq_zero_iff.1 same.symm
          exact .cons both (rel_toList second)
      | cons c span =>
          cases span' with
          | nil => simp at same
          | cons c' span' => exact .cons both .nil

/-- Places that cannot be told apart have the same matches, where the same is taken between related
places. -/
theorem spansAt_congr {R : Cursor → Cursor → Prop} (flat : p.flat = true)
    (alike : ReadAlike R p.classes) (related : R s s')
    (taken : ∀ t t', R t t' →
      s.rest.take (s.rest.length - t.rest.length) = s'.rest.take (s'.rest.length - t'.rest.length)) :
    p.spansAt s = p.spansAt s' := by
  have same := spansAt_rel flat alike related taken fun _ _ => congrArg List.length
  rwa [List.forall₂_eq_eq_eq] at same

/-! ## Beside a separator -/

/-- No class of the pattern holds the character. -/
def avoids (sep : Char) (p : Pattern) : Bool := p.classes.all fun cls => !cls.holds sep

theorem holds_of_avoids (avoids : p.avoids sep = true) {cls : CharClass} (member : cls ∈ p.classes) :
    cls.holds sep = false := by
  simpa using List.all_eq_true.1 avoids cls member

/-- The same character stands before two places, and more text is ahead of the second. -/
inductive Extends (more : List Char) : Cursor → Cursor → Prop where
  | intro (before : Option Char) (rest : List Char) :
      Extends more ⟨before, rest⟩ ⟨before, rest ++ more⟩

/-- The same text is ahead of two places, and a word ends before both or before none. -/
inductive SameAhead : Cursor → Cursor → Prop where
  | intro {before before' : Option Char}
      (word : (before.map isWord).getD false = (before'.map isWord).getD false) (rest : List Char) :
      SameAhead ⟨before, rest⟩ ⟨before', rest⟩

theorem readAlike_extends {classes : List CharClass} (notWord : isWord sep = false)
    (avoided : ∀ cls ∈ classes, cls.holds sep = false) :
    ReadAlike (Extends (sep :: ds)) classes where
  boundary {s s'} related := by
    cases related with
    | intro before rest =>
        cases rest with
        | nil => simp [Cursor.atBoundary, notWord]
        | cons c rest => rfl
  step {s s'} related {cls} member := by
    cases related with
    | intro before rest =>
        cases rest with
        | nil =>
            simp only [Cursor.step?, List.nil_append, avoided cls member, Bool.false_eq_true, if_false]
            exact .none
        | cons c rest =>
            simp only [Cursor.step?, List.cons_append]
            split
            · exact .some (.intro (some c) rest)
            · exact .none

theorem readAlike_sameAhead (classes : List CharClass) : ReadAlike SameAhead classes where
  boundary {s s'} related := by
    cases related with
    | intro word rest => rw [Cursor.atBoundary, Cursor.atBoundary, word]
  step {s s'} related {cls} _ := by
    cases related with
    | intro word rest =>
        cases rest with
        | nil => exact .none
        | cons c rest =>
            simp only [Cursor.step?]
            split
            · exact .some (.intro rfl rest)
            · exact .none

/-- Before a separator a text matches as it does where it ends. -/
theorem spansAt_before_sep (flat : p.flat = true) (notWord : isWord sep = false)
    (avoids : p.avoids sep = true) (before : Option Char) (cs : List Char) :
    p.spansAt ⟨before, cs ++ sep :: ds⟩ = p.spansAt ⟨before, cs⟩ := by
  have alike : ReadAlike (Extends (sep :: ds)) p.classes :=
    readAlike_extends notWord fun _ => holds_of_avoids avoids
  refine (spansAt_congr flat alike (.intro before cs) ?_).symm
  intro t t' later
  cases later with
  | intro before' rest =>
      simp only [List.length_append, Nat.add_sub_add_right]
      exact (List.take_append_of_le_length (Nat.sub_le _ _)).symm

/-- After a separator a text matches as it does where it begins. -/
theorem spansFrom_after_sep (flat : p.flat = true) (notWord : isWord sep = false) :
    p.spansFrom (some sep) ds 0 = p.spansFrom none ds 0 := by
  have same (rest : List Char) : p.spansAt ⟨some sep, rest⟩ = p.spansAt ⟨none, rest⟩ := by
    refine spansAt_congr flat (readAlike_sameAhead p.classes) (.intro (by simp [notWord]) rest) ?_
    intro t t' later
    cases later with
    | intro word rest => rfl
  cases ds with
  | nil => exact same []
  | cons d ds => simp only [spansFrom, same]

/-- **The matches of a text with a separator are those before it and those after it.** -/
theorem spansFrom_append {kind : CharClass → Bool} (flat : p.flat = true)
    (demands : p.demands kind = true) (notWord : isWord sep = false) (avoids : p.avoids sep = true)
    (before : Option Char) {covered : ℕ} (inside : covered ≤ cs.length) :
    p.spansFrom before (cs ++ sep :: ds) covered =
      p.spansFrom before cs covered ++ p.spansFrom none ds 0 := by
  induction cs generalizing before covered with
  | nil =>
      obtain rfl : covered = 0 := Nat.le_zero.1 inside
      have atEnd : p.spansAt ⟨before, []⟩ = [] := spansAt_eq_nil flat demands (by simp)
      have atSep : p.spansAt ⟨before, sep :: ds⟩ = [] :=
        (spansAt_before_sep flat notWord avoids before []).trans atEnd
      simp only [List.nil_append, spansFrom, atEnd, atSep]
      exact spansFrom_after_sep flat notWord
  | cons c cs ih =>
      cases covered with
      | succ covered => exact ih (some c) (Nat.le_of_succ_le_succ inside)
      | zero =>
          have here : p.spansAt ⟨before, c :: (cs ++ sep :: ds)⟩ = p.spansAt ⟨before, c :: cs⟩ :=
            spansAt_before_sep flat notWord avoids before (c :: cs)
          have reached : ((p.spansAt ⟨before, c :: cs⟩).getLast?.map List.length).getD 0 - 1 ≤
              cs.length := by
            cases last : (p.spansAt ⟨before, c :: cs⟩).getLast? with
            | none => exact Nat.zero_le _
            | some span =>
                have bound := length_le_of_mem_spansAt flat (List.mem_of_getLast? last)
                exact Nat.sub_le_of_le_add bound
          rw [List.cons_append, spansFrom, here, ih (some c) reached, spansFrom, List.append_assoc]

theorem spans_of_seam {kind : CharClass → Bool} {whole first second : String} (flat : p.flat = true)
    (demands : p.demands kind = true) (notWord : isWord sep = false) (avoids : p.avoids sep = true)
    (seam : whole.toList = first.toList ++ sep :: second.toList) :
    p.spans whole = p.spans first ++ p.spans second := by
  rw [spans, seam, spansFrom_append flat demands notWord avoids none (Nat.zero_le _), List.map_append]
  rfl

/-! ## White space -/

/-- The class holds no white space. -/
def inked (cls : CharClass) : Bool := blankChars.all fun c => !cls.holds c

theorem holds_of_inked {cls : CharClass} (ink : inked cls = true) {c : Char} (blank : isBlank c = true) :
    cls.holds c = false := by
  simpa using List.all_eq_true.1 ink c (mem_blankChars blank)

theorem spansFrom_of_blank (flat : p.flat = true) (demands : p.demands inked = true)
    (blank : ∀ c ∈ cs, isBlank c = true) (before : Option Char) (covered : ℕ) :
    p.spansFrom before cs covered = [] := by
  have nowhere (before : Option Char) {rest : List Char} (within : ∀ c ∈ rest, isBlank c = true) :
      p.spansAt ⟨before, rest⟩ = [] :=
    spansAt_eq_nil flat demands fun c member _ ink => holds_of_inked ink (within c member)
  induction cs generalizing before covered with
  | nil => exact nowhere before blank
  | cons c cs ih =>
      have later := (List.forall_mem_cons.1 blank).2
      cases covered with
      | succ covered => exact ih later (some c) covered
      | zero =>
          rw [spansFrom, nowhere before blank]
          exact ih later (some c) 0

/-- **White space holds no match of a pattern that demands ink.** -/
theorem spans_of_blank (flat : p.flat = true) (demands : p.demands inked = true) {text : String}
    (blank : isBlankText text = true) : p.spans text = [] := by
  rw [spans, spansFrom_of_blank flat demands (List.all_eq_true.1 blank), List.map_nil]

end Pattern

end Deliberation
