/-
# Proofs.Text.Lines -- lines and margins

Splitting a text at line feeds and joining lines by them undo each other, on lines that hold no line feed
(`intercalate_splitChars`, `splitChars_intercalate`).  A text is its own trimmed form exactly when it
neither begins nor ends with white space (`trimChars_eq_self_iff`).
-/
import Deliberation.Text.Basic
import Mathlib.Data.List.DropRight

set_option autoImplicit false

namespace Deliberation.Text

/-! ## Splitting and joining -/

section Split

variable {sep : Char → Bool} {c s : Char} {cs line first : List Char} {rest lines : List (List Char)}

/-- The first piece begins with what was read of it. -/
theorem splitChars_go (sep : Char → Bool) (cs piece : List Char) : ∃ first rest,
    splitChars sep cs = first :: rest ∧ splitChars.go sep cs piece = (piece.reverse ++ first) :: rest := by
  unfold splitChars
  induction cs generalizing piece with
  | nil => exact ⟨[], [], rfl, by simp [splitChars.go]⟩
  | cons c cs ih =>
      by_cases h : sep c
      · exact ⟨[], splitChars.go sep cs [], by simp [splitChars.go, h], by simp [splitChars.go, h]⟩
      · obtain ⟨first, rest, whole, one⟩ := ih [c]
        obtain ⟨first', rest', whole', more⟩ := ih (c :: piece)
        obtain ⟨rfl, rfl⟩ := List.cons.inj (whole.symm.trans whole')
        exact ⟨c :: first, rest, by simp [splitChars.go, h, one], by simp [splitChars.go, h, more]⟩

theorem splitChars_ne_nil (sep : Char → Bool) (cs : List Char) : splitChars sep cs ≠ [] := by
  obtain ⟨first, rest, h, -⟩ := splitChars_go sep cs []
  simp [h]

theorem splitChars_cons_self (s : Char) (cs : List Char) :
    splitChars (· == s) (s :: cs) = [] :: splitChars (· == s) cs := by
  simp [splitChars, splitChars.go]

theorem splitChars_cons_of_ne (h : c ≠ s) (split : splitChars (· == s) cs = first :: rest) :
    splitChars (· == s) (c :: cs) = (c :: first) :: rest := by
  obtain ⟨first', rest', whole, more⟩ := splitChars_go (· == s) cs [c]
  obtain ⟨rfl, rfl⟩ := List.cons.inj (split.symm.trans whole)
  simpa [splitChars, splitChars.go, h] using more

theorem intercalate_cons (sep first : List Char) (notNil : rest ≠ []) :
    List.intercalate sep (first :: rest) = first ++ sep ++ List.intercalate sep rest := by
  cases rest with
  | nil => exact absurd rfl notNil
  | cons second rest => simp [List.intercalate, List.intersperse]

theorem intercalate_append (sep : List Char) (lines : List (List Char)) (notNil : rest ≠ []) :
    List.intercalate sep (lines ++ rest) =
      (lines.map (· ++ sep)).flatten ++ List.intercalate sep rest := by
  induction lines with
  | nil => rfl
  | cons line lines ih =>
      rw [List.cons_append, intercalate_cons sep line (by simp [notNil]), ih]
      simp

/-- Joining the pieces of a text gives the text. -/
theorem intercalate_splitChars (s : Char) (cs : List Char) :
    List.intercalate [s] (splitChars (· == s) cs) = cs := by
  induction cs with
  | nil => rfl
  | cons c cs ih =>
      by_cases h : c = s
      · subst h
        rw [splitChars_cons_self, intercalate_cons _ _ (splitChars_ne_nil _ cs), ih]
        rfl
      · obtain ⟨first, rest, split, -⟩ := splitChars_go (· == s) cs []
        rw [splitChars_cons_of_ne h split]
        rw [split] at ih
        cases rest with
        | nil => simpa [List.intercalate] using ih
        | cons second rest =>
            rw [intercalate_cons _ _ (by simp)] at ih ⊢
            simpa using ih

theorem not_mem_of_mem_splitChars (split : line ∈ splitChars (· == s) cs) : s ∉ line := by
  induction cs generalizing line with
  | nil =>
      obtain rfl : line = [] := by simpa [splitChars, splitChars.go] using split
      simp
  | cons c cs ih =>
      by_cases h : c = s
      · subst h
        rw [splitChars_cons_self] at split
        rcases List.mem_cons.1 split with rfl | later
        · simp
        · exact ih later
      · obtain ⟨first, rest, whole, -⟩ := splitChars_go (· == s) cs []
        rw [splitChars_cons_of_ne h whole] at split
        rw [whole] at ih
        rcases List.mem_cons.1 split with rfl | later
        · simpa [Ne.symm h] using ih List.mem_cons_self
        · exact ih (List.mem_cons_of_mem _ later)

theorem splitChars_of_not_mem (h : s ∉ line) : splitChars (· == s) line = [line] := by
  induction line with
  | nil => rfl
  | cons c line ih =>
      rw [List.mem_cons, not_or] at h
      exact splitChars_cons_of_ne (Ne.symm h.1) (ih h.2)

theorem splitChars_append (h : s ∉ line) (cs : List Char) :
    splitChars (· == s) (line ++ s :: cs) = line :: splitChars (· == s) cs := by
  induction line with
  | nil => exact splitChars_cons_self s cs
  | cons c line ih =>
      rw [List.mem_cons, not_or] at h
      exact splitChars_cons_of_ne (Ne.symm h.1) (ih h.2)

/-- Splitting joined lines gives the lines. -/
theorem splitChars_intercalate (notNil : lines ≠ []) (h : ∀ line ∈ lines, s ∉ line) :
    splitChars (· == s) (List.intercalate [s] lines) = lines := by
  induction lines with
  | nil => exact absurd rfl notNil
  | cons line lines ih =>
      simp only [List.forall_mem_cons] at h
      cases lines with
      | nil => simpa [List.intercalate] using splitChars_of_not_mem h.1
      | cons second lines =>
          rw [intercalate_cons _ _ (by simp), List.append_assoc, List.singleton_append,
            splitChars_append h.1, ih (by simp) h.2]

/-- Another character goes to the last line, a line feed begins a new one. -/
theorem splitChars_concat (cs : List Char) : ∃ before last, splitChars (· == s) cs = before ++ [last] ∧
    ∀ c, splitChars (· == s) (cs ++ [c]) =
      if c = s then before ++ [last, []] else before ++ [last ++ [c]] := by
  obtain ⟨before, last, split⟩ : ∃ before last, splitChars (· == s) cs = before ++ [last] :=
    (List.eq_nil_or_concat' _).resolve_left (splitChars_ne_nil _ cs)
  refine ⟨before, last, split, fun c => ?_⟩
  have joined := intercalate_splitChars s cs
  have without : ∀ line ∈ before ++ [last], s ∉ line := split ▸ fun line => not_mem_of_mem_splitChars
  rw [split, intercalate_append _ _ (by simp)] at joined
  rw [List.forall_mem_append, List.forall_mem_singleton] at without
  split_ifs with same
  · have rejoined : List.intercalate [s] (before ++ [last, []]) = cs ++ [c] := by
      rw [intercalate_append _ _ (by simp), ← joined, same]
      simp [List.intercalate, List.intersperse]
    rw [← rejoined, splitChars_intercalate (by simp)]
    simpa [or_imp, forall_and] using without
  · have rejoined : List.intercalate [s] (before ++ [last ++ [c]]) = cs ++ [c] := by
      rw [intercalate_append _ _ (by simp), ← joined]
      simp [List.intercalate, List.intersperse]
    rw [← rejoined, splitChars_intercalate (by simp)]
    have other : s ≠ c := fun e => same e.symm
    simpa [or_imp, forall_and, other] using without

/-- Lines, each after a line feed. -/
def led (lines : List (List Char)) : List Char := lines.flatMap fun line => '\n' :: line

@[simp] theorem led_nil : led [] = [] := rfl

@[simp] theorem led_cons (line : List Char) (lines : List (List Char)) :
    led (line :: lines) = '\n' :: (line ++ led lines) := by
  simp [led]

theorem led_append (lines rest : List (List Char)) : led (lines ++ rest) = led lines ++ led rest := by
  simp [led]

/-- Joined lines are the first one and the others, each after a line feed. -/
theorem intercalate_cons_led (line : List Char) (lines : List (List Char)) :
    List.intercalate ['\n'] (line :: lines) = line ++ led lines := by
  induction lines generalizing line with
  | nil => simp [List.intercalate]
  | cons second lines ih => rw [intercalate_cons _ _ (by simp), ih, led_cons]; simp

theorem lineFeed_intercalate (notNil : lines ≠ []) :
    '\n' :: List.intercalate ['\n'] lines = led lines := by
  cases lines with
  | nil => exact absurd rfl notNil
  | cons line lines => rw [intercalate_cons_led, led_cons]

end Split

/-! ## Margins -/

section Trim

variable {cs line : List Char} {c : Char}

theorem dropWhile_eq_self_iff {p : Char → Bool} :
    cs.dropWhile p = cs ↔ ∀ c ∈ cs.head?, p c = false := by
  cases cs with
  | nil => simp
  | cons c cs =>
      by_cases h : p c
      · simp only [List.dropWhile_cons_of_pos h, List.head?_cons, Option.mem_some_iff, forall_eq', h,
          Bool.true_eq_false, iff_false]
        intro same
        have := congrArg List.length same
        have := (List.dropWhile_suffix p (l := cs)).length_le
        simp only [List.length_cons] at *
        omega
      · simp [h]

/-- A text is trimmed when it neither begins nor ends with white space. -/
theorem trimChars_eq_self_iff : trimChars cs = cs ↔
    (∀ c ∈ cs.head?, isBlank c = false) ∧ ∀ c ∈ cs.getLast?, isBlank c = false := by
  have begins : cs.dropWhile isBlank = cs ↔ ∀ c ∈ cs.head?, isBlank c = false :=
    dropWhile_eq_self_iff
  have ends : cs.reverse.dropWhile isBlank = cs.reverse ↔ ∀ c ∈ cs.getLast?, isBlank c = false :=
    List.head?_reverse ▸ dropWhile_eq_self_iff
  rw [← begins, ← ends]
  unfold trimChars trimWhere
  constructor
  · intro h
    have whole : cs.dropWhile isBlank = cs := by
      refine (List.dropWhile_suffix isBlank).eq_of_length_le ?_
      have part := (List.dropWhile_suffix isBlank (l := (cs.dropWhile isBlank).reverse)).length_le
      have total := congrArg List.length h
      simp only [List.length_reverse] at part total
      omega
    rw [whole] at h
    exact ⟨whole, by simpa using congrArg List.reverse h⟩
  · rintro ⟨whole, whole'⟩
    rw [whole, whole', List.reverse_reverse]

/-- Nothing is left of white space. -/
theorem trimChars_eq_nil_iff : trimChars cs = [] ↔ ∀ c ∈ cs, isBlank c = true := by
  rw [trimChars, trimWhere, List.reverse_eq_nil_iff, List.dropWhile_eq_nil_iff]
  simp only [List.mem_reverse]
  constructor
  · intro h c member
    rw [← List.takeWhile_append_dropWhile (p := isBlank) (l := cs), List.mem_append] at member
    rcases member with margin | rest
    · exact List.mem_takeWhile_imp margin
    · exact h c rest
  · intro h c member
    exact h c ((List.dropWhile_suffix isBlank).subset member)

theorem trimChars_cons_of_blank (h : isBlank c = true) : trimChars (c :: cs) = trimChars cs := by
  simp [trimChars, trimWhere, h]

/-- White space before a text does not count. -/
theorem trimChars_blank_append {space : List Char} (blank : ∀ c ∈ space, isBlank c = true)
    (cs : List Char) : trimChars (space ++ cs) = trimChars cs := by
  rw [trimChars, trimWhere, List.dropWhile_append_of_pos blank]
  rfl

/-- White space after a text does not count. -/
theorem trimChars_append_blank {space : List Char} (blank : ∀ c ∈ space, isBlank c = true)
    (cs : List Char) : trimChars (cs ++ space) = trimChars cs := by
  by_cases all : ∀ c ∈ cs, isBlank c = true
  · rw [trimChars_blank_append all, trimChars_eq_nil_iff.2 all, trimChars_eq_nil_iff.2 blank]
  · have some : (cs.dropWhile isBlank).isEmpty = false := by
      rw [List.isEmpty_eq_false_iff, Ne, List.dropWhile_eq_nil_iff]
      exact all
    rw [trimChars, trimWhere, List.dropWhile_append, some]
    simp only [Bool.false_eq_true, if_false, List.reverse_append]
    rw [List.dropWhile_append_of_pos (by simpa using blank)]
    rfl

/-- A text stands between the margins that trimming takes away. -/
theorem exists_margins (cs : List Char) : ∃ before after, cs = before ++ trimChars cs ++ after ∧
    (∀ c ∈ before, isBlank c = true) ∧ ∀ c ∈ after, isBlank c = true := by
  have back := List.takeWhile_append_dropWhile (p := isBlank) (l := (cs.dropWhile isBlank).reverse)
  refine ⟨cs.takeWhile isBlank, ((cs.dropWhile isBlank).reverse.takeWhile isBlank).reverse, ?_, ?_, ?_⟩
  · rw [List.append_assoc, trimChars, trimWhere, ← List.reverse_append, back, List.reverse_reverse,
      List.takeWhile_append_dropWhile]
  · exact fun c member => List.mem_takeWhile_imp member
  · exact fun c member => List.mem_takeWhile_imp (List.mem_reverse.1 member)

/-- A trimmed text begins with the first character that is not white space. -/
theorem head?_trimChars (cs : List Char) : (trimChars cs).head? = (cs.dropWhile isBlank).head? := by
  obtain ⟨before, after, split, blank, blank'⟩ := exists_margins cs
  by_cases all : trimChars cs = []
  · rw [all, List.dropWhile_eq_nil_iff.2 (trimChars_eq_nil_iff.1 all)]
  · have trimmed : trimChars (trimChars cs) = trimChars cs := by
      conv_rhs => rw [split, trimChars_append_blank blank', trimChars_blank_append blank]
    have begins := dropWhile_eq_self_iff.2 (trimChars_eq_self_iff.1 trimmed).1
    conv_rhs => rw [split, List.append_assoc, List.dropWhile_append_of_pos blank, List.dropWhile_append, begins]
    rw [if_neg (by simpa using all), List.head?_append_of_ne_nil _ all]

theorem head?_trimChars_append (some : ¬∀ c ∈ cs, isBlank c = true) (rest : List Char) :
    (trimChars (cs ++ rest)).head? = (trimChars cs).head? := by
  have notNil : cs.dropWhile isBlank ≠ [] := fun none => some (List.dropWhile_eq_nil_iff.1 none)
  rw [head?_trimChars, head?_trimChars, List.dropWhile_append, if_neg (by simpa using notNil),
    List.head?_append_of_ne_nil _ notNil]

/-- Trimming takes away nothing but white space. -/
theorem countP_trimChars (cs : List Char) :
    (trimChars cs).countP (fun c => !isBlank c) = cs.countP fun c => !isBlank c := by
  obtain ⟨before, after, split, blank, blank'⟩ := exists_margins cs
  have none {space : List Char} (blank : ∀ c ∈ space, isBlank c = true) :
      space.countP (fun c => !isBlank c) = 0 := by
    rw [List.countP_eq_zero]
    simpa using blank
  conv_rhs => rw [split, List.countP_append, List.countP_append, none blank, none blank']
  simp

end Trim

theorem withLineFeeds_eq_self {cs : List Char} (h : '\r' ∉ cs) : withLineFeeds cs = cs := by
  induction cs with
  | nil => rfl
  | cons c cs ih =>
      rw [List.mem_cons, not_or] at h
      rw [withLineFeeds.eq_4 c cs (by simp [Ne.symm h.1]) (by simp [Ne.symm h.1]), ih h.2]

theorem noReturn_withLineFeeds (cs : List Char) : '\r' ∉ withLineFeeds cs := by
  fun_induction withLineFeeds cs with
  | case1 => simp
  | case2 rest ih => simpa using ih
  | case3 rest _ ih => simpa using ih
  | case4 c rest _ notReturn ih => simpa [ih] using fun same => notReturn same.symm

end Deliberation.Text
