/-
# Proofs.Calibration.Delimiters -- where a corpus file is cut

A delimiter may swallow white space and blank lines around its hyphens, so where a file is cut depends
on what stands around.  Among lines none of which is three hyphens when trimmed, no delimiter begins
(`hyphensLength?_lines`), and reading goes through them in one piece (`blocksFrom_lines`).  So a file of
blocks whose first and last characters are not white space, each after a delimiter line of its own, is
cut at these lines and nowhere else (`blocks_fileOf`).
-/
import Deliberation.Calibration.Corpus
import Deliberation.Proofs.Text.Lines

set_option autoImplicit false

namespace Deliberation.Corpus

open Text

variable {c : Char} {cs line space block after : List Char} {lines : List (List Char)}

/-! ## Lines without a delimiter -/

/-- A line that does not cut a file. -/
structure IsPlain (line : List Char) : Prop where
  oneLine : '\n' ∉ line
  notHyphens : trimChars line ≠ "---".toList

theorem throughLastLineFeed?_eq_none (h : '\n' ∉ cs) : throughLastLineFeed? cs = none := by
  have all : cs.reverse.dropWhile (· != '\n') = [] := by
    rw [List.dropWhile_eq_nil_iff]
    intro c member
    have : c ≠ '\n' := by
      rintro rfl
      exact h (List.mem_reverse.1 member)
    simpa using this
  simp only [throughLastLineFeed?, all]

theorem hyphensLength?_cons_of_blank (h : isBlank c = true) (cs : List Char) :
    hyphensLength? (c :: cs) = (hyphensLength? cs).map (· + 1) := by
  simp only [hyphensLength?, List.takeWhile_cons_of_pos h, List.dropWhile_cons_of_pos h,
    List.length_cons]
  split
  · split_ifs
    · simp only [Option.map_some, Option.some.injEq]
      omega
    · rw [Option.map_map]
      congr 1
      funext n
      change (cs.takeWhile isBlank).length + 1 + 3 + n = (cs.takeWhile isBlank).length + 3 + n + 1
      omega
  · rfl

theorem hyphensLength?_append_of_blank (h : ∀ c ∈ space, isBlank c = true) (cs : List Char) :
    hyphensLength? (space ++ cs) = (hyphensLength? cs).map (· + space.length) := by
  induction space with
  | nil => simp
  | cons c space ih =>
      simp only [List.forall_mem_cons] at h
      rw [List.cons_append, hyphensLength?_cons_of_blank h.1, ih h.2, Option.map_map]
      rfl

theorem hyphensLength?_hyphens (cs : List Char) : hyphensLength? ('-' :: '-' :: '-' :: cs) =
    if (cs.takeWhile isBlank).length = cs.length then some (3 + (cs.takeWhile isBlank).length)
    else (throughLastLineFeed? (cs.takeWhile isBlank)).map (3 + ·) := by
  have hyphen : isBlank '-' = false := by decide
  simp [hyphensLength?, hyphen]

theorem hyphensLength?_eq_none (notBlank : isBlank c = false)
    (other : ∀ rest, c :: cs ≠ '-' :: '-' :: '-' :: rest) : hyphensLength? (c :: cs) = none := by
  unfold hyphensLength?
  rw [List.dropWhile_cons_of_neg (by simp [notBlank])]
  split
  · next rest same => exact absurd same (other _)
  · rfl

theorem takeWhile_append_of_not_all {p : Char → Bool} (h : ¬∀ c ∈ cs, p c = true) (after : List Char) :
    (cs ++ after).takeWhile p = cs.takeWhile p := by
  rw [List.takeWhile_append, if_neg]
  intro all
  apply h
  intro c member
  rw [← (List.takeWhile_prefix p).eq_of_length all] at member
  exact List.mem_takeWhile_imp member

/-- A line begins no delimiter if it is not blank and not three hyphens when trimmed. -/
theorem hyphensLength?_line (plain : IsPlain line) (notBlank : ¬∀ c ∈ line, isBlank c = true)
    (ended : ∀ c ∈ after.head?, c = '\n') : hyphensLength? (line ++ after) = none := by
  induction line with
  | nil => simp at notBlank
  | cons c line ih =>
      obtain ⟨oneLine, notHyphens⟩ := plain
      by_cases blank : isBlank c = true
      · rw [List.cons_append, hyphensLength?_cons_of_blank blank, ih]
        · rfl
        · exact ⟨fun h => oneLine (List.mem_cons_of_mem _ h), trimChars_cons_of_blank blank ▸ notHyphens⟩
        · simpa [blank] using notBlank
      · by_cases hyphens : ∃ rest, c :: line = '-' :: '-' :: '-' :: rest
        · obtain ⟨rest, same⟩ := hyphens
          rw [same] at notHyphens oneLine ⊢
          have someText : ¬∀ c ∈ rest, isBlank c = true := by
            intro all
            have alone : trimChars (['-', '-', '-'] ++ rest) = trimChars ['-', '-', '-'] :=
              trimChars_append_blank all _
            exact notHyphens (alone.trans (by decide))
          have noLineFeed : '\n' ∉ rest.takeWhile isBlank := by
            intro member
            exact oneLine (by simp [(List.takeWhile_prefix isBlank).subset member])
          have short := (List.takeWhile_prefix isBlank (l := rest)).length_le
          have notAll : (rest.takeWhile isBlank).length ≠ rest.length := by
            intro all
            rw [← (List.takeWhile_prefix isBlank).eq_of_length all] at someText
            exact someText fun c member => List.mem_takeWhile_imp member
          simp only [List.cons_append]
          rw [hyphensLength?_hyphens, takeWhile_append_of_not_all someText, if_neg,
            throughLastLineFeed?_eq_none noLineFeed]
          · rfl
          · simp only [List.length_append]
            omega
        · rw [List.cons_append]
          apply hyphensLength?_eq_none (by simpa using blank)
          intro rest same
          apply hyphens
          -- what follows the line begins with no hyphen
          have noHyphen {rest : List Char} (same : after = '-' :: rest) : False := by
            rw [same] at ended
            exact absurd (ended '-' rfl) (by decide)
          cases line with
          | nil => exact (noHyphen (List.cons.inj same).2).elim
          | cons second line =>
              cases line with
              | nil => exact (noHyphen (List.cons.inj (List.cons.inj same).2).2).elim
              | cons third line =>
                  simp only [List.cons_append, List.cons.injEq] at same
                  exact ⟨line, by simp [same]⟩

/-- No delimiter begins with lines that do not cut a file, as long as one of them is not blank. -/
theorem hyphensLength?_lines (plain : ∀ line ∈ lines, IsPlain line)
    (notBlank : ∃ line ∈ lines, ¬∀ c ∈ line, isBlank c = true) (after : List Char) :
    hyphensLength? (List.intercalate ['\n'] lines ++ '\n' :: after) = none := by
  induction lines with
  | nil => simp at notBlank
  | cons line lines ih =>
      simp only [List.forall_mem_cons] at plain
      by_cases blank : ∀ c ∈ line, isBlank c = true
      · have rest : ∃ line ∈ lines, ¬∀ c ∈ line, isBlank c = true := by
          obtain ⟨line', member, notBlank⟩ := notBlank
          rcases List.mem_cons.1 member with rfl | later
          · exact absurd blank notBlank
          · exact ⟨line', later, notBlank⟩
        have notNil : lines ≠ [] := by
          rintro rfl
          simp at rest
        rw [intercalate_cons _ _ notNil, List.append_assoc, hyphensLength?_append_of_blank, ih plain.2 rest]
        · rfl
        · intro c member
          rcases List.mem_append.1 member with old | new
          · exact blank c old
          · rw [List.mem_singleton.1 new]
            decide
      · cases lines with
        | nil =>
            have ended : ∀ c ∈ ('\n' :: after).head?, c = '\n' := by simp
            simpa [List.intercalate] using hyphensLength?_line plain.1 blank ended
        | cons second lines =>
            rw [intercalate_cons _ _ (by simp)]
            rw [List.append_assoc, List.append_assoc]
            exact hyphensLength?_line plain.1 blank (by simp)

/-! ## Cutting -/

/-- Covered characters are passed over. -/
theorem blocksFrom_drop (block cs : List Char) (n : ℕ) :
    blocksFrom false block cs n = blocksFrom false block (cs.drop n) 0 := by
  induction n generalizing cs with
  | zero => rfl
  | succ n ih =>
      cases cs with
      | nil => rfl
      | cons c cs => exact ih cs

theorem blocksFrom_of_none {atStart : Bool} (h : delimiterLength? atStart (c :: cs) = none)
    (block : List Char) :
    blocksFrom atStart block (c :: cs) 0 = blocksFrom false (c :: block) cs 0 := by
  simp only [blocksFrom, h]

theorem blocksFrom_of_some {atStart : Bool} {n : ℕ}
    (h : delimiterLength? atStart (c :: cs) = some (n + 1)) (block : List Char) :
    blocksFrom atStart block (c :: cs) 0 = block.reverse :: blocksFrom false [] cs n := by
  simp only [blocksFrom, h, Nat.add_sub_cancel]

theorem delimiterLength?_lineFeed (cs : List Char) :
    delimiterLength? false ('\n' :: cs) = (hyphensLength? cs).map (· + 1) := by
  simp [delimiterLength?]

theorem blocksFrom_line (h : '\n' ∉ line) (block after : List Char) :
    blocksFrom false block (line ++ after) 0 = blocksFrom false (line.reverse ++ block) after 0 := by
  induction line generalizing block with
  | nil => rfl
  | cons c line ih =>
      rw [List.mem_cons, not_or] at h
      have here : delimiterLength? false (c :: (line ++ after)) = none := by
        simp only [delimiterLength?, Bool.false_eq_true, if_false]
        split
        · next same => simp at same
        · next same => exact absurd (List.cons.inj same).1.symm h.1
        · rfl
      rw [List.cons_append, blocksFrom_of_none here, ih h.2]
      simp

/-- Lines that do not cut a file, the last one not blank, are read in one piece. -/
theorem blocksFrom_lines (notNil : lines ≠ []) (plain : ∀ line ∈ lines, IsPlain line)
    (ends : ∀ line ∈ lines.getLast?, ¬∀ c ∈ line, isBlank c = true) (block after : List Char) :
    blocksFrom false block (List.intercalate ['\n'] lines ++ '\n' :: after) 0 =
      blocksFrom false ((List.intercalate ['\n'] lines).reverse ++ block) ('\n' :: after) 0 := by
  induction lines generalizing block with
  | nil => exact absurd rfl notNil
  | cons line lines ih =>
      simp only [List.forall_mem_cons] at plain
      cases lines with
      | nil => simpa [List.intercalate] using blocksFrom_line plain.1.oneLine block ('\n' :: after)
      | cons second lines =>
          rw [List.getLast?_cons_cons] at ends
          rw [intercalate_cons _ _ (by simp), List.append_assoc, List.append_assoc,
            blocksFrom_line plain.1.oneLine]
          have here : delimiterLength? false
              ('\n' :: (List.intercalate ['\n'] (second :: lines) ++ '\n' :: after)) = none := by
            rw [delimiterLength?_lineFeed, hyphensLength?_lines plain.2]
            · rfl
            · exact ⟨(second :: lines).getLast (by simp), List.getLast_mem _,
                ends _ (List.getLast?_eq_getLast_of_ne_nil (by simp))⟩
          rw [List.singleton_append, blocksFrom_of_none here, ih (by simp) plain.2 ends]
          simp

/-! ## Whole files -/

/-- Blocks of lines, each after a delimiter line, with a last delimiter line that need not end. -/
def fileOf (ending : List Char) : List (List (List Char)) → List Char
  | [] => '-' :: '-' :: '-' :: ending
  | lines :: rest =>
    '-' :: '-' :: '-' :: '\n' :: (List.intercalate ['\n'] lines ++ '\n' :: fileOf ending rest)

/-- Lines of which a block can consist: none cuts a file, and neither end is white space. -/
structure IsBlock (lines : List (List Char)) : Prop where
  plain : ∀ line ∈ lines, IsPlain line
  begins : ∃ c cs rest, lines = (c :: cs) :: rest ∧ isBlank c = false
  ends : ∀ line ∈ lines.getLast?, ¬∀ c ∈ line, isBlank c = true

theorem IsBlock.ne_nil (h : IsBlock lines) : lines ≠ [] := by
  obtain ⟨c, cs, rest, rfl, -⟩ := h.begins
  simp

theorem blocksFrom_fileOf {ending : List Char} (ended : ending = [] ∨ ending = ['\n'])
    {bodies : List (List (List Char))} (h : ∀ lines ∈ bodies, IsBlock lines) :
    ∃ n, hyphensLength? (fileOf ending bodies) = some (n + 1) ∧
      blocksFrom false [] (fileOf ending bodies) (n + 1) =
        bodies.map (List.intercalate ['\n']) ++ [[]] := by
  induction bodies with
  | nil => rcases ended with rfl | rfl <;> exact ⟨_, rfl, rfl⟩
  | cons lines bodies ih =>
      simp only [List.forall_mem_cons] at h
      obtain ⟨n, next, rest⟩ := ih h.2
      obtain ⟨c, cs, others, same, notBlank⟩ := h.1.begins
      refine ⟨3, ?_, ?_⟩
      · -- the white space after the hyphens is the end of their line
        have space : (List.intercalate ['\n'] lines ++ '\n' :: fileOf ending bodies).takeWhile isBlank =
            [] := by
          rw [same]
          cases others <;> simp [List.intercalate, List.intersperse, notBlank]
        have lineFeed : isBlank '\n' = true := by decide
        rw [fileOf, hyphensLength?_hyphens, List.takeWhile_cons_of_pos lineFeed, space, if_neg]
        · rfl
        · simp
      · have walk := blocksFrom_lines h.1.ne_nil h.1.plain h.1.ends [] (fileOf ending bodies)
        have cut : delimiterLength? false ('\n' :: fileOf ending bodies) = some (n + 1 + 1) := by
          rw [delimiterLength?_lineFeed, next]
          rfl
        rw [fileOf, blocksFrom_drop]
        refine walk.trans ?_
        rw [blocksFrom_of_some cut, rest]
        simp

/-- **A file is cut at its delimiter lines and nowhere else.** -/
theorem blocks_fileOf {ending : List Char} (ended : ending = [] ∨ ending = ['\n'])
    {bodies : List (List (List Char))} (h : ∀ lines ∈ bodies, IsBlock lines) :
    blocks (fileOf ending bodies) = [] :: bodies.map (List.intercalate ['\n']) ++ [[]] := by
  obtain ⟨n, first, rest⟩ := blocksFrom_fileOf ended h
  obtain ⟨cs, same⟩ : ∃ cs, fileOf ending bodies = '-' :: cs := by
    cases bodies <;> exact ⟨_, rfl⟩
  rw [same] at first rest
  have cut : delimiterLength? true ('-' :: cs) = some (n + 1) := by
    simp only [delimiterLength?, if_true, first]
  rw [blocks, same, blocksFrom_of_some cut, List.cons_append, ← rest]
  rfl

end Deliberation.Corpus
