/-
# Proofs.Calibration.Sections -- a corpus file line by line

A delimiter takes the white space around it, over any number of lines, and begins with a line feed or at the
start of the file.  Said line by line (`sections`): a line that is three hyphens when trimmed cuts the file,
unless nothing but blank lines has come since a line that cut it; then it is a line of text like any other.
`blocks_eq_sections` proves that the two say the same, margins of the blocks apart, for every file.

So a file is read section by section (`parse_eq`).  A section that begins with a comment, blank lines apart,
says nothing as a whole; in any other one the comment lines do not count.
-/
import Deliberation.Proofs.Calibration.Delimiters
import Deliberation.Proofs.Calibration.Headers

set_option autoImplicit false

namespace Deliberation.Corpus

open Text

variable {c : Char} {cs line space block : List Char} {lines before rest : List (List Char)} {justCut : Bool}

/-! ## Sections -/

/-- A delimiter line. -/
def isDelimiter (line : List Char) : Bool := trimChars line = "---".toList

/-- The sections of a file.  Just after a line that cut it, blank lines apart, another delimiter line does
not cut it. -/
def sections (justCut : Bool) : List (List Char) → List (List (List Char))
  | [] => [[]]
  | line :: rest =>
    if isDelimiter line && !justCut then [] :: sections true rest
    else (sections (justCut && isBlankLine line) rest).modifyHead (line :: ·)

theorem isDelimiter_iff : isDelimiter line = true ↔ trimChars line = "---".toList := decide_eq_true_iff

theorem isBlankLine_of_isDelimiter (h : isDelimiter line = true) : isBlankLine line = false := by
  rw [← Bool.not_eq_true, isBlankLine_iff_trimChars, isDelimiter_iff.1 h]
  decide

theorem isDelimiter_of_isBlankLine (h : isBlankLine line = true) : isDelimiter line = false := by
  rw [← Bool.not_eq_true]
  intro delimiter
  simp [isBlankLine_of_isDelimiter delimiter] at h

theorem isComment_of_isDelimiter (h : isDelimiter line = true) : isComment line = false := by
  rw [isComment, isDelimiter_iff.1 h]
  decide

theorem sections_delimiter (h : isDelimiter line = true) (rest : List (List Char)) :
    sections false (line :: rest) = [] :: sections true rest := by
  simp [sections, h]

theorem sections_swallowed (h : isDelimiter line = true) (rest : List (List Char)) :
    sections true (line :: rest) = (sections false rest).modifyHead (line :: ·) := by
  simp [sections, isBlankLine_of_isDelimiter h]

theorem sections_blank (h : isBlankLine line = true) (rest : List (List Char)) :
    sections justCut (line :: rest) = (sections justCut rest).modifyHead (line :: ·) := by
  simp [sections, h, isDelimiter_of_isBlankLine h]

theorem sections_plain (noDelimiter : isDelimiter line = false) (notBlank : isBlankLine line = false)
    (rest : List (List Char)) :
    sections justCut (line :: rest) = (sections false rest).modifyHead (line :: ·) := by
  simp [sections, noDelimiter, notBlank]

theorem sections_ne_nil (justCut : Bool) (lines : List (List Char)) : sections justCut lines ≠ [] := by
  cases lines with
  | nil => simp [sections]
  | cons line rest =>
      unfold sections
      split
      · simp
      · simpa using sections_ne_nil _ rest

/-- Sections hold lines of the file. -/
theorem flatten_sections (justCut : Bool) (lines : List (List Char)) :
    (sections justCut lines).flatten.Sublist lines := by
  induction lines generalizing justCut with
  | nil => simp [sections]
  | cons line rest ih =>
      unfold sections
      split
      · exact (ih true).cons line
      · have shorter := ih (justCut && isBlankLine line)
        cases same : sections (justCut && isBlankLine line) rest with
        | nil => exact absurd same (sections_ne_nil _ _)
        | cons s ss =>
            rw [same] at shorter
            exact shorter.cons_cons line

/-! ## Where a delimiter ends -/

theorem throughLastLineFeed?_append (h : '\n' ∉ cs) (before : List Char) :
    throughLastLineFeed? (before ++ '\n' :: cs) = some (before.length + 1) := by
  have kept : (before ++ '\n' :: cs).reverse.dropWhile (· != '\n') = '\n' :: before.reverse := by
    rw [List.reverse_append, List.reverse_cons, List.append_assoc, List.dropWhile_append_of_pos]
    · rfl
    · intro c member
      have : c ≠ '\n' := by
        rintro rfl
        exact h (List.mem_reverse.1 member)
      simpa using this
  simp only [throughLastLineFeed?, kept, List.length_cons, List.length_reverse]

theorem led_blank (blank : ∀ line ∈ lines, isBlankLine line = true) : ∀ c ∈ led lines, isBlank c = true := by
  intro c member
  obtain ⟨line, inside, here⟩ := List.mem_flatMap.1 member
  exact blank_led_of_isBlankLine (blank line inside) c here

/-- The white space of a delimiter behind its hyphens goes up to the next line that is not blank. -/
theorem hyphensLength?_space (blank : ∀ c ∈ space, isBlank c = true) (oneLine : ∀ l ∈ rest, '\n' ∉ l) :
    ∃ n, hyphensLength? ('-' :: '-' :: '-' :: (space ++ led rest)) = some (3 + n) ∧
      (space ++ led rest).drop n = List.intercalate ['\n'] (rest.dropWhile isBlankLine) := by
  have split := List.takeWhile_append_dropWhile (p := isBlankLine) (l := rest)
  have blanks := led_blank fun l (member : l ∈ rest.takeWhile isBlankLine) => List.mem_takeWhile_imp member
  have first := List.head?_dropWhile_not isBlankLine rest
  have margin : ∀ c ∈ space ++ led (rest.takeWhile isBlankLine), isBlank c = true :=
    List.forall_mem_append.2 ⟨blank, blanks⟩
  rw [hyphensLength?_hyphens]
  cases remaining : rest.dropWhile isBlankLine with
  | nil =>
      rw [remaining, List.append_nil] at split
      rw [split] at margin
      rw [List.takeWhile_eq_self_iff.2 margin, if_pos rfl]
      exact ⟨_, rfl, by simp [List.intercalate]⟩
  | cons next others =>
      rw [remaining] at split first
      have notBlank : ¬∀ c ∈ next, isBlank c = true := isBlankLine_eq_false_iff.1 first
      have whole : space ++ led rest =
          (space ++ led (rest.takeWhile isBlankLine)) ++ '\n' :: (next ++ led others) := by
        conv_lhs => rw [← split, led_append, led_cons]
        rw [List.append_assoc]
      have taken : (space ++ led rest).takeWhile isBlank =
          (space ++ led (rest.takeWhile isBlankLine)) ++ '\n' :: next.takeWhile isBlank := by
        rw [whole, List.takeWhile_append_of_pos margin, List.takeWhile_cons_of_pos (by decide),
          takeWhile_append_of_not_all notBlank]
      have noLineFeed : '\n' ∉ next.takeWhile isBlank := by
        have member : next ∈ rest := split ▸ List.mem_append_right _ List.mem_cons_self
        exact fun inside => oneLine next member ((List.takeWhile_prefix isBlank).subset inside)
      have short : ((space ++ led rest).takeWhile isBlank).length ≠ (space ++ led rest).length := by
        intro all
        have same := (List.takeWhile_prefix isBlank).eq_of_length all
        refine notBlank fun c inside => List.mem_takeWhile_imp (l := space ++ led rest) ?_
        rw [same, whole]
        simp [inside]
      rw [if_neg short, taken, throughLastLineFeed?_append noLineFeed]
      refine ⟨_, rfl, ?_⟩
      rw [whole, ← List.drop_drop, List.drop_left, intercalate_cons_led]
      rfl

/-- A delimiter line is covered up to the next line that is not blank. -/
theorem hyphensLength?_delimiter (delimiter : isDelimiter line = true) (oneLine : ∀ l ∈ rest, '\n' ∉ l) :
    ∃ n, hyphensLength? (line ++ led rest) = some (n + 1) ∧
      (line ++ led rest).drop (n + 1) = List.intercalate ['\n'] (rest.dropWhile isBlankLine) := by
  obtain ⟨margin, space, split, blank, blank'⟩ := exists_margins line
  rw [show trimChars line = ['-', '-', '-'] from isDelimiter_iff.1 delimiter] at split
  obtain ⟨n, length, dropped⟩ := hyphensLength?_space blank' oneLine
  have whole : line ++ led rest = margin ++ '-' :: '-' :: '-' :: (space ++ led rest) := by
    conv_lhs => rw [split]
    simp
  refine ⟨margin.length + 2 + n, ?_, ?_⟩
  · rw [whole, hyphensLength?_append_of_blank blank, length, Option.map_some]
    congr 1
    omega
  · rw [whole, ← dropped, show margin.length + 2 + n + 1 = margin.length + (3 + n) by omega, ← List.drop_drop,
      List.drop_left, ← List.drop_drop]
    rfl

theorem hyphensLength?_pos {n : ℕ} (h : hyphensLength? cs = some n) : 0 < n := by
  unfold hyphensLength? at h
  split at h
  · dsimp only at h
    split at h
    · obtain rfl := Option.some.inj h
      omega
    · obtain ⟨m, -, rfl⟩ := Option.map_eq_some_iff.1 h
      omega
  · cases h

/-! ## Cutting by characters and by lines -/

/-- What was read before belongs to the first block. -/
theorem blocksFrom_block (block cs : List Char) :
    blocksFrom false block cs 0 = (blocksFrom false [] cs 0).modifyHead (block.reverse ++ ·) := by
  induction cs generalizing block with
  | nil => simp [blocksFrom]
  | cons c cs ih =>
      cases h : delimiterLength? false (c :: cs) with
      | none =>
          rw [blocksFrom_of_none h, blocksFrom_of_none h, ih (c :: block), ih [c], List.modifyHead_modifyHead]
          congr 1
          funext first
          simp
      | some n => simp [blocksFrom, h]

/-- Before a blank line nothing is cut that would not be cut behind it. -/
theorem blocksFrom_blankLine (blank : isBlankLine line = true) (oneLine : '\n' ∉ line) (block : List Char)
    (rest : List (List Char)) :
    (blocksFrom false block (led (line :: rest)) 0).map trimChars =
      (blocksFrom false (line.reverse ++ '\n' :: block) (led rest) 0).map trimChars := by
  have passed := hyphensLength?_append_of_blank (isBlankLine_iff.1 blank) (led rest)
  rw [led_cons]
  cases h : hyphensLength? (led rest) with
  | none =>
      rw [h, Option.map_none] at passed
      have here : delimiterLength? false ('\n' :: (line ++ led rest)) = none := by
        rw [delimiterLength?_lineFeed, passed]
        rfl
      rw [blocksFrom_of_none here, blocksFrom_line oneLine]
  | some n =>
      cases rest with
      | nil => cases h
      | cons next rest =>
          obtain ⟨m, length, rfl⟩ : ∃ m, hyphensLength? (next ++ led rest) = some m ∧ m + 1 = n := by
            rw [led_cons, hyphensLength?_cons_of_blank (by decide)] at h
            exact Option.map_eq_some_iff.1 h
          have here : delimiterLength? false ('\n' :: (line ++ led (next :: rest))) =
              some (m + 1 + line.length + 1) := by
            rw [delimiterLength?_lineFeed, passed, h]
            rfl
          have next' : delimiterLength? false ('\n' :: (next ++ led rest)) = some (m + 1) := by
            rw [delimiterLength?_lineFeed, length]
            rfl
          rw [blocksFrom_of_some here, led_cons, blocksFrom_of_some next', List.map_cons, List.map_cons,
            blocksFrom_drop [] (line ++ _), blocksFrom_drop [] (next ++ _), List.reverse_append,
            List.reverse_cons, List.reverse_reverse, List.append_assoc, List.singleton_append,
            trimChars_append_blank (blank_led_of_isBlankLine blank), Nat.add_comm (m + 1), ← List.drop_drop,
            List.drop_left]
          rfl

/-- A delimiter line ends a block; another one begins with the next line that is not blank. -/
theorem blocksFrom_delimiter (delimiter : isDelimiter line = true) (oneLine : ∀ l ∈ rest, '\n' ∉ l)
    (block : List Char) : blocksFrom false block (led (line :: rest)) 0 =
      block.reverse :: blocksFrom false [] (List.intercalate ['\n'] (rest.dropWhile isBlankLine)) 0 := by
  obtain ⟨n, length, dropped⟩ := hyphensLength?_delimiter delimiter oneLine
  have here : delimiterLength? false ('\n' :: (line ++ led rest)) = some (n + 1 + 1) := by
    rw [delimiterLength?_lineFeed, length]
    rfl
  rw [led_cons, blocksFrom_of_some here, blocksFrom_drop, dropped]

/-- Another line that is not blank belongs to the block. -/
theorem blocksFrom_plainLine (plain : IsPlain line) (notBlank : isBlankLine line = false)
    (block : List Char) (rest : List (List Char)) : blocksFrom false block (led (line :: rest)) 0 =
      blocksFrom false (line.reverse ++ '\n' :: block) (led rest) 0 := by
  have ended : ∀ c ∈ (led rest).head?, c = '\n' := by cases rest <;> simp
  have here : delimiterLength? false ('\n' :: (line ++ led rest)) = none := by
    rw [delimiterLength?_lineFeed, hyphensLength?_line plain (isBlankLine_eq_false_iff.1 notBlank) ended]
    rfl
  rw [led_cons, blocksFrom_of_none here, blocksFrom_line plain.oneLine]

/-- The texts of sections, the first of them behind what was read before, without their margins. -/
def trimmedAfter (read : List Char) (ss : List (List (List Char))) : List (List Char) :=
  ((ss.map led).modifyHead (read ++ ·)).map trimChars

theorem trimmedAfter_modifyHead (read line : List Char) {ss : List (List (List Char))} (notNil : ss ≠ []) :
    trimmedAfter read (ss.modifyHead (line :: ·)) = trimmedAfter (read ++ '\n' :: line) ss := by
  cases ss with
  | nil => exact absurd rfl notNil
  | cons first others => simp [trimmedAfter]

theorem trimmedAfter_space (blank : ∀ c ∈ space, isBlank c = true) (read : List Char)
    (ss : List (List (List Char))) : trimmedAfter (space ++ read) ss = trimmedAfter read ss := by
  cases ss with
  | nil => rfl
  | cons first others => simp [trimmedAfter, trimChars_blank_append blank]

theorem trimmedAfter_nil (ss : List (List (List Char))) :
    trimmedAfter [] ss = ss.map fun s => trimChars (List.intercalate ['\n'] s) := by
  cases ss with
  | nil => rfl
  | cons first others => simp [trimmedAfter, trimChars_led, Function.comp_def]

/-- From a line feed on, and behind a line that cut the file, blocks and sections agree. -/
theorem blocksFrom_led (oneLine : ∀ line ∈ lines, '\n' ∉ line) :
    (∀ block, (blocksFrom false block (led lines) 0).map trimChars =
        trimmedAfter block.reverse (sections false lines)) ∧
      (blocksFrom false [] (List.intercalate ['\n'] (lines.dropWhile isBlankLine)) 0).map trimChars =
        trimmedAfter [] (sections true lines) := by
  induction lines with
  | nil => exact ⟨fun block => by simp [blocksFrom, sections, trimmedAfter], rfl⟩
  | cons line rest ih =>
      rw [List.forall_mem_cons] at oneLine
      obtain ⟨onward, behind⟩ := ih oneLine.2
      have read (block : List Char) :
          (line.reverse ++ '\n' :: block).reverse = block.reverse ++ '\n' :: line := by
        simp
      cases blank : isBlankLine line with
      | true =>
          constructor
          · intro block
            rw [blocksFrom_blankLine blank oneLine.1, onward, sections_blank blank,
              trimmedAfter_modifyHead _ _ (sections_ne_nil _ _), read]
          · rw [List.dropWhile_cons_of_pos blank, behind, sections_blank blank,
              trimmedAfter_modifyHead _ _ (sections_ne_nil _ _), List.nil_append,
              ← List.append_nil ('\n' :: line), trimmedAfter_space (blank_led_of_isBlankLine blank)]
      | false =>
          -- behind a cut a line that is not blank is text, whatever it is
          have text : (blocksFrom false [] (line ++ led rest) 0).map trimChars =
              trimmedAfter [] ((sections false rest).modifyHead (line :: ·)) := by
            have lineFeed : ∀ c ∈ ['\n'], isBlank c = true := blank_led_of_isBlankLine rfl
            rw [blocksFrom_line oneLine.1, onward, trimmedAfter_modifyHead _ _ (sections_ne_nil _ _),
              ← trimmedAfter_space lineFeed]
            simp
          rw [List.dropWhile_cons_of_neg (by simp [blank]), intercalate_cons_led, text]
          cases delimiter : isDelimiter line with
          | true =>
              refine ⟨fun block => ?_, by rw [sections_swallowed delimiter]⟩
              rw [blocksFrom_delimiter delimiter oneLine.2, List.map_cons, behind,
                sections_delimiter delimiter, trimmedAfter_nil]
              simp [trimmedAfter, trimChars_led, Function.comp_def]
          | false =>
              have plain : IsPlain line := ⟨oneLine.1, by simpa [isDelimiter] using delimiter⟩
              refine ⟨fun block => ?_, by rw [sections_plain delimiter blank]⟩
              rw [blocksFrom_plainLine plain blank, onward, sections_plain delimiter blank,
                trimmedAfter_modifyHead _ _ (sections_ne_nil _ _), read]

/-- The start of a file is like the beginning of a line. -/
theorem blocks_eq_blocksFrom (content : List Char) :
    (blocks content).map trimChars = (blocksFrom false [] ('\n' :: content) 0).map trimChars := by
  cases h : hyphensLength? content with
  | some n =>
      obtain ⟨m, rfl⟩ := Nat.exists_eq_add_of_lt (hyphensLength?_pos h)
      cases content with
      | nil => cases h
      | cons c cs =>
          have start : delimiterLength? true (c :: cs) = some (m + 1) := by
            simp only [delimiterLength?, if_true, h]
            simp
          have later : delimiterLength? false ('\n' :: c :: cs) = some (m + 1 + 1) := by
            rw [delimiterLength?_lineFeed, h]
            simp
          rw [blocks, blocksFrom_of_some start, blocksFrom_of_some later]
          rfl
  | none =>
      have later : delimiterLength? false ('\n' :: content) = none := by
        rw [delimiterLength?_lineFeed, h]
        rfl
      have start : blocks content = blocksFrom false [] content 0 := by
        cases content with
        | nil => rfl
        | cons c cs =>
            have same : delimiterLength? true (c :: cs) = delimiterLength? false (c :: cs) := by
              simp [delimiterLength?, h]
            simp only [blocks, blocksFrom, same]
      rw [blocksFrom_of_none later, blocksFrom_block, start]
      cases blocksFrom false [] content 0 with
      | nil => rfl
      | cons first others => simp [trimChars_cons_of_blank (show isBlank '\n' = true by decide)]

/-- **A file is cut line by line.** -/
theorem blocks_eq_sections (content : List Char) : (blocks content).map trimChars =
    (sections false (splitChars (· == '\n') content)).map fun s => trimChars (List.intercalate ['\n'] s) := by
  have joined := intercalate_splitChars '\n' content
  rw [blocks_eq_blocksFrom, ← joined, lineFeed_intercalate (splitChars_ne_nil _ _), joined,
    (blocksFrom_led fun line => not_mem_of_mem_splitChars).1, List.reverse_nil, trimmedAfter_nil]

/-! ## Reading section by section -/

/-- The lines of a file, whatever ends them. -/
def fileLines (content : String) : List (List Char) :=
  splitChars (· == '\n') (withLineFeeds content.toList)

theorem fileLines_ofLines (notNil : lines ≠ []) (oneLine : ∀ line ∈ lines, '\n' ∉ line ∧ '\r' ∉ line) :
    fileLines (String.ofList (List.intercalate ['\n'] lines)) = lines := by
  have noReturn : '\r' ∉ '\n' :: List.intercalate ['\n'] lines := by
    rw [lineFeed_intercalate notNil, led, List.mem_flatMap]
    rintro ⟨line, member, inside⟩
    rcases List.mem_cons.1 inside with same | inside
    · cases same
    · exact (oneLine line member).2 inside
  rw [fileLines, String.toList_ofList, withLineFeeds_eq_self (mt (List.mem_cons_of_mem _) noReturn),
    splitChars_intercalate notNil fun line member => (oneLine line member).1]

theorem oneLine_fileLines (content : String) : ∀ line ∈ fileLines content, '\n' ∉ line ∧ '\r' ∉ line := by
  intro line member
  refine ⟨not_mem_of_mem_splitChars member, fun inside => noReturn_withLineFeeds content.toList ?_⟩
  have whole := lineFeed_intercalate (splitChars_ne_nil (· == '\n') (withLineFeeds content.toList))
  rw [intercalate_splitChars] at whole
  have here : '\r' ∈ led (fileLines content) :=
    List.mem_flatMap.2 ⟨line, member, List.mem_cons_of_mem _ inside⟩
  rw [fileLines, ← whole] at here
  exact List.mem_of_ne_of_mem (by decide) here

/-- A section begins with a comment, blank lines apart. -/
def beginsWithComment (s : List (List Char)) : Bool := (s.find? (!isBlankLine ·)).any isComment

/-- What lines say, comments apart. -/
def linesSample? (lines : List (List Char)) : Except Fault (Option Sample) :=
  sampleFrom [] (uncommented lines)

/-- What a section says; nothing if it begins with a comment. -/
def sectionSample? (s : List (List Char)) : Except Fault (Option Sample) :=
  if beginsWithComment s then .ok none else linesSample? s

/-- The samples of sections. -/
def readSections (ss : List (List (List Char))) : Except Fault (List Sample) := collect sectionSample? ss

theorem beginsWithComment_iff (s : List (List Char)) :
    beginsWithComment s = true ↔ (trimChars (List.intercalate ['\n'] s)).head? = some '#' := by
  induction s with
  | nil => simp [beginsWithComment, List.intercalate, trimChars, trimWhere]
  | cons line rest ih =>
      cases blank : isBlankLine line with
      | true =>
          rw [intercalate_cons_led, trimChars_blank_append (isBlankLine_iff.1 blank), trimChars_led, ← ih,
            beginsWithComment, List.find?_cons_of_neg (by simp [blank]), beginsWithComment]
      | false =>
          rw [intercalate_cons_led, head?_trimChars_append (isBlankLine_eq_false_iff.1 blank),
            beginsWithComment, List.find?_cons_of_pos (by simp [blank])]
          simp [isComment]

theorem sample?_section (oneLine : ∀ line ∈ lines, '\n' ∉ line) :
    sample? (trimChars (List.intercalate ['\n'] lines)) = linesSample? lines := by
  by_cases notNil : lines = []
  · subst notNil
    rfl
  · rw [sample?_trimChars, sample?_eq, splitChars_intercalate notNil oneLine, linesSample?]

/-- **A file is read section by section.** -/
theorem parse_eq (content : String) : parse content = readSections (sections false (fileLines content)) := by
  have collected : parse content = collect sample?
      (((blocks (withLineFeeds content.toList)).map trimChars).filter fun block =>
        !block.isEmpty && block.head? ≠ some '#') := by
    rw [parse, parseLines, collect, map_eq_pure_bind]
  rw [collected, blocks_eq_sections, collect_filter, collect_map, readSections, fileLines]
  apply collect_congr
  intro s inside
  have oneLine : ∀ line ∈ s, '\n' ∉ line := fun line member =>
    not_mem_of_mem_splitChars ((flatten_sections _ _).subset (List.mem_flatten_of_mem inside member))
  have read := sample?_section oneLine
  rw [sectionSample?, read]
  by_cases comment : (trimChars (List.intercalate ['\n'] s)).head? = some '#'
  · rw [if_neg (by simp [comment]), if_pos ((beginsWithComment_iff s).2 comment)]
  · rw [if_neg (mt (beginsWithComment_iff s).1 comment)]
    by_cases empty : trimChars (List.intercalate ['\n'] s) = []
    · rw [if_neg (by simp [empty]), ← read, empty]
      rfl
    · rw [if_pos (by simp [empty, comment])]

end Deliberation.Corpus
