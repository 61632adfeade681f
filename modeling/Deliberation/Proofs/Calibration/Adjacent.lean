/-
# Proofs.Calibration.Adjacent -- two delimiter lines in a row

Whether a delimiter line cuts a file hangs on what stands before it: it does unless nothing but blank lines
has come since the last line that did (`hasJustCut`).  `readSections_delimiter` says what a file with a
delimiter line says, in either case.

So a delimiter line written twice is not an empty block.  The second one is text, and with it everything up to
the next line that cuts: headers and text become the text of one sample with the default label
(`doubled_delimiter`).
-/
import Deliberation.Proofs.Calibration.Sections

set_option autoImplicit false

namespace Deliberation.Corpus

open Text

variable {line delimiter delimiter' delimiter'' : List Char} {before after space s : List (List Char)}
  {ss : List (List (List Char))} {justCut : Bool} {content content' : String}

/-! ## Sections of appended lines -/

/-- Nothing but blank lines has come since a line that cut the file. -/
def hasJustCut (justCut : Bool) : List (List Char) → Bool
  | [] => justCut
  | line :: rest => hasJustCut (isDelimiter line && !justCut || justCut && isBlankLine line) rest

theorem sections_blank_append (blank : ∀ line ∈ space, isBlankLine line = true)
    (rest : List (List Char)) :
    sections justCut (space ++ rest) = (sections justCut rest).modifyHead (space ++ ·) := by
  induction space with
  | nil => cases h : sections justCut rest <;> simp [h]
  | cons line space ih =>
      rw [List.forall_mem_cons] at blank
      rw [List.cons_append, sections_blank blank.1, ih blank.2, List.modifyHead_modifyHead]
      rfl

/-- Only before a delimiter line does it matter whether a line has just cut the file. -/
theorem sections_eq_of_find? (next : ∀ line ∈ after.find? (!isBlankLine ·), isDelimiter line = false) :
    sections true after = sections false after := by
  induction after with
  | nil => rfl
  | cons line after ih =>
      cases blank : isBlankLine line with
      | true =>
          rw [List.find?_cons_of_neg (by simp [blank])] at next
          rw [sections_blank blank, sections_blank blank, ih next]
      | false =>
          rw [List.find?_cons_of_pos (by simp [blank])] at next
          rw [sections_plain (next line rfl) blank, sections_plain (next line rfl) blank]

/-- The last section of lines goes on with what is appended to them.  Just after a cut it is blank. -/
theorem sections_append (justCut : Bool) (before : List (List Char)) : ∃ earlier last,
    sections justCut before = earlier ++ [last] ∧
      (∀ after, sections justCut (before ++ after) =
        earlier ++ (sections (hasJustCut justCut before) after).modifyHead (last ++ ·)) ∧
      (hasJustCut justCut before = true →
        (∀ line ∈ last, isBlankLine line = true) ∧ (earlier = [] → justCut = true)) := by
  induction before generalizing justCut with
  | nil =>
      refine ⟨[], [], rfl, fun after => ?_, fun now => ⟨by simp, fun _ => now⟩⟩
      cases h : sections justCut after <;> simp [hasJustCut, h]
  | cons line before ih =>
      rw [hasJustCut]
      cases cuts : isDelimiter line && !justCut with
      | true =>
          obtain ⟨delimiter, rfl⟩ : isDelimiter line = true ∧ justCut = false := by simpa using cuts
          obtain ⟨earlier, last, split, longer, blank⟩ := ih true
          refine ⟨[] :: earlier, last, ?_, fun after => ?_, fun now => ⟨(blank now).1, by simp⟩⟩
          · rw [sections_delimiter delimiter, split, List.cons_append]
          · rw [List.cons_append, sections_delimiter delimiter, longer]
            rfl
      | false =>
          have step (rest : List (List Char)) : sections justCut (line :: rest) =
              (sections (justCut && isBlankLine line) rest).modifyHead (line :: ·) := by
            rw [sections, cuts]
            rfl
          obtain ⟨earlier, last, split, longer, blank⟩ := ih (justCut && isBlankLine line)
          rw [Bool.false_or]
          cases earlier with
          | nil =>
              refine ⟨[], line :: last, by rw [step, split]; rfl, fun after => ?_, fun now => ?_⟩
              · rw [List.cons_append, step, longer]
                cases sections _ after <;> simp
              · have still := Bool.and_eq_true_iff.1 ((blank now).2 rfl)
                exact ⟨List.forall_mem_cons.2 ⟨still.2, (blank now).1⟩, fun _ => still.1⟩
          | cons first earlier =>
              refine ⟨(line :: first) :: earlier, last, by rw [step, split]; rfl, fun after => ?_,
                fun now => ⟨(blank now).1, by simp⟩⟩
              rw [List.cons_append, step, longer]
              rfl

/-! ## Blank lines around a section -/

theorem readSections_append (ss ss' : List (List (List Char))) : readSections (ss ++ ss') = (do
    let earlier ← readSections ss
    let later ← readSections ss'
    return earlier ++ later) := collect_append _ _ _

theorem uncommented_blank_append (blank : ∀ line ∈ space, isBlankLine line = true)
    (lines : List (List Char)) : uncommented (space ++ lines) = space ++ uncommented lines := by
  have kept : uncommented space = space := by
    rw [uncommented, List.filter_eq_self]
    intro line member
    simp [isComment_of_isBlankLine (blank line member)]
  rw [uncommented_append, kept]

theorem sampleFrom_blank_append {headers : List (String × String)}
    (blank : ∀ line ∈ space, isBlankLine line = true) (lines : List (List Char)) :
    sampleFrom headers (space ++ lines) = sampleFrom headers lines := by
  induction space with
  | nil => rfl
  | cons line space ih =>
      rw [List.forall_mem_cons] at blank
      rw [List.cons_append, sampleFrom_blank blank.1, ih blank.2]

/-- Blank lines before a section say nothing. -/
theorem sectionSample?_blank_append (blank : ∀ line ∈ space, isBlankLine line = true)
    (s : List (List Char)) : sectionSample? (space ++ s) = sectionSample? s := by
  have passed : space.find? (!isBlankLine ·) = none := List.find?_eq_none.2 (by simpa using blank)
  have begins : beginsWithComment (space ++ s) = beginsWithComment s := by
    rw [beginsWithComment, List.find?_append, passed]
    rfl
  rw [sectionSample?, linesSample?, begins, uncommented_blank_append blank, sampleFrom_blank_append blank]
  rfl

theorem readSections_concat_of_blank (blank : ∀ line ∈ space, isBlankLine line = true)
    (ss : List (List (List Char))) : readSections (ss ++ [space]) = readSections ss := by
  have silent : sectionSample? space = .ok none := by
    rw [← List.append_nil space, sectionSample?_blank_append blank]
    rfl
  rw [readSections_append, show readSections [space] = .ok [] by simp [readSections, collect_cons, silent]]
  cases readSections ss <;> simp

/-! ## A delimiter line that is text -/

/-- The sample that a delimiter line makes of itself and the section behind it. -/
def swallowed (delimiter : List Char) (s : List (List Char)) : Sample where
  text := String.ofList (trimChars (List.intercalate ['\n'] (delimiter :: uncommented s)))
  expected := .affirmation
  subtype := none
  source := "unknown"
  notes := ""

theorem isOpening_of_isDelimiter (h : isDelimiter delimiter = true) : isOpening delimiter = false := by
  rw [isOpening, isBlankLine_of_isDelimiter h, isDelimiter_iff.1 h]
  decide

theorem sectionSample?_delimiter (h : isDelimiter delimiter = true) (s : List (List Char)) :
    sectionSample? (delimiter :: s) = .ok (some (swallowed delimiter s)) := by
  have begins : beginsWithComment (delimiter :: s) = false := by
    rw [beginsWithComment, List.find?_cons_of_pos (by simp [isBlankLine_of_isDelimiter h])]
    exact isComment_of_isDelimiter h
  have counts : uncommented (delimiter :: s) = delimiter :: uncommented s :=
    List.filter_cons_of_pos (by simp [isComment_of_isDelimiter h])
  have ink := inkOf_pos (List.mem_cons_self (l := uncommented s)) (isBlankLine_of_isDelimiter h)
  have notEmpty : (trimChars (List.intercalate ['\n'] (delimiter :: uncommented s))).isEmpty = false := by
    rw [List.isEmpty_eq_false_iff]
    intro empty
    rw [inkOf_eq, empty] at ink
    exact absurd ink (by simp)
  rw [sectionSample?, linesSample?, begins, counts, if_neg (by simp),
    sampleFrom_text (isOpening_of_isDelimiter h), sampleOf, notEmpty]
  rfl

/-- A section does not say what it says together with a delimiter line before it. -/
theorem ne_swallowed {sample : Sample} (h : isDelimiter delimiter = true)
    (answer : sectionSample? s = .ok (some sample)) : sample ≠ swallowed delimiter s := by
  rintro rfl
  unfold sectionSample? at answer
  split at answer
  · cases answer
  · rw [linesSample?, sampleFrom_eq] at answer
    have same := congrArg (List.countP fun c => !isBlank c)
      (String.ofList_injective (text_of_sampleOf answer))
    rw [← inkOf_eq, ← inkOf_eq, ← List.singleton_append, inkOf_append] at same
    have whole := inkOf_append ((uncommented s).takeWhile isOpening) ((uncommented s).dropWhile isOpening)
    rw [List.takeWhile_append_dropWhile] at whole
    have hyphens := inkOf_pos (List.mem_singleton_self delimiter) (isBlankLine_of_isDelimiter h)
    omega

theorem swallowed_blank (blank : ∀ line ∈ space, isBlankLine line = true) (delimiter : List Char) :
    swallowed delimiter space = swallowed delimiter [] := by
  have counts := uncommented_blank_append blank []
  have nothing : uncommented [] = [] := rfl
  rw [List.append_nil, nothing, List.append_nil] at counts
  rw [swallowed, swallowed, counts, nothing, intercalate_cons_led, intercalate_cons_led, led_nil,
    trimChars_append_blank (led_blank blank), List.append_nil]

/-! ## One delimiter line and two -/

/-- What is read of lines, of one place and of the sections behind it. -/
def readAround (before : List (List Char)) (here : Option Sample) (after : List (List (List Char))) :
    Except Fault (List Sample) := do
  let earlier ← readSections (sections false before)
  let later ← readSections after
  return earlier ++ here.toList ++ later

theorem readAround_cons {here : Option Sample} (answer : sectionSample? s = .ok here) :
    readAround before none (s :: ss) = readAround before here ss := by
  simp [readAround, readSections, collect_cons, answer]

theorem readAround_eq_ok_iff {here : Option Sample} {samples : List Sample} :
    readAround before here ss = .ok samples ↔ ∃ earlier later,
      readSections (sections false before) = .ok earlier ∧ readSections ss = .ok later ∧
        samples = earlier ++ here.toList ++ later := by
  simp only [readAround, bind_eq_ok_iff, pure_eq_ok, Except.ok.injEq, eq_comm (a := samples)]
  constructor
  · rintro ⟨earlier, first, later, rest, whole⟩
    exact ⟨earlier, later, first, rest, whole⟩
  · rintro ⟨earlier, later, first, rest, whole⟩
    exact ⟨earlier, first, later, rest, whole⟩

/-- Together with a delimiter line before it a section says something else, and the rest of the file stays. -/
theorem readAround_swallowed {samples : List Sample} (h : isDelimiter delimiter = true)
    (answer : readAround before none (s :: ss) = .ok samples) : ∃ earlier here later,
      sectionSample? s = .ok here ∧ samples = earlier ++ here.toList ++ later ∧
      readAround before (some (swallowed delimiter s)) ss = .ok (earlier ++ swallowed delimiter s :: later) ∧
      readAround before (some (swallowed delimiter s)) ss ≠ .ok samples := by
  obtain ⟨here, first⟩ : ∃ here, sectionSample? s = .ok here := by
    obtain ⟨-, later, -, behind, -⟩ := readAround_eq_ok_iff.1 answer
    rw [readSections, collect_cons] at behind
    obtain ⟨here, first, -⟩ := bind_eq_ok_iff.1 behind
    exact ⟨here, first⟩
  rw [readAround_cons first] at answer
  obtain ⟨earlier, later, ahead, behind, rfl⟩ := readAround_eq_ok_iff.1 answer
  have other : readAround before (some (swallowed delimiter s)) ss =
      .ok (earlier ++ swallowed delimiter s :: later) :=
    readAround_eq_ok_iff.2 ⟨earlier, later, ahead, behind, by simp⟩
  refine ⟨earlier, here, later, first, rfl, other, fun same => ?_⟩
  have same := Except.ok.inj (other.symm.trans same)
  cases here with
  | none => simp at same
  | some sample => exact ne_swallowed h first (by simpa using same.symm)

/-- **What a delimiter line does to a file.**  Where it cuts, the lines before it and those behind it are read
apart.  Just after a cut it is text, together with the section behind it. -/
theorem readSections_delimiter (h : isDelimiter delimiter = true) (next : sections false after = s :: ss) :
    readSections (sections false (before ++ delimiter :: after)) =
      if hasJustCut false before then readAround before (some (swallowed delimiter s)) ss
      else readAround before none (sections true after) := by
  obtain ⟨earlier, last, split, longer, blank⟩ := sections_append false before
  rw [longer]
  cases now : hasJustCut false before with
  | true =>
      have text : sectionSample? (last ++ delimiter :: s) = .ok (some (swallowed delimiter s)) := by
        rw [sectionSample?_blank_append (blank now).1, sectionSample?_delimiter h]
      rw [if_pos rfl, readAround, split, readSections_concat_of_blank (blank now).1, sections_swallowed h,
        next, List.modifyHead_cons, List.modifyHead_cons, readSections_append, readSections, readSections,
        collect_cons, text]
      simp [readSections]
  | false =>
      rw [if_neg (by simp), readAround, split, sections_delimiter h, List.modifyHead_cons, List.append_nil,
        List.append_cons, readSections_append]
      simp

/-- **A delimiter line written twice is no empty block.**  Where the line cuts the file, the second one is
text and takes along the whole section behind it; where it is text itself, the second one cuts.  So a file
that cuts there and does not go on with another delimiter line never says the same: what the next section
says, if anything, gives way to one sample of its whole text with the default label. -/
theorem doubled_delimiter (file : fileLines content = before ++ delimiter :: after)
    (doubled : fileLines content' = before ++ delimiter' :: (space ++ delimiter'' :: after))
    (h : isDelimiter delimiter = true) (h' : isDelimiter delimiter' = true)
    (h'' : isDelimiter delimiter'' = true) (blank : ∀ line ∈ space, isBlankLine line = true) :
    ∃ s ss, sections false after = s :: ss ∧
      (hasJustCut false before = true →
        parse content = readAround before (some (swallowed delimiter s)) ss ∧
          parse content' = readAround before (some (swallowed delimiter' [])) (sections true after)) ∧
      (hasJustCut false before = false →
        parse content = readAround before none (sections true after) ∧
          parse content' = readAround before (some (swallowed delimiter'' s)) ss ∧
          ((∀ line ∈ after.find? (!isBlankLine ·), isDelimiter line = false) →
            ∀ samples, parse content = .ok samples → ∃ earlier here later,
              sectionSample? s = .ok here ∧ samples = earlier ++ here.toList ++ later ∧
              parse content' = .ok (earlier ++ swallowed delimiter'' s :: later) ∧
              parse content' ≠ .ok samples)) := by
  obtain ⟨s, ss, next⟩ := List.exists_cons_of_ne_nil (sections_ne_nil false after)
  rw [parse_eq content, parse_eq content', file, doubled, readSections_delimiter h next]
  refine ⟨s, ss, next, fun now => ?_, fun cuts => ?_⟩
  · -- the first of the two is text, with the blank lines up to the second
    have next' : sections false (space ++ delimiter'' :: after) = space :: sections true after := by
      rw [sections_blank_append blank, sections_delimiter h'']
      simp
    rw [if_pos now, readSections_delimiter h' next', if_pos now, swallowed_blank blank]
    exact ⟨rfl, rfl⟩
  · have text : sectionSample? (space ++ delimiter'' :: s) = .ok (some (swallowed delimiter'' s)) := by
      rw [sectionSample?_blank_append blank, sectionSample?_delimiter h'']
    have next' : sections true (space ++ delimiter'' :: after) = (space ++ delimiter'' :: s) :: ss := by
      rw [sections_blank_append blank, sections_swallowed h'', next]
      rfl
    obtain ⟨s', ss', following⟩ :=
      List.exists_cons_of_ne_nil (sections_ne_nil false (space ++ delimiter'' :: after))
    rw [if_neg (by simp [cuts]), readSections_delimiter h' following, if_neg (by simp [cuts]), next',
      readAround_cons text]
    refine ⟨rfl, rfl, fun plain samples answer => readAround_swallowed h'' ?_⟩
    rwa [sections_eq_of_find? plain, next] at answer

/-- A file of two samples, with the line between them written twice and a blank line between. -/
theorem second_delimiter_is_text :
    let before := ["expected: BIAS".toList, [], "Obviously taxes are theft.".toList]
    let after := ["expected: FALLACY".toList, [], "By that logic we ban all books.".toList]
    let content := "expected: BIAS\n\nObviously taxes are theft.\n---\n" ++
      "expected: FALLACY\n\nBy that logic we ban all books."
    let content' := "expected: BIAS\n\nObviously taxes are theft.\n---\n\n ---\n" ++
      "expected: FALLACY\n\nBy that logic we ban all books."
    fileLines content = before ++ "---".toList :: after ∧
      fileLines content' = before ++ "---".toList :: ([[]] ++ " ---".toList :: after) ∧
      hasJustCut false before = false ∧
      parse content' = .ok [
        { text := "Obviously taxes are theft.", expected := .bias, subtype := none, source := "unknown",
          notes := "" },
        { text := "---\nexpected: FALLACY\n\nBy that logic we ban all books.", expected := .affirmation,
          subtype := none, source := "unknown", notes := "" }] := by
  intro before after content content'
  have file : fileLines content = before ++ "---".toList :: after := by decide +kernel
  have doubled : fileLines content' = before ++ "---".toList :: ([[]] ++ " ---".toList :: after) := by
    decide +kernel
  have cuts : hasJustCut false before = false := by decide +kernel
  obtain ⟨s, ss, next, -, apart⟩ := doubled_delimiter file doubled (by decide +kernel) (by decide +kernel)
    (by decide +kernel) (by decide +kernel)
  obtain ⟨rfl, rfl⟩ := List.cons.inj ((show sections false after = [after] by decide +kernel).symm.trans next)
  refine ⟨file, doubled, cuts, ?_⟩
  rw [(apart cuts).2.1]
  rfl

/-- **A second delimiter line before a sample loses its label.** -/
theorem second_delimiter_loses_label :
    let after := ["expected: FALLACY".toList, [], "By that logic we ban all books.".toList, "---".toList, []]
    let content := "---\nexpected: FALLACY\n\nBy that logic we ban all books.\n---\n"
    let content' := "---\n---\nexpected: FALLACY\n\nBy that logic we ban all books.\n---\n"
    fileLines content = "---".toList :: after ∧ fileLines content' = "---".toList :: "---".toList :: after ∧
      isDelimiter "---".toList = true ∧
      parse content = .ok [{
        text := "By that logic we ban all books."
        expected := .fallacy
        subtype := none
        source := "unknown"
        notes := "" }] ∧
      parse content' = .ok [{
        text := "---\nexpected: FALLACY\n\nBy that logic we ban all books."
        expected := .affirmation
        subtype := none
        source := "unknown"
        notes := "" }] := by
  refine ⟨by decide +kernel, by decide +kernel, by decide +kernel, ?_, ?_⟩ <;> rfl

end Deliberation.Corpus
