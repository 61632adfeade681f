/-
# Proofs.Calibration.Comments -- comment lines and what they take along

Inside a section a comment line counts nowhere.  At its beginning, blank lines apart, it silences the whole
section.  So a file says what it says without its comment lines, less the samples of the sections that begin
with a comment (`comments_silence_sections`).  This holds where no two delimiter lines have nothing but blank
and comment lines between them: a comment line keeps the second one from being text.
-/
import Deliberation.Proofs.Calibration.Sections
import Mathlib.Data.List.Chain

set_option autoImplicit false

namespace Deliberation.Corpus

open Text

variable {line : List Char} {lines s : List (List Char)} {justCut justCut' : Bool} {content : String}

/-! ## Cutting without comment lines -/

/-- A line that says nothing. -/
def isQuiet (line : List Char) : Bool := isBlankLine line || isComment line

/-- Between any two delimiter lines stands a line that says something. -/
def DelimitersApart (lines : List (List Char)) : Prop :=
  (lines.filter (!isQuiet ·)).IsChain fun line next => ¬(isDelimiter line = true ∧ isDelimiter next = true)

instance (lines : List (List Char)) : Decidable (DelimitersApart lines) :=
  inferInstanceAs (Decidable (List.IsChain _ _))

theorem isQuiet_of_isDelimiter (delimiter : isDelimiter line = true) : isQuiet line = false := by
  rw [isQuiet, isBlankLine_of_isDelimiter delimiter, isComment_of_isDelimiter delimiter]
  rfl

theorem DelimitersApart.tail (apart : DelimitersApart (line :: lines)) : DelimitersApart lines := by
  unfold DelimitersApart at apart ⊢
  rw [List.filter_cons] at apart
  split at apart
  · exact apart.tail
  · exact apart

/-- Behind a delimiter line no other one is next. -/
theorem DelimitersApart.next (apart : DelimitersApart (line :: lines)) (delimiter : isDelimiter line = true) :
    ∀ next ∈ lines.find? (!isQuiet ·), isDelimiter next = false := by
  rw [DelimitersApart, List.filter_cons_of_pos (by simp [isQuiet_of_isDelimiter delimiter]),
    List.isChain_cons, List.head?_filter] at apart
  intro next found
  simpa [delimiter] using apart.1 next found

theorem map_uncommented_modifyHead (line : List Char) (ss : List (List (List Char))) :
    (ss.modifyHead (line :: ·)).map uncommented =
      if isComment line then ss.map uncommented else (ss.map uncommented).modifyHead (line :: ·) := by
  cases ss with
  | nil => cases isComment line <;> rfl
  | cons s ss => cases h : isComment line <;> simp [uncommented_cons, h]

/-- Without its comment lines a file is cut at the same places.  Whether a line has just cut it may be
otherwise, but no line hangs on that. -/
theorem sections_uncommented (apart : DelimitersApart lines)
    (next : justCut = true ∨ justCut' = true →
      ∀ line ∈ lines.find? (!isQuiet ·), isDelimiter line = false) :
    sections justCut' (uncommented lines) = (sections justCut lines).map uncommented := by
  induction lines generalizing justCut justCut' with
  | nil => rfl
  | cons line lines ih =>
      rw [uncommented_cons]
      cases delimiter : isDelimiter line with
      | true =>
          have comment := isComment_of_isDelimiter delimiter
          have cuts : justCut = false ∧ justCut' = false := by
            by_contra cut
            rw [List.find?_cons_of_pos (by simp [isQuiet_of_isDelimiter delimiter])] at next
            have first := next (by cases justCut <;> cases justCut' <;> simp_all) line rfl
            exact Bool.noConfusion (first.symm.trans delimiter)
          obtain ⟨rfl, rfl⟩ := cuts
          rw [if_neg (by simp [comment]), sections_delimiter delimiter, sections_delimiter delimiter,
            ih apart.tail fun _ => apart.next delimiter]
          rfl
      | false =>
          cases blank : isBlankLine line with
          | true =>
              have comment := isComment_of_isBlankLine blank
              rw [List.find?_cons_of_neg (by simp [isQuiet, blank])] at next
              rw [if_neg (by simp [comment]), sections_blank blank, sections_blank blank, ih apart.tail next,
                map_uncommented_modifyHead, if_neg (by simp [comment])]
          | false =>
              rw [sections_plain delimiter blank lines, map_uncommented_modifyHead]
              cases comment : isComment line with
              | true =>
                  rw [List.find?_cons_of_neg (by simp [isQuiet, comment])] at next
                  exact ih apart.tail fun either => next (either.imp_left fun none => Bool.noConfusion none)
              | false =>
                  have onward : sections false (uncommented lines) = (sections false lines).map uncommented :=
                    ih apart.tail (by simp)
                  rw [if_neg (by simp), if_neg (by simp), sections_plain delimiter blank, onward]

/-! ## Reading without comment lines -/

/-- A file without its comment lines. -/
def withoutComments (content : String) : String :=
  String.ofList (List.intercalate ['\n'] (uncommented (fileLines content)))

theorem linesSample?_uncommented (lines : List (List Char)) :
    linesSample? (uncommented lines) = linesSample? lines := by
  rw [linesSample?, linesSample?, uncommented, uncommented, List.filter_filter]
  simp

theorem beginsWithComment_uncommented (lines : List (List Char)) :
    beginsWithComment (uncommented lines) = false := by
  rw [beginsWithComment, Option.any_eq_false]
  intro line first
  simpa using List.of_mem_filter (List.mem_of_find?_eq_some first)

/-- Without its comment lines a file says what the lines of its sections say, those that begin with a comment
included. -/
theorem parse_withoutComments (apart : DelimitersApart (fileLines content)) :
    parse (withoutComments content) = collect linesSample? (sections false (fileLines content)) := by
  have cut : sections false (uncommented (fileLines content)) =
      (sections false (fileLines content)).map uncommented := sections_uncommented apart (by simp)
  have read : parse (withoutComments content) =
      readSections (sections false (uncommented (fileLines content))) := by
    by_cases notNil : uncommented (fileLines content) = []
    · rw [withoutComments, notNil]
      rfl
    · rw [parse_eq, withoutComments, fileLines_ofLines notNil]
      exact fun line member => oneLine_fileLines content line (List.mem_of_mem_filter member)
  rw [read, cut, readSections, collect_map]
  apply collect_congr
  intro s _
  rw [sectionSample?, beginsWithComment_uncommented, if_neg (by simp), linesSample?_uncommented]

/-- **Comment lines silence the sections they begin, and nothing else.**  Without its comment lines a file
says what all its sections say, with them what those say that begin with no comment.  So it says the same
where the others say nothing, and otherwise a part. -/
theorem comments_silence_sections (apart : DelimitersApart (fileLines content)) :
    parse (withoutComments content) = collect linesSample? (sections false (fileLines content)) ∧
      parse content = collect linesSample?
        ((sections false (fileLines content)).filter fun s => !beginsWithComment s) ∧
      ((∀ s ∈ sections false (fileLines content), beginsWithComment s = true → linesSample? s = .ok none) →
        parse content = parse (withoutComments content)) ∧
      ∀ samples, parse (withoutComments content) = .ok samples →
        ∃ kept, parse content = .ok kept ∧ kept.Sublist samples ∧ (kept = samples ↔
          ∀ s ∈ sections false (fileLines content),
            beginsWithComment s = true → linesSample? s = .ok none) := by
  have same (s : List (List Char)) : sectionSample? s = linesSample? s ↔
      (beginsWithComment s = true → linesSample? s = .ok none) := by
    cases begins : beginsWithComment s <;> simp [sectionSample?, begins, eq_comm]
  have either : ∀ s ∈ sections false (fileLines content),
      sectionSample? s = .ok none ∨ sectionSample? s = linesSample? s := by
    intro s _
    cases begins : beginsWithComment s <;> simp [sectionSample?, begins]
  rw [parse_withoutComments apart, parse_eq, readSections, collect_filter]
  refine ⟨rfl, collect_congr fun s _ => ?_,
    fun silent => collect_congr fun s member => (same s).2 (silent s member), fun samples answer => ?_⟩
  · cases begins : beginsWithComment s <;> simp [sectionSample?, begins]
  · obtain ⟨kept, read, part, whole⟩ := collect_sublist either answer
    exact ⟨kept, read, part, whole.trans (by simp only [same])⟩

/-- Comments before the first delimiter line, between headers and behind a text. -/
theorem inner_comments_pass :
    let content := "# header comment\n---\nexpected: FALLACY\n# a strawman\n\n" ++
      "By that logic we ban all books.\n# the end\n---\n"
    DelimitersApart (fileLines content) ∧
      (∀ s ∈ sections false (fileLines content), beginsWithComment s = true → linesSample? s = .ok none) ∧
      parse content = .ok [{
        text := "By that logic we ban all books."
        expected := .fallacy
        subtype := none
        source := "unknown"
        notes := "" }] := by
  intro content
  have apart : DelimitersApart (fileLines content) := by decide +kernel
  have silent : ∀ s ∈ sections false (fileLines content),
      beginsWithComment s = true → linesSample? s = .ok none := by decide +kernel
  refine ⟨apart, silent, ?_⟩
  rw [(comments_silence_sections apart).2.2.1 silent]
  decide +kernel

/-- **A comment above its headers loses a sample.** -/
theorem leading_comment_loses_sample :
    let content := "---\n# a strawman\nexpected: FALLACY\n\nBy that logic we ban all books.\n---\n"
    DelimitersApart (fileLines content) ∧
      withoutComments content = "---\nexpected: FALLACY\n\nBy that logic we ban all books.\n---\n" ∧
      parse content = .ok [] ∧
      parse (withoutComments content) = .ok [{
        text := "By that logic we ban all books."
        expected := .fallacy
        subtype := none
        source := "unknown"
        notes := "" }] := by
  refine ⟨by decide +kernel, by decide +kernel, ?_, ?_⟩ <;> rfl

end Deliberation.Corpus
