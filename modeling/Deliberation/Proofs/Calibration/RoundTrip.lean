/-
# Proofs.Calibration.RoundTrip -- what is written is read back

`Corpus.write` writes a file of samples that `Corpus.parse` reads back as they were
(`parse_written`).  A block of the file is made of header lines, an empty line and the lines of the text
(`bodyLines`); no delimiter begins inside it, so the file is cut between blocks, and each of them is read
alone (`sample?_body`).  The empty line does not end the headers.  What does is the first line of the
text, which must not look like a header itself.

A sample without a subtype is written without that header, and so is one whose subtype is empty; both are
read back without a subtype.
-/
import Deliberation.Proofs.Calibration.Delimiters
import Deliberation.Proofs.Fallible

set_option autoImplicit false

namespace Deliberation

open Text

namespace Corpus

/-! ## Samples that can be written -/

/-- A value that stands in a header line as it is. -/
structure IsHeaderValue (value : String) : Prop where
  oneLine : '\n' ∉ value.toList
  noReturn : '\r' ∉ value.toList
  trimmed : trim value = value

end Corpus

open Corpus

/-- A sample that can be told from its written form. -/
structure Sample.IsWritable (s : Sample) : Prop where
  notBlank : isBlankText s.text = false
  trimmed : trim s.text = s.text
  noReturn : '\r' ∉ s.text.toList
  /-- The text does not begin with a header line. -/
  firstLine : ∀ line ∈ (lines s.text).head?, header? (trimChars line.toList) = none
  /-- No line of the text is a delimiter or a comment. -/
  plain : ∀ line ∈ lines s.text, trim line ≠ "---" ∧ isComment line.toList = false
  subtype : ∀ value ∈ s.subtype, IsHeaderValue value ∧ lower value = value
  source : IsHeaderValue s.source
  sourceNamed : s.source ≠ ""
  notes : IsHeaderValue s.notes

/-- The sample with no subtype in place of an empty one. -/
def Sample.withoutEmptySubtype (s : Sample) : Sample :=
  { s with subtype := s.subtype.filter (· ≠ "") }

namespace Corpus

variable {s : Sample} {samples : List Sample} {header : String × String}

theorem trimChars_toList_iff {text : String} :
    trim text = text ↔ trimChars text.toList = text.toList := by
  rw [trim, ← String.toList_inj, String.toList_ofList]

/-! ## Headers -/

/-- The headers of a sample that are not empty. -/
def headers (s : Sample) : List (String × String) :=
  [("expected", s.expected.label), ("subtype", s.subtype.getD ""), ("source", s.source),
    ("notes", s.notes)].filter fun header => header.2 ≠ ""

/-- A header line. -/
def headerChars (header : String × String) : List Char :=
  header.1.toList ++ ':' :: ' ' :: header.2.toList

/-- A header that can be written. -/
structure IsHeader (header : String × String) : Prop where
  known : header.1 ∈ headerNames
  value : IsHeaderValue header.2
  notEmpty : header.2 ≠ ""

theorem isHeader_of_mem (writable : s.IsWritable) (member : header ∈ headers s) : IsHeader header := by
  obtain ⟨member, notEmpty⟩ := List.mem_filter.1 member
  have label : IsHeaderValue s.expected.label := by
    cases s.expected <;> exact ⟨by decide, by decide, by decide⟩
  have empty : IsHeaderValue "" := ⟨by decide, by decide, by decide⟩
  have subtype : IsHeaderValue (s.subtype.getD "") := by
    cases h : s.subtype with
    | none => exact empty
    | some value => exact (writable.subtype value h).1
  simp only [List.mem_cons, List.not_mem_nil, or_false] at member
  rcases member with rfl | rfl | rfl | rfl
  · exact ⟨by simp [headerNames], label, by simpa using notEmpty⟩
  · exact ⟨by simp [headerNames], subtype, by simpa using notEmpty⟩
  · exact ⟨by simp [headerNames], writable.source, by simpa using notEmpty⟩
  · exact ⟨by simp [headerNames], writable.notes, by simpa using notEmpty⟩

/-- A line with a known name, a colon and a value is a header line if no earlier name fits it. -/
theorem header?_eq_some (before : List String) {after : List String} {name : String}
    {line rest : List Char}
    (names : headerNames = before ++ name :: after)
    (others : ∀ other ∈ before,
      (line.take other.length).map caseKey ≠ other.toList.map caseKey)
    (written : line.take name.length = name.toList)
    (colon : (line.drop name.length).dropWhile isBlank = ':' :: rest)
    (notNil : trimChars rest ≠ []) :
    header? line = some (lower name, String.ofList (trimChars rest)) := by
  rw [header?, List.findSome?_eq_some_iff]
  refine ⟨before, name, after, names, ?_, ?_⟩
  · simp [colon, written, notNil]
  · intro other member
    dsimp only
    split
    · exact if_neg fun h => others other member h.1
    · rfl

namespace IsHeader

/-- A header name begins with a letter and holds no line end. -/
theorem name_spec (h : IsHeader header) : ∃ c cs, header.1.toList = c :: cs ∧ isBlank c = false ∧
    c ≠ '#' ∧ c ≠ '-' ∧ '\n' ∉ header.1.toList ∧ '\r' ∉ header.1.toList := by
  have known := h.known
  simp only [headerNames, List.mem_cons, List.not_mem_nil, or_false] at known
  rcases known with same | same | same | same <;> rw [same] <;>
    exact ⟨_, _, rfl, by decide, by decide, by decide, by decide, by decide⟩

theorem trimChars_headerChars (h : IsHeader header) :
    trimChars (headerChars header) = headerChars header := by
  obtain ⟨c, cs, name, notBlank, -⟩ := h.name_spec
  have trimmed := trimChars_toList_iff.1 h.value.trimmed
  have notNil : header.2.toList ≠ [] := by simpa using h.notEmpty
  rw [trimChars_eq_self_iff] at trimmed ⊢
  constructor
  · simp [headerChars, name, notBlank]
  · intro last member
    apply trimmed.2
    rwa [headerChars, List.getLast?_append_cons, List.getLast?_cons_cons,
      ← List.singleton_append, List.getLast?_append_of_ne_nil _ notNil] at member

theorem header?_headerChars (h : IsHeader header) : header? (headerChars header) = some header := by
  obtain ⟨known, ⟨-, -, trimmed⟩, notEmpty⟩ := h
  rw [trimChars_toList_iff] at trimmed
  obtain ⟨name, value⟩ := header
  have colon : isBlank ':' = false := by decide
  have value' : trimChars (' ' :: value.toList) = value.toList :=
    (trimChars_cons_of_blank (by decide)).trans trimmed
  have notNil : trimChars (' ' :: value.toList) ≠ [] := by simpa [value'] using notEmpty
  have n_e : caseKey 'n' ≠ caseKey 'e' := by decide
  have n_s : caseKey 'n' ≠ caseKey 's' := by decide
  have s_e : caseKey 's' ≠ caseKey 'e' := by decide
  have o_u : caseKey 'o' ≠ caseKey 'u' := by decide
  have lengths : "expected".length = 8 ∧ "subtype".length = 7 ∧ "source".length = 6 ∧
    "notes".length = 5 := by decide
  simp only [headerNames, List.mem_cons, List.not_mem_nil, or_false] at known
  have read {name : String} (lowerCase : lower name = name) :
      some (lower name, String.ofList (trimChars (' ' :: value.toList))) = some (name, value) := by
    rw [value', lowerCase, String.ofList_toList]
  rcases known with rfl | rfl | rfl | rfl
  · refine (header?_eq_some [] rfl (by simp) ?_ ?_ notNil).trans (read (by decide)) <;>
      simp [headerChars, lengths, colon]
  · refine (header?_eq_some ["expected"] rfl ?_ ?_ ?_ notNil).trans (read (by decide)) <;>
      simp [headerChars, lengths, colon, s_e]
  · refine (header?_eq_some ["expected", "subtype"] rfl ?_ ?_ ?_ notNil).trans (read (by decide)) <;>
      simp [headerChars, lengths, colon, s_e, o_u]
  · refine (header?_eq_some ["expected", "subtype", "source"] rfl ?_ ?_ ?_ notNil).trans
        (read (by decide)) <;>
      simp [headerChars, lengths, colon, n_e, n_s]

end IsHeader

/-! ## Bodies -/

/-- The lines of a text. -/
def textLines (s : Sample) : List (List Char) := splitChars (· == '\n') s.text.toList

/-- The lines of a sample after its delimiter. -/
def bodyLines (s : Sample) : List (List Char) := (headers s).map headerChars ++ [] :: textLines s

theorem mem_bodyLines {line : List Char} (member : line ∈ bodyLines s) :
    (∃ header ∈ headers s, line = headerChars header) ∨ line = [] ∨ line ∈ textLines s := by
  rcases List.mem_append.1 member with h | h
  · obtain ⟨header, written, rfl⟩ := List.mem_map.1 h
    exact .inl ⟨header, written, rfl⟩
  · exact .inr (List.mem_cons.1 h)

/-- What the lines of a text that can be written are like. -/
theorem textLines_plain (writable : s.IsWritable) {line : List Char} (member : line ∈ textLines s) :
    trimChars line ≠ "---".toList ∧ isComment line = false := by
  have plain := writable.plain (String.ofList line) (List.mem_map_of_mem member)
  rw [trim, String.toList_ofList, ← String.toList_inj.ne, String.toList_ofList] at plain
  exact plain

/-- The first line of a text that can be written begins with what the text begins with. -/
theorem textLines_begins (writable : s.IsWritable) : ∃ c cs rest, textLines s = (c :: cs) :: rest ∧
    isBlank c = false := by
  have begins := (trimChars_eq_self_iff.1 (trimChars_toList_iff.1 writable.trimmed)).1
  have notBlank := writable.notBlank
  unfold textLines
  cases text : s.text.toList with
  | nil => simp [isBlankText, text] at notBlank
  | cons c cs =>
      rw [text] at begins
      have first : isBlank c = false := begins c rfl
      have other : c ≠ '\n' := by
        rintro rfl
        exact absurd first (by decide)
      obtain ⟨piece, rest, split, -⟩ := splitChars_go (· == '\n') cs []
      exact ⟨c, piece, rest, splitChars_cons_of_ne other split, first⟩

/-- The last line of a text that can be written is not blank. -/
theorem textLines_ends (writable : s.IsWritable) :
    ∀ line ∈ (textLines s).getLast?, ¬∀ c ∈ line, isBlank c = true := by
  have ends := (trimChars_eq_self_iff.1 (trimChars_toList_iff.1 writable.trimmed)).2
  have joined := intercalate_splitChars '\n' s.text.toList
  obtain ⟨c, cs, rest, begins, notBlank⟩ := textLines_begins writable
  intro line member blank
  rw [textLines] at begins member
  rcases List.eq_nil_or_concat' (splitChars (· == '\n') s.text.toList) with none | ⟨before, last, all⟩
  · exact splitChars_ne_nil _ _ none
  · obtain rfl : last = line := by simpa [all] using member
    rw [all, intercalate_append _ _ (by simp)] at joined
    simp only [List.intercalate, List.intersperse, List.flatten_cons, List.flatten_nil,
      List.append_nil] at joined
    rw [← joined] at ends
    by_cases empty : last = []
    · -- then the text ends with a line feed
      subst empty
      rcases List.eq_nil_or_concat' before with rfl | ⟨before, previous, rfl⟩
      · simp [all] at begins
      · exact absurd (ends '\n' (by simp)) (by decide)
    · obtain ⟨d, hd⟩ : ∃ d, last.getLast? = some d := by
        cases h : last.getLast? with
        | none => exact absurd (List.getLast?_eq_none_iff.1 h) empty
        | some d => exact ⟨d, rfl⟩
      have := ends d (by rw [List.getLast?_append_of_ne_nil _ empty]; exact hd)
      rw [blank d (List.mem_of_getLast? hd)] at this
      exact Bool.noConfusion this

theorem isPlain_of_mem (writable : s.IsWritable) {line : List Char} (member : line ∈ bodyLines s) :
    IsPlain line ∧ isComment line = false := by
  rcases mem_bodyLines member with ⟨header, hmember, rfl⟩ | rfl | text
  · have h := isHeader_of_mem writable hmember
    obtain ⟨c, cs, name, -, notHash, notHyphen, noLineFeed, -⟩ := h.name_spec
    refine ⟨⟨?_, ?_⟩, ?_⟩
    · simp [headerChars, noLineFeed, h.value.oneLine]
    · rw [h.trimChars_headerChars, headerChars, name]
      simpa using fun same => absurd same notHyphen
    · rw [isComment, h.trimChars_headerChars, headerChars, name]
      simpa using notHash
  · exact ⟨⟨by simp, by decide⟩, by decide⟩
  · obtain ⟨notHyphens, notComment⟩ := textLines_plain writable text
    exact ⟨⟨not_mem_of_mem_splitChars text, notHyphens⟩, notComment⟩

theorem headers_eq_cons (s : Sample) : ∃ rest, headers s = ("expected", s.expected.label) :: rest := by
  have label : s.expected.label ≠ "" := by cases s.expected <;> decide
  exact ⟨_, List.filter_cons_of_pos (by simpa using label)⟩

theorem isBlock_bodyLines (writable : s.IsWritable) : IsBlock (bodyLines s) where
  plain line member := (isPlain_of_mem writable member).1
  begins := by
    obtain ⟨rest, headers⟩ := headers_eq_cons s
    exact ⟨'e', "xpected".toList ++ ':' :: ' ' :: s.expected.label.toList,
      rest.map headerChars ++ [] :: textLines s, by simp [bodyLines, headers, headerChars], by decide⟩
  ends := by
    obtain ⟨c, cs, rest, begins, -⟩ := textLines_begins writable
    have ends := textLines_ends writable
    rwa [bodyLines, List.getLast?_append_cons, begins, List.getLast?_cons_cons, ← begins]

/-! ## One block -/

theorem splitHeaders_headers {headers : List (String × String)} (h : ∀ x ∈ headers, IsHeader x)
    (before : List (String × String)) (rest : List (List Char)) :
    splitHeaders before (headers.map headerChars ++ rest) =
      splitHeaders (headers.reverse ++ before) rest := by
  induction headers generalizing before with
  | nil => rfl
  | cons header headers ih =>
      simp only [List.forall_mem_cons] at h
      rw [List.map_cons, List.cons_append, splitHeaders, h.1.trimChars_headerChars,
        h.1.header?_headerChars]
      simp only
      rw [ih h.2]
      simp

theorem splitHeaders_bodyLines (writable : s.IsWritable) :
    splitHeaders [] (bodyLines s) = ((headers s).reverse, textLines s) := by
  obtain ⟨c, cs, rest, lines, notBlank⟩ := textLines_begins writable
  have first : header? (trimChars (c :: cs)) = none := by
    have := writable.firstLine (String.ofList (c :: cs))
    rw [Text.lines, show splitChars (· == '\n') s.text.toList = (c :: cs) :: rest from lines,
      String.toList_ofList] at this
    exact this rfl
  have notEmpty : (trimChars (c :: cs)).isEmpty = false := by
    rw [List.isEmpty_eq_false_iff, Ne, trimChars_eq_nil_iff]
    intro blank
    exact Bool.noConfusion (notBlank.symm.trans (blank c List.mem_cons_self))
  have nothing : header? (trimChars []) = none := by decide
  rw [bodyLines, splitHeaders_headers fun x hx => isHeader_of_mem writable hx, List.append_nil, lines]
  simp only [splitHeaders, nothing, first, notEmpty]
  rfl

theorem kindOfLabel_label (kind : FeedbackKind) : kindOfLabel kind.label = .ok kind := by
  cases kind <;> decide

/-- What the headers of a sample say of it. -/
theorem lookup_headers (writable : s.IsWritable) :
    ((headers s).reverse.lookup "expected").getD FeedbackKind.affirmation.label = s.expected.label ∧
    ((headers s).reverse.lookup "subtype").map lower = s.withoutEmptySubtype.subtype ∧
    ((headers s).reverse.lookup "source").getD "unknown" = s.source ∧
    ((headers s).reverse.lookup "notes").getD "" = s.notes := by
  have label : s.expected.label ≠ "" := by cases s.expected <;> decide
  have source := writable.sourceNamed
  have subtype := writable.subtype
  cases written : s.subtype with
  | none =>
      by_cases notes : s.notes = "" <;>
        simp [headers, written, label, source, notes, Sample.withoutEmptySubtype,
          List.lookup_cons]
  | some value =>
      have lowerCase : lower value = value := (subtype value written).2
      by_cases empty : value = "" <;> by_cases notes : s.notes = "" <;>
        simp [headers, written, label, source, notes, empty, lowerCase, Sample.withoutEmptySubtype,
          List.lookup_cons, Option.filter]

theorem sample?_body (writable : s.IsWritable) :
    sample? (List.intercalate ['\n'] (bodyLines s)) = .ok (some s.withoutEmptySubtype) := by
  have lines : splitChars (· == '\n') (List.intercalate ['\n'] (bodyLines s)) = bodyLines s :=
    splitChars_intercalate (isBlock_bodyLines writable).ne_nil
      fun line member => (isPlain_of_mem writable member).1.oneLine
  have counted : (bodyLines s).filter (fun line => !isComment line) = bodyLines s := by
    rw [List.filter_eq_self]
    intro line member
    simp [(isPlain_of_mem writable member).2]
  have text : trimChars (List.intercalate ['\n'] (textLines s)) = s.text.toList := by
    rw [textLines, intercalate_splitChars]
    exact trimChars_toList_iff.1 writable.trimmed
  obtain ⟨expected, subtype, source, notes⟩ := lookup_headers writable
  have notEmpty : s.text.toList.isEmpty = false := by
    obtain ⟨c, cs, rest, begins, -⟩ := textLines_begins writable
    rw [List.isEmpty_eq_false_iff]
    intro empty
    simp [textLines, empty, splitChars, splitChars.go] at begins
  simp only [sample?, lines, counted, splitHeaders_bodyLines writable, text, notEmpty,
    Bool.false_eq_true, if_false, expected, subtype, source, notes, kindOfLabel_label,
    String.ofList_toList]
  rfl

/-! ## A whole file -/

theorem headerLine_toList (header : String × String) : (headerLine header.1 header.2).toList =
    if header.2 = "" then [] else headerChars header ++ ['\n'] := by
  obtain ⟨name, value⟩ := header
  by_cases empty : value = ""
  · simp [headerLine, empty]
  · simp [headerLine, headerChars, empty]

/-- Header lines are written for the headers that are not empty. -/
theorem flatten_headerLines (headers : List (String × String)) :
    ((headers.filter fun header => header.2 ≠ "").map (headerChars · ++ ['\n'])).flatten =
      (headers.map fun header => (headerLine header.1 header.2).toList).flatten := by
  induction headers with
  | nil => rfl
  | cons header headers ih =>
      rw [List.map_cons, List.flatten_cons, headerLine_toList, ← ih]
      by_cases empty : header.2 = "" <;> simp [empty]

theorem intercalate_bodyLines (s : Sample) : List.intercalate ['\n'] (bodyLines s) =
    ((headers s).map (headerChars · ++ ['\n'])).flatten ++ '\n' :: s.text.toList := by
  rw [bodyLines, intercalate_append _ _ (by simp), List.map_map, textLines,
    intercalate_cons _ _ (splitChars_ne_nil _ _), intercalate_splitChars]
  rfl

theorem writeSample_toList (s : Sample) : (writeSample s).toList =
    '-' :: '-' :: '-' :: '\n' :: (List.intercalate ['\n'] (bodyLines s) ++ ['\n']) := by
  rw [intercalate_bodyLines, headers, flatten_headerLines]
  simp [writeSample]

theorem written_toList (samples : List Sample) {closing : String} {ending : List Char}
    (closed : closing.toList = '-' :: '-' :: '-' :: ending) :
    (String.join (samples.map writeSample) ++ closing).toList =
      fileOf ending (samples.map bodyLines) := by
  rw [String.toList_append, String.toList_join, List.flatMap_map, closed]
  induction samples with
  | nil => rfl
  | cons s samples ih =>
      rw [List.flatMap_cons, List.append_assoc, ih, writeSample_toList, List.map_cons, fileOf]
      simp

/-- A written file has no carriage return. -/
theorem noReturn_fileOf {ending : List Char} (h : '\r' ∉ ending)
    (writable : ∀ s ∈ samples, s.IsWritable) : '\r' ∉ fileOf ending (samples.map bodyLines) := by
  induction samples with
  | nil => simpa [fileOf] using h
  | cons s samples ih =>
      simp only [List.forall_mem_cons] at writable
      have body : '\r' ∉ List.intercalate ['\n'] (bodyLines s) := by
        rw [intercalate_bodyLines, List.mem_append, List.mem_flatten]
        rintro (⟨line, member, inside⟩ | text)
        · obtain ⟨header, written, rfl⟩ := List.mem_map.1 member
          have h := isHeader_of_mem writable.1 written
          obtain ⟨_, _, -, -, -, -, -, name⟩ := h.name_spec
          simp [headerChars, name, h.value.noReturn] at inside
        · simp [writable.1.noReturn] at text
      simpa [fileOf, body] using ih writable.2

/-- A block of a sample is kept as it is. -/
theorem trimChars_body (writable : s.IsWritable) :
    trimChars (List.intercalate ['\n'] (bodyLines s)) = List.intercalate ['\n'] (bodyLines s) := by
  obtain ⟨begins, ends⟩ := trimChars_eq_self_iff.1 (trimChars_toList_iff.1 writable.trimmed)
  have notNil : s.text.toList ≠ [] := by
    intro empty
    simpa [isBlankText, empty] using writable.notBlank
  obtain ⟨rest, headers⟩ := headers_eq_cons s
  rw [trimChars_eq_self_iff, intercalate_bodyLines]
  constructor
  · have notBlank : isBlank 'e' = false := by decide
    simp [headers, headerChars, notBlank]
  · rwa [List.getLast?_append_cons, ← List.singleton_append, List.getLast?_append_of_ne_nil _ notNil]

theorem head?_body (s : Sample) : (List.intercalate ['\n'] (bodyLines s)).head? = some 'e' := by
  obtain ⟨rest, headers⟩ := headers_eq_cons s
  simp [intercalate_bodyLines, headers, headerChars]

/-- Of the stretches between delimiters the bodies of the samples count. -/
theorem filter_blocks (writable : ∀ s ∈ samples, s.IsWritable) :
    ((([] :: (samples.map fun s => List.intercalate ['\n'] (bodyLines s)) ++ [[]]).map trimChars).filter
      fun block => !block.isEmpty && block.head? ≠ some '#') =
        samples.map fun s => List.intercalate ['\n'] (bodyLines s) := by
  have kept : ((samples.map fun s => List.intercalate ['\n'] (bodyLines s)).map trimChars) =
      samples.map fun s => List.intercalate ['\n'] (bodyLines s) := by
    rw [List.map_map]
    exact List.map_congr_left fun s member => trimChars_body (writable s member)
  have nothing : trimChars [] = [] := rfl
  rw [List.map_append, List.map_cons, kept, List.map_singleton, nothing, List.filter_append,
    List.filter_cons_of_neg (by simp), List.filter_cons_of_neg (by simp), List.filter_nil,
    List.append_nil, List.filter_eq_self]
  intro block member
  obtain ⟨s, -, rfl⟩ := List.mem_map.1 member
  have head := head?_body s
  have notNil : List.intercalate ['\n'] (bodyLines s) ≠ [] := by
    intro empty
    simp [empty] at head
  simp [head, notNil]

theorem mapM_sample? (writable : ∀ s ∈ samples, s.IsWritable) :
    (samples.map fun s => List.intercalate ['\n'] (bodyLines s)).mapM sample? =
      .ok (samples.map fun s => some s.withoutEmptySubtype) := by
  rw [mapM_eq_ok_iff, List.forall₂_map_left_iff, List.forall₂_map_right_iff]
  exact List.forall₂_same.2 fun s member => sample?_body (writable s member)

theorem withoutEmptySubtype_eq_self (named : s.subtype ≠ some "") : s.withoutEmptySubtype = s := by
  obtain ⟨text, expected, subtype, source, notes⟩ := s
  cases subtype with
  | none => rfl
  | some value =>
      have notEmpty : value ≠ "" := fun empty => named (congrArg some empty)
      simp [Sample.withoutEmptySubtype, Option.filter, notEmpty]

/-- **What is written is read back**, whether or not the last line ends: the samples in their order with
their texts, labels, subtypes, sources and notes. -/
theorem parse_written {closing : String} (closed : closing = "---" ∨ closing = "---\n")
    (writable : ∀ s ∈ samples, s.IsWritable) :
    parse (String.join (samples.map writeSample) ++ closing) =
        .ok (samples.map Sample.withoutEmptySubtype) ∧
      ((∀ s ∈ samples, s.subtype ≠ some "") →
        parse (String.join (samples.map writeSample) ++ closing) = .ok samples) := by
  have read : parse (String.join (samples.map writeSample) ++ closing) =
      .ok (samples.map Sample.withoutEmptySubtype) := by
    obtain ⟨ending, written, ended⟩ : ∃ ending, closing.toList = '-' :: '-' :: '-' :: ending ∧
        (ending = [] ∨ ending = ['\n']) := by
      rcases closed with rfl | rfl
      · exact ⟨[], by decide, .inl rfl⟩
      · exact ⟨['\n'], by decide, .inr rfl⟩
    have noReturn : '\r' ∉ ending := by rcases ended with rfl | rfl <;> decide
    have cut : blocks (fileOf ending (samples.map bodyLines)) =
        [] :: (samples.map fun s => List.intercalate ['\n'] (bodyLines s)) ++ [[]] := by
      rw [blocks_fileOf ended, List.map_map]
      · rfl
      · simpa using fun s member => isBlock_bodyLines (writable s member)
    rw [parse, written_toList samples written, withLineFeeds_eq_self (noReturn_fileOf noReturn writable),
      parseLines, cut, filter_blocks writable, mapM_sample? writable]
    simp
  refine ⟨read, fun named => read.trans ?_⟩
  rw [List.map_congr_left fun s member => withoutEmptySubtype_eq_self (named s member), List.map_id']

/-- A text with an empty line, hyphens and something like a header inside, and a plain one. -/
def twoSamples : List Sample := [
  { text := "By that logic we ban all books.\n\nsource: mine --- and yours."
    expected := .fallacy
    subtype := some "strawman"
    source := "forum: topic 12"
    notes := "" },
  { text := "Libraries help."
    expected := .affirmation
    subtype := none
    source := "mail"
    notes := "short # plain" }]

theorem twoSamples_read_back : (∀ s ∈ twoSamples, s.IsWritable) ∧
    (∀ s ∈ twoSamples, s.subtype ≠ some "") ∧ parse (write twoSamples) = .ok twoSamples := by
  have writable : ∀ s ∈ twoSamples, s.IsWritable := by
    simp only [twoSamples, List.forall_mem_cons]
    refine ⟨?_, ?_, by simp⟩
    · refine ⟨by decide, by decide, by decide, by decide, by decide, ?_,
        ⟨by decide, by decide, by decide⟩, by decide, ⟨by decide, by decide, by decide⟩⟩
      rintro value ⟨⟩
      exact ⟨⟨by decide, by decide, by decide⟩, by decide⟩
    · exact ⟨by decide, by decide, by decide, by decide, by decide, by simp,
        ⟨by decide, by decide, by decide⟩, by decide, ⟨by decide, by decide, by decide⟩⟩
  have named : ∀ s ∈ twoSamples, s.subtype ≠ some "" := by decide
  exact ⟨writable, named, (parse_written (.inr rfl) writable).2 named⟩

end Corpus

end Deliberation
