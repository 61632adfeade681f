/-
# Proofs.Calibration.Headers -- where the headers of a block end

The headers of a block go on until the first line that is neither blank nor a header line; what begins there
is the text (`sampleFrom_eq`).  A blank line does not end them.  So after header lines and an empty line a
text is taken as a whole exactly when its first line is no header line itself; otherwise its opening lines
join the headers, the last one of a name counts, and only the rest is the text (`headers_run_into_text`).

White space around a block does not change what it says (`sample?_trimChars`).
-/
import Deliberation.Calibration.Corpus
import Deliberation.Proofs.Fallible
import Deliberation.Proofs.Text.Lines

set_option autoImplicit false

namespace Deliberation.Corpus

open Text

variable {line last space block text : List Char} {lines headerLines : List (List Char)}
  {headers : List (String × String)} {header : String × String}

/-! ## Lines of a block -/

/-- A line of white space. -/
def isBlankLine (line : List Char) : Bool := line.all isBlank

/-- A line that does not begin the text: a header line or a blank one. -/
def isOpening (line : List Char) : Bool := (header? (trimChars line)).isSome || isBlankLine line

/-- The lines that count. -/
def uncommented (lines : List (List Char)) : List (List Char) := lines.filter fun line => !isComment line

/-- The headers that stand in lines. -/
def headersOf (lines : List (List Char)) : List (String × String) :=
  lines.filterMap fun line => header? (trimChars line)

@[simp] theorem headersOf_nil : headersOf [] = [] := rfl

@[simp] theorem headersOf_cons (line : List Char) (lines : List (List Char)) :
    headersOf (line :: lines) = (header? (trimChars line)).toList ++ headersOf lines := by
  rw [headersOf, List.filterMap_cons]
  cases header? (trimChars line) <;> rfl

theorem headersOf_append (lines rest : List (List Char)) :
    headersOf (lines ++ rest) = headersOf lines ++ headersOf rest := List.filterMap_append

theorem uncommented_cons (line : List Char) (lines : List (List Char)) : uncommented (line :: lines) =
    if isComment line then uncommented lines else line :: uncommented lines := by
  rw [uncommented, List.filter_cons]
  cases isComment line <;> rfl

theorem uncommented_append (lines rest : List (List Char)) :
    uncommented (lines ++ rest) = uncommented lines ++ uncommented rest := List.filter_append _ _

theorem isBlankLine_iff : isBlankLine line = true ↔ ∀ c ∈ line, isBlank c = true := List.all_eq_true

theorem isBlankLine_eq_false_iff : isBlankLine line = false ↔ ¬∀ c ∈ line, isBlank c = true := by
  rw [← isBlankLine_iff, Bool.not_eq_true]

theorem isBlankLine_iff_trimChars : isBlankLine line = true ↔ trimChars line = [] := by
  rw [isBlankLine_iff, trimChars_eq_nil_iff]

/-- A blank line is white space together with the line feed before it. -/
theorem blank_led_of_isBlankLine (blank : isBlankLine line = true) : ∀ c ∈ '\n' :: line, isBlank c = true :=
  List.forall_mem_cons.2 ⟨by decide, isBlankLine_iff.1 blank⟩

theorem header?_of_blank (blank : isBlankLine line = true) : header? (trimChars line) = none := by
  rw [isBlankLine_iff_trimChars.1 blank]
  decide

theorem isComment_of_isBlankLine (blank : isBlankLine line = true) : isComment line = false := by
  rw [isComment, isBlankLine_iff_trimChars.1 blank]
  rfl

theorem isOpening_of_blank (blank : isBlankLine line = true) : isOpening line = true := by
  simp [isOpening, blank]

/-! ## What lines say -/

/-- The sample with headers, the latest first, and a text. -/
def labelled (headers : List (String × String)) (text : List Char) : Except Fault Sample := do
  let kind ← kindOfLabel ((headers.lookup "expected").getD FeedbackKind.affirmation.label)
  return {
    text := String.ofList text
    expected := kind
    subtype := (headers.lookup "subtype").map lower
    source := (headers.lookup "source").getD "unknown"
    notes := (headers.lookup "notes").getD "" }

/-- The sample with headers and a text, unless the text is empty. -/
def sampleOf (headers : List (String × String)) (text : List Char) : Except Fault (Option Sample) :=
  if text.isEmpty then .ok none else some <$> labelled headers text

theorem text_of_labelled {s : Sample} (answer : some <$> labelled headers text = .ok (some s)) :
    s.text = String.ofList text := by
  obtain ⟨s', made, same⟩ := map_eq_ok_iff.1 answer
  obtain rfl := Option.some.inj same
  obtain ⟨kind, -, made⟩ := bind_eq_ok_iff.1 made
  obtain rfl := Except.ok.inj made
  rfl

theorem text_of_sampleOf {s : Sample} (answer : sampleOf headers text = .ok (some s)) :
    s.text = String.ofList text := by
  unfold sampleOf at answer
  split at answer
  · cases answer
  · exact text_of_labelled answer

/-- What lines without comments say after headers. -/
def sampleFrom (headers : List (String × String)) (lines : List (List Char)) :
    Except Fault (Option Sample) :=
  sampleOf (splitHeaders headers lines).1
    (trimChars (List.intercalate ['\n'] (splitHeaders headers lines).2))

theorem sample?_eq (block : List Char) :
    sample? block = sampleFrom [] (uncommented (splitChars (· == '\n') block)) := by
  rw [sampleFrom, sampleOf, labelled]
  refine if_congr Iff.rfl rfl ?_
  rw [map_eq_pure_bind]
  simp [uncommented]

theorem sampleFrom_header (h : header? (trimChars line) = some header) :
    sampleFrom headers (line :: lines) = sampleFrom (header :: headers) lines := by
  simp only [sampleFrom, splitHeaders, h]

theorem sampleFrom_blank (blank : isBlankLine line = true) :
    sampleFrom headers (line :: lines) = sampleFrom headers lines := by
  have noHeader := header?_of_blank blank
  have empty : (trimChars line).isEmpty = true := by simp [isBlankLine_iff_trimChars.1 blank]
  simp only [sampleFrom, splitHeaders, noHeader, empty, if_true]

/-- From the first line of the text on everything is text. -/
theorem sampleFrom_text (begins : isOpening line = false) : sampleFrom headers (line :: lines) =
    sampleOf headers (trimChars (List.intercalate ['\n'] (line :: lines))) := by
  obtain ⟨noHeader, notBlank⟩ := Bool.or_eq_false_iff.1 begins
  have notEmpty : (trimChars line).isEmpty = false := by
    rw [List.isEmpty_eq_false_iff, Ne, ← isBlankLine_iff_trimChars, notBlank]
    simp
  rw [Option.isSome_eq_false_iff, Option.isNone_iff_eq_none] at noHeader
  simp only [sampleFrom, splitHeaders, noHeader, notEmpty, Bool.false_eq_true, if_false]

/-- **The headers are those before the first line that is neither blank nor a header line.** -/
theorem sampleFrom_eq (headers : List (String × String)) (lines : List (List Char)) :
    sampleFrom headers lines = sampleOf ((headersOf (lines.takeWhile isOpening)).reverse ++ headers)
      (trimChars (List.intercalate ['\n'] (lines.dropWhile isOpening))) := by
  induction lines generalizing headers with
  | nil => rfl
  | cons line lines ih =>
      by_cases opening : isOpening line = true
      · rw [List.takeWhile_cons_of_pos opening, List.dropWhile_cons_of_pos opening]
        cases h : header? (trimChars line) with
        | some header =>
            rw [sampleFrom_header h, ih]
            simp [h]
        | none =>
            have blank : isBlankLine line = true := by simpa [isOpening, h] using opening
            rw [sampleFrom_blank blank, ih]
            simp [h]
      · rw [sampleFrom_text (by simpa using opening), List.takeWhile_cons_of_neg opening,
          List.dropWhile_cons_of_neg opening]
        rfl

/-! ## White space around a block -/

/-- Lines whose beginning or end differs by white space are read alike. -/
theorem sampleFrom_first {c : Char} (blank : isBlank c = true) :
    sampleFrom headers ((c :: line) :: lines) = sampleFrom headers (line :: lines) := by
  have trimmed : trimChars (c :: line) = trimChars line := trimChars_cons_of_blank blank
  have opening : isOpening (c :: line) = isOpening line := by
    simp [isOpening, trimmed, isBlankLine, blank]
  cases same : isOpening line with
  | false =>
      rw [sampleFrom_text (opening.trans same), sampleFrom_text same, intercalate_cons_led,
        intercalate_cons_led, List.cons_append, trimChars_cons_of_blank blank]
  | true =>
      rw [sampleFrom_eq, sampleFrom_eq, List.takeWhile_cons_of_pos (opening.trans same),
        List.takeWhile_cons_of_pos same, List.dropWhile_cons_of_pos (opening.trans same),
        List.dropWhile_cons_of_pos same]
      simp [trimmed]

/-- Lines before others do not tell apart what is read alike and is trimmed alike behind any text. -/
theorem sampleFrom_append_congr {tail tail' : List (List Char)}
    (alike : ∀ headers, sampleFrom headers tail = sampleFrom headers tail')
    (joined : ∀ cs, trimChars (cs ++ led tail) = trimChars (cs ++ led tail')) :
    sampleFrom headers (lines ++ tail) = sampleFrom headers (lines ++ tail') := by
  induction lines generalizing headers with
  | nil => exact alike headers
  | cons line lines ih =>
      rw [List.cons_append, List.cons_append]
      cases h : header? (trimChars line) with
      | some header => rw [sampleFrom_header h, sampleFrom_header h, ih]
      | none =>
          by_cases blank : isBlankLine line = true
          · rw [sampleFrom_blank blank, sampleFrom_blank blank, ih]
          · have begins : isOpening line = false := by simp [isOpening, h, blank]
            rw [sampleFrom_text begins, sampleFrom_text begins, intercalate_cons_led, intercalate_cons_led,
              led_append, led_append, ← List.append_assoc, ← List.append_assoc, joined]

theorem sampleFrom_last (blank : ∀ c ∈ space, isBlank c = true) :
    sampleFrom headers (lines ++ [last ++ space]) = sampleFrom headers (lines ++ [last]) := by
  have trimmed : trimChars (last ++ space) = trimChars last := trimChars_append_blank blank last
  have opening : isOpening (last ++ space) = isOpening last := by
    rw [isOpening, isOpening, trimmed]
    congr 1
    rw [Bool.eq_iff_iff, isBlankLine_iff_trimChars, isBlankLine_iff_trimChars, trimmed]
  apply sampleFrom_append_congr
  · intro headers
    rw [sampleFrom_eq, sampleFrom_eq]
    cases same : isOpening last <;> simp [opening, same, trimmed, List.intercalate]
  · intro cs
    rw [led_cons, led_cons, led_nil, List.append_nil, List.append_nil, ← List.cons_append,
      ← List.append_assoc, trimChars_append_blank blank]

theorem sampleFrom_append_blank (blank : isBlankLine line = true) :
    sampleFrom headers (lines ++ [line]) = sampleFrom headers lines := by
  rw [← List.append_nil lines, List.append_assoc, List.nil_append]
  apply sampleFrom_append_congr
  · exact fun headers => sampleFrom_blank blank
  · intro cs
    rw [led_cons, led_nil, List.append_nil, trimChars_append_blank (blank_led_of_isBlankLine blank),
      List.append_nil]

theorem isComment_of_trimChars {other : List Char} (trimmed : trimChars line = trimChars other) :
    isComment line = isComment other := by
  rw [isComment, isComment, trimmed]

theorem sample?_cons_blank {c : Char} (blank : isBlank c = true) : sample? (c :: block) = sample? block := by
  rw [sample?_eq, sample?_eq]
  by_cases lineFeed : c = '\n'
  · rw [lineFeed, splitChars_cons_self]
    exact sampleFrom_blank rfl
  · obtain ⟨first, rest, split, -⟩ := splitChars_go (· == '\n') block []
    have same : isComment (c :: first) = isComment first :=
      isComment_of_trimChars (trimChars_cons_of_blank blank)
    rw [splitChars_cons_of_ne lineFeed split, split]
    cases comment : isComment first with
    | true => simp [uncommented, same, comment]
    | false => simpa [uncommented, same, comment] using sampleFrom_first blank

theorem sample?_concat_blank {c : Char} (blank : isBlank c = true) :
    sample? (block ++ [c]) = sample? block := by
  obtain ⟨before, last, split, longer⟩ := splitChars_concat (s := '\n') block
  rw [sample?_eq, sample?_eq, longer, split]
  split_ifs with lineFeed
  · have whole : uncommented (before ++ [last, []]) = uncommented (before ++ [last]) ++ [[]] := by
      rw [← List.singleton_append, ← List.append_assoc, uncommented_append]
      rfl
    rw [whole, sampleFrom_append_blank rfl]
  · have space : ∀ d ∈ [c], isBlank d = true := by simpa using blank
    have same : isComment (last ++ [c]) = isComment last :=
      isComment_of_trimChars (trimChars_append_blank space last)
    cases comment : isComment last with
    | true => simp [uncommented, same, comment]
    | false => simpa [uncommented, same, comment] using sampleFrom_last space

/-- **White space around a block says nothing.** -/
theorem sample?_trimChars (block : List Char) : sample? (trimChars block) = sample? block := by
  obtain ⟨before, after, split, blank, blank'⟩ := exists_margins block
  have front (space : List Char) (blank : ∀ c ∈ space, isBlank c = true) (cs : List Char) :
      sample? (space ++ cs) = sample? cs := by
    induction space with
    | nil => rfl
    | cons c space ih =>
        rw [List.forall_mem_cons] at blank
        rw [List.cons_append, sample?_cons_blank blank.1, ih blank.2]
  have back (space : List Char) (blank : ∀ c ∈ space, isBlank c = true) (cs : List Char) :
      sample? (cs ++ space) = sample? cs := by
    induction space using List.reverseRecOn with
    | nil => rw [List.append_nil]
    | append_singleton space c ih =>
        rw [List.forall_mem_append, List.forall_mem_singleton] at blank
        rw [← List.append_assoc, sample?_concat_blank blank.2, ih blank.1]
  conv_rhs => rw [split, back after blank', front before blank]

/-! ## Headers and text -/

/-- A header line is no comment. -/
theorem isComment_of_header (h : header? (trimChars line) = some header) : isComment line = false := by
  rw [isComment, decide_eq_false_iff_not]
  intro hash
  obtain ⟨rest, begins⟩ := List.head?_eq_some_iff.1 hash
  obtain ⟨name, known, reads⟩ := List.exists_of_findSome?_eq_some h
  dsimp only at reads
  split at reads
  · rw [Option.ite_none_right_eq_some] at reads
    have written := reads.1.1
    rw [begins] at written
    have keys : caseKey '#' ≠ caseKey 'e' ∧ caseKey '#' ≠ caseKey 's' ∧ caseKey '#' ≠ caseKey 'n' := by
      decide
    have lengths : "expected".length = 8 ∧ "subtype".length = 7 ∧ "source".length = 6 ∧
      "notes".length = 5 := by decide
    simp only [headerNames, List.mem_cons, List.not_mem_nil, or_false] at known
    rcases known with rfl | rfl | rfl | rfl <;> simp [lengths, keys] at written
  · cases reads

/-- The first line of a text that is not blank is a header line. -/
def OpensWithHeader (text : List Char) : Prop :=
  ∃ line ∈ (splitChars (· == '\n') text).find? (!isBlankLine ·), (header? (trimChars line)).isSome

instance (text : List Char) : Decidable (OpensWithHeader text) :=
  inferInstanceAs (Decidable (∃ line ∈ (splitChars (· == '\n') text).find? (!isBlankLine ·), _))

theorem trimChars_led (lines : List (List Char)) :
    trimChars (led lines) = trimChars (List.intercalate ['\n'] lines) := by
  cases lines with
  | nil => rfl
  | cons line lines =>
      rw [← lineFeed_intercalate (by simp)]
      exact trimChars_cons_of_blank (by decide)

/-- Nothing but blank lines is passed over before a line that is no header. -/
theorem opening_of_plain
    (plain : ∀ line ∈ lines.find? (!isBlankLine ·), header? (trimChars line) = none) :
    headersOf (lines.takeWhile isOpening) = [] ∧
      trimChars (List.intercalate ['\n'] (lines.dropWhile isOpening)) =
        trimChars (List.intercalate ['\n'] lines) := by
  induction lines with
  | nil => exact ⟨rfl, rfl⟩
  | cons line lines ih =>
      by_cases blank : isBlankLine line = true
      · rw [List.find?_cons_of_neg (by simp [blank])] at plain
        obtain ⟨noHeaders, rest⟩ := ih plain
        rw [List.takeWhile_cons_of_pos (isOpening_of_blank blank), headersOf_cons, noHeaders,
          header?_of_blank blank, List.dropWhile_cons_of_pos (isOpening_of_blank blank), rest,
          intercalate_cons_led, trimChars_blank_append (isBlankLine_iff.1 blank), trimChars_led]
        exact ⟨rfl, rfl⟩
      · rw [List.find?_cons_of_pos (by simp [blank])] at plain
        have begins : ¬isOpening line = true := by simp [isOpening, plain line rfl, blank]
        rw [List.takeWhile_cons_of_neg begins, List.dropWhile_cons_of_neg begins]
        exact ⟨rfl, rfl⟩

/-- The characters of lines that are not white space. -/
def inkOf (lines : List (List Char)) : ℕ := (led lines).countP fun c => !isBlank c

theorem inkOf_append (lines rest : List (List Char)) : inkOf (lines ++ rest) = inkOf lines + inkOf rest := by
  rw [inkOf, led_append, List.countP_append]
  rfl

theorem inkOf_eq (lines : List (List Char)) :
    inkOf lines = (trimChars (List.intercalate ['\n'] lines)).countP fun c => !isBlank c := by
  rw [← trimChars_led, countP_trimChars]
  rfl

theorem inkOf_pos (member : line ∈ lines) (some : isBlankLine line = false) : 0 < inkOf lines := by
  obtain ⟨c, inside, notBlank⟩ := List.all_eq_false.1 some
  rw [inkOf, List.countP_pos_iff]
  refine ⟨c, List.mem_flatMap.2 ⟨line, member, List.mem_cons_of_mem _ inside⟩, by simpa using notBlank⟩

/-- What begins with a header line loses it. -/
theorem ne_of_opensWithHeader (opens : OpensWithHeader text) :
    trimChars (List.intercalate ['\n'] ((splitChars (· == '\n') text).dropWhile isOpening)) ≠
      trimChars text := by
  obtain ⟨line, found, header⟩ := opens
  obtain ⟨notBlank, before, after, split, blanks⟩ := List.find?_eq_some_iff_append.1 found
  have opening : line ∈ (splitChars (· == '\n') text).takeWhile isOpening := by
    have passed : ∀ first ∈ before, isOpening first = true := fun first member =>
      isOpening_of_blank (by simpa using blanks first member)
    rw [split, List.takeWhile_append_of_pos passed, List.takeWhile_cons_of_pos (by simp [isOpening, header])]
    simp
  have lost := inkOf_pos opening (by simpa using notBlank)
  have whole := inkOf_append ((splitChars (· == '\n') text).takeWhile isOpening)
    ((splitChars (· == '\n') text).dropWhile isOpening)
  rw [List.takeWhile_append_dropWhile] at whole
  intro same
  have counts := congrArg (List.countP fun c => !isBlank c) same
  rw [← inkOf_eq] at counts
  nth_rewrite 2 [← intercalate_splitChars '\n' text] at counts
  rw [← inkOf_eq] at counts
  omega

/-- A block of header lines, an empty line and a text. -/
def headed (headerLines : List (List Char)) (text : List Char) : List Char :=
  List.intercalate ['\n'] (headerLines ++ [] :: splitChars (· == '\n') text)

theorem sample?_headed
    (areHeaders : ∀ line ∈ headerLines, '\n' ∉ line ∧ (header? (trimChars line)).isSome)
    (noComment : ∀ line ∈ splitChars (· == '\n') text, isComment line = false) :
    sample? (headed headerLines text) =
      sampleOf (headersOf (headerLines ++ (splitChars (· == '\n') text).takeWhile isOpening)).reverse
        (trimChars (List.intercalate ['\n'] ((splitChars (· == '\n') text).dropWhile isOpening))) := by
  have split : splitChars (· == '\n') (headed headerLines text) =
      headerLines ++ [] :: splitChars (· == '\n') text := by
    apply splitChars_intercalate (by simp)
    intro line member
    rcases List.mem_append.1 member with above | below
    · exact (areHeaders line above).1
    · rcases List.mem_cons.1 below with rfl | inside
      · simp
      · exact not_mem_of_mem_splitChars inside
  have counted : uncommented (headerLines ++ [] :: splitChars (· == '\n') text) =
      headerLines ++ [] :: splitChars (· == '\n') text := by
    rw [uncommented, List.filter_eq_self]
    intro line member
    rcases List.mem_append.1 member with above | below
    · obtain ⟨header, h⟩ := Option.isSome_iff_exists.1 (areHeaders line above).2
      simp [isComment_of_header h]
    · rcases List.mem_cons.1 below with rfl | inside
      · decide
      · simp [noComment line inside]
  have opening : ∀ line ∈ headerLines, isOpening line = true := fun line member => by
    simp [isOpening, (areHeaders line member).2]
  have empty : isOpening [] = true := isOpening_of_blank rfl
  rw [sample?_eq, split, counted, sampleFrom_eq, List.takeWhile_append_of_pos opening,
    List.dropWhile_append_of_pos opening, List.takeWhile_cons_of_pos empty,
    List.dropWhile_cons_of_pos empty, List.append_nil, headersOf_append, headersOf_append, headersOf_cons,
    header?_of_blank rfl]
  rfl

/-- **An empty line does not end the headers.**  After header lines and an empty line the opening lines of a
text join the headers as far as they are header lines themselves.  So the text is taken as a whole, with the
headers above the empty line, exactly when its first line is no header line. -/
theorem headers_run_into_text
    (areHeaders : ∀ line ∈ headerLines, '\n' ∉ line ∧ (header? (trimChars line)).isSome)
    (noComment : ∀ line ∈ splitChars (· == '\n') text, isComment line = false)
    (notBlank : ∃ c ∈ text, isBlank c = false) :
    sample? (headed headerLines text) =
        sampleOf (headersOf (headerLines ++ (splitChars (· == '\n') text).takeWhile isOpening)).reverse
          (trimChars (List.intercalate ['\n'] ((splitChars (· == '\n') text).dropWhile isOpening))) ∧
      (¬OpensWithHeader text →
        sample? (headed headerLines text) =
          some <$> labelled (headersOf headerLines).reverse (trimChars text)) ∧
      ∀ s, sample? (headed headerLines text) = .ok (some s) →
        (s.text = String.ofList (trimChars text) ↔ ¬OpensWithHeader text) := by
  have read := sample?_headed areHeaders noComment
  have whole (plain : ¬OpensWithHeader text) : sample? (headed headerLines text) =
      some <$> labelled (headersOf headerLines).reverse (trimChars text) := by
    have notEmpty : (trimChars text).isEmpty = false := by
      rw [List.isEmpty_eq_false_iff, Ne, trimChars_eq_nil_iff]
      obtain ⟨c, member, ink⟩ := notBlank
      exact fun all => Bool.noConfusion (ink.symm.trans (all c member))
    have noHeader : ∀ line ∈ (splitChars (· == '\n') text).find? (!isBlankLine ·),
        header? (trimChars line) = none := by
      intro line found
      by_contra header
      exact plain ⟨line, found, Option.isSome_iff_ne_none.2 header⟩
    obtain ⟨noHeaders, rest⟩ := opening_of_plain noHeader
    rw [read, headersOf_append, noHeaders, rest, intercalate_splitChars, sampleOf, notEmpty, List.append_nil]
    rfl
  refine ⟨read, whole, fun s answer => ⟨fun same opens => ?_, fun plain => ?_⟩⟩
  · rw [read] at answer
    have text := (text_of_sampleOf answer).symm.trans same
    exact ne_of_opensWithHeader opens (String.ofList_injective text)
  · rw [whole plain] at answer
    exact text_of_labelled answer

/-- Two headers above a text in which something like a header stands further down. -/
theorem later_source_is_text :
    let headerLines := ["expected: BIAS".toList, " NOTES : a remark".toList]
    let text := "Obviously taxes are theft.\n\nSource: my uncle.".toList
    (∀ line ∈ headerLines, '\n' ∉ line ∧ (header? (trimChars line)).isSome) ∧
      (∀ line ∈ splitChars (· == '\n') text, isComment line = false) ∧
      (∃ c ∈ text, isBlank c = false) ∧ ¬OpensWithHeader text ∧
      sample? (headed headerLines text) = .ok (some {
        text := "Obviously taxes are theft.\n\nSource: my uncle."
        expected := .bias
        subtype := none
        source := "unknown"
        notes := "a remark" }) := by
  intro headerLines text
  have areHeaders : ∀ line ∈ headerLines, '\n' ∉ line ∧ (header? (trimChars line)).isSome := by
    decide +kernel
  have noComment : ∀ line ∈ splitChars (· == '\n') text, isComment line = false := by decide +kernel
  have notBlank : ∃ c ∈ text, isBlank c = false := ⟨'O', by decide, by decide⟩
  have plain : ¬OpensWithHeader text := by decide +kernel
  have headers : (headersOf headerLines).reverse = [("notes", "a remark"), ("expected", "BIAS")] := by
    decide +kernel
  refine ⟨areHeaders, noComment, notBlank, plain, ?_⟩
  rw [(headers_run_into_text areHeaders noComment notBlank).2.1 plain, headers]
  rfl

/-- **A text that opens with a source line loses it**, and the line is taken for a header, though it stands
below the empty line. -/
theorem opening_source_is_header :
    let headerLines := ["expected: BIAS".toList]
    let text := "Source: my uncle told me.\nObviously taxes are theft.".toList
    (∀ line ∈ headerLines, '\n' ∉ line ∧ (header? (trimChars line)).isSome) ∧
      (∀ line ∈ splitChars (· == '\n') text, isComment line = false) ∧
      sample? (headed headerLines text) = .ok (some {
        text := "Obviously taxes are theft."
        expected := .bias
        subtype := none
        source := "my uncle told me."
        notes := "" }) ∧
      some <$> labelled (headersOf headerLines).reverse (trimChars text) = .ok (some {
        text := "Source: my uncle told me.\nObviously taxes are theft."
        expected := .bias
        subtype := none
        source := "unknown"
        notes := "" }) := by
  refine ⟨by decide +kernel, by decide +kernel, ?_, ?_⟩ <;> rfl

end Deliberation.Corpus
