/-
# Proofs.Pattern.Recasing -- matching does not see the case of ASCII letters

Two texts are recasings of each other when they are the same but for the case of ASCII letters
(`Recased`).  Lower case keeps the categories and the case key of a character, so a class without regard to
case holds a character exactly when it holds it in lower case (`CharClass.holds_toLower`).  Places in
recased texts therefore read alike (`readAlike_recased`), and a pattern all of whose classes are without
regard to case has the same matches in both, each the recasing of the other (`spans_recased`).
-/
import Deliberation.Proofs.Fallible
import Deliberation.Proofs.Pattern.Seams

set_option autoImplicit false

namespace Deliberation

open Text

/-! ## Characters -/

theorem toLower_of_not_ascii {c : Char} (beyond : 128 ≤ c.toNat) : c.toLower = c := by
  have notCapital : ¬('A'.val ≤ c.val ∧ c.val ≤ 'Z'.val) := by
    rintro ⟨-, capital⟩
    exact absurd (beyond.trans (UInt32.le_iff_toNat_le.1 capital)) (by decide)
  exact dif_neg notCapital

/-- What is checked of the ASCII characters holds of all, where it holds of those that lower case leaves
alone. -/
@[elab_as_elim]
theorem char_cases {motive : Char → Prop} (ascii : ∀ n < 128, motive (Char.ofNat n))
    (beyond : ∀ c, c.toLower = c → motive c) (c : Char) : motive c := by
  rcases Nat.lt_or_ge c.toNat 128 with low | high
  · exact Char.ofNat_toNat c ▸ ascii c.toNat low
  · exact beyond c (toLower_of_not_ascii high)

theorem Category.holds_toLower (kind : Category) (c : Char) : kind.holds c.toLower = kind.holds c := by
  induction c using char_cases with
  | ascii n low => revert n; cases kind <;> decide +kernel
  | beyond c same => rw [same]

theorem caseKey_toLower (c : Char) : caseKey c.toLower = caseKey c := by
  induction c using char_cases with
  | ascii n low => revert n; decide +kernel
  | beyond c same => rw [same]

theorem isWord_toLower (c : Char) : isWord c.toLower = isWord c := Category.word.holds_toLower c

theorem isBlank_toLower (c : Char) : isBlank c.toLower = isBlank c := Category.blank.holds_toLower c

theorem ClassItem.listsMate_toLower (item : ClassItem) (c : Char) :
    item.listsMate c.toLower = item.listsMate c := by
  cases item with
  | char d => rw [listsMate, listsMate, caseKey_toLower]
  | range first last => rw [listsMate, listsMate, caseMates, caseMates, caseKey_toLower]
  | category kind outside => rw [listsMate, listsMate, kind.holds_toLower]

theorem CharClass.holds_toLower {cls : CharClass} (caseless : cls.caseless = true) (c : Char) :
    cls.holds c.toLower = cls.holds c := by
  have mates : cls.listsMate c.toLower = cls.listsMate c := by
    unfold listsMate
    split
    · rw [caseKey_toLower]
    · simp only [ClassItem.listsMate_toLower]
  simp only [holds, caseless, if_true, mates]

/-! ## Texts -/

/-- The same letter, maybe in another case; any other character only if it is the same. -/
def SameLetter (c d : Char) : Prop := c.toLower = d.toLower

/-- The same characters but for the case of ASCII letters. -/
def Recased : List Char → List Char → Prop := List.Forall₂ SameLetter

theorem recased_iff {cs ds : List Char} :
    Recased cs ds ↔ cs.map Char.toLower = ds.map Char.toLower := by
  rw [← List.forall₂_eq_eq_eq, List.forall₂_map_left_iff, List.forall₂_map_right_iff]
  rfl

instance (cs ds : List Char) : Decidable (Recased cs ds) := decidable_of_iff _ recased_iff.symm

namespace SameLetter

variable {c d : Char}

theorem holds_eq (same : SameLetter c d) {cls : CharClass} (caseless : cls.caseless = true) :
    cls.holds c = cls.holds d := by
  rw [← CharClass.holds_toLower caseless c, same, CharClass.holds_toLower caseless d]

theorem isWord_eq (same : SameLetter c d) : isWord c = isWord d := by
  rw [← isWord_toLower c, same, isWord_toLower d]

theorem isBlank_eq (same : SameLetter c d) : isBlank c = isBlank d := by
  rw [← isBlank_toLower c, same, isBlank_toLower d]

end SameLetter

theorem Recased.all_isBlank_eq {cs ds : List Char} (recased : Recased cs ds) :
    cs.all isBlank = ds.all isBlank := by
  induction recased with
  | nil => rfl
  | cons same _ ih => rw [List.all_cons, List.all_cons, same.isBlank_eq, ih]

/-! ## Places -/

/-- Places in a text and in a recasing of it. -/
structure Cursor.Recased (s s' : Cursor) : Prop where
  before : Option.Rel SameLetter s.before s'.before
  rest : Deliberation.Recased s.rest s'.rest

theorem readAlike_recased {classes : List CharClass} (caseless : ∀ cls ∈ classes, cls.caseless = true) :
    ReadAlike Cursor.Recased classes where
  boundary {s s'} related := by
    obtain ⟨before, rest⟩ := s
    obtain ⟨before', rest'⟩ := s'
    obtain ⟨behind, ahead⟩ := related
    have left : before.map isWord = before'.map isWord := by
      cases behind with
      | none => rfl
      | some same => simp only [Option.map_some, same.isWord_eq]
    have right : rest.head?.map isWord = rest'.head?.map isWord := by
      cases ahead with
      | nil => rfl
      | cons same _ => simp only [List.head?_cons, Option.map_some, same.isWord_eq]
    simp only [Cursor.atBoundary, left, right]
  step {s s'} related {cls} member := by
    obtain ⟨before, rest⟩ := s
    obtain ⟨before', rest'⟩ := s'
    cases related.rest with
    | nil => exact .none
    | cons same ahead =>
        simp only [Cursor.step?, same.holds_eq (caseless cls member)]
        split
        · exact .some ⟨.some same, ahead⟩
        · exact .none

/-! ## Matches -/

namespace Pattern

variable {p : Pattern}

/-- Every class of the pattern is without regard to case. -/
def caseless (p : Pattern) : Bool := p.classes.all (·.caseless)

theorem spansAt_recased (flat : p.flat = true) (caseless : p.caseless = true) {s s' : Cursor}
    (recased : s.Recased s') : List.Forall₂ Recased (p.spansAt s) (p.spansAt s') := by
  apply spansAt_rel flat (readAlike_recased (List.all_eq_true.1 caseless)) recased
  · intro t t' later
    rw [recased.rest.length_eq, later.rest.length_eq]
    exact List.forall₂_take _ recased.rest
  · intro xs ys same
    exact same.length_eq

theorem spansFrom_recased (flat : p.flat = true) (caseless : p.caseless = true)
    {before before' : Option Char} (behind : Option.Rel SameLetter before before') {cs ds : List Char}
    (ahead : Recased cs ds) (covered : ℕ) :
    List.Forall₂ Recased (p.spansFrom before cs covered) (p.spansFrom before' ds covered) := by
  induction ahead generalizing before before' covered with
  | nil => exact spansAt_recased flat caseless ⟨behind, .nil⟩
  | @cons c d cs ds same ahead ih =>
      cases covered with
      | succ covered => exact ih (.some same) covered
      | zero =>
          have place : Cursor.Recased ⟨before, c :: cs⟩ ⟨before', d :: ds⟩ := ⟨behind, .cons same ahead⟩
          have here := spansAt_recased flat caseless place
          -- the last matches are of one length, so they cover equally many characters
          have lengths := map_eq_map_of_forall₂ (here.imp fun _ _ => List.Forall₂.length_eq)
          simp only [spansFrom, ← List.getLast?_map, lengths]
          exact List.rel_append here (ih (.some same) _)

/-- **A recasing of a text has the recased matches.** -/
theorem spans_recased (flat : p.flat = true) (caseless : p.caseless = true) {text text' : String}
    (recased : Recased text.toList text'.toList) :
    List.Forall₂ (fun span span' : String => Recased span.toList span'.toList)
      (p.spans text) (p.spans text') := by
  rw [spans, spans, List.forall₂_map_left_iff, List.forall₂_map_right_iff]
  simpa only [String.toList_ofList] using spansFrom_recased flat caseless .none recased 0

end Pattern

end Deliberation
