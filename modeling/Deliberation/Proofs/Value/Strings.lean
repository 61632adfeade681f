/-
# Proofs.Value.Strings -- strings come back from their escapes

Each character of a string is written so that the lexer, standing in a string, reads that character and stands
in the string again (`lex_jsonChar`): as itself, by a letter, by its code in four hexadecimal digits, or beyond
the basic plane by two surrogates of four digits each.  All that is written is printable ASCII
(`isPrinted_jsonString`).
-/
import Deliberation.Value.Printer
import Deliberation.Value.Reader
import Mathlib.Tactic.Linarith

set_option autoImplicit false

namespace Deliberation.Value

open Deliberation.Text

variable {done : List Token} {read : List Char} {high : Option ℕ} {c : Char}

/-! ## Escaped units -/

theorem hexValue?_digitChar : ∀ d < 16, hexValue? (Nat.digitChar d) = some d := by decide

theorem hexDigits_four (n : ℕ) : hexDigits 4 n =
    [Nat.digitChar (n / 4096 % 16), Nat.digitChar (n / 256 % 16), Nat.digitChar (n / 16 % 16),
      Nat.digitChar (n % 16)] := by
  simp [hexDigits, List.range_succ, Nat.shiftRight_eq_div_pow]

/-- One digit of a unit that is not the last one. -/
theorem lexStep_unit {d left code : ℕ} (digit : d < 16) (more : 1 < left) :
    lexStep (done, .unit read high left code) (Nat.digitChar d) =
      some (done, .unit read high (left - 1) (16 * code + d)) := by
  simp [lexStep, hexValue?_digitChar d digit, not_le.2 more]

/-- The last digit of a unit. -/
theorem lexStep_unit_last {d code : ℕ} (digit : d < 16) :
    lexStep (done, .unit read high 1 code) (Nat.digitChar d) =
      some (done, afterUnit read high (16 * code + d)) := by
  simp [lexStep, hexValue?_digitChar d digit]

/-- An escaped unit is read as its value. -/
theorem lex_unitEscape {n : ℕ} (small : n < 0x10000) :
    (unitEscape n).foldlM lexStep (done, .string read high) = some (done, afterUnit read high n) := by
  have digit (m : ℕ) : m % 16 < 16 := Nat.mod_lt m (by norm_num)
  have value : 16 * (16 * (16 * (16 * 0 + n / 4096 % 16) + n / 256 % 16) + n / 16 % 16) + n % 16 = n := by
    omega
  have begin_ : lexStep (done, .string read high) '\\' = some (done, .escape read high) := rfl
  have mark : lexStep (done, .escape read high) 'u' = some (done, .unit read high 4 0) := rfl
  rw [unitEscape, hexDigits_four]
  simp only [List.foldlM_cons, List.foldlM_nil, begin_, mark, Option.bind_eq_bind, Option.bind_some,
    lexStep_unit (digit _) (show 1 < 4 by norm_num), lexStep_unit (digit _) (show 1 < 4 - 1 by norm_num),
    lexStep_unit (digit _) (show 1 < 4 - 1 - 1 by norm_num)]
  rw [show 4 - 1 - 1 - 1 = 1 by rfl, lexStep_unit_last (digit _), value]
  rfl

/-! ## Characters -/

/-- No character is a surrogate. -/
theorem not_surrogate (c : Char) : c.toNat < 0xD800 ∨ 0xDFFF < c.toNat ∧ c.toNat < 0x110000 := c.valid

theorem afterUnit_char (c : Char) : afterUnit read none c.toNat = .string (c :: read) none := by
  have apart := not_surrogate c
  rw [afterUnit, if_neg (by omega), if_neg (by omega), Char.ofNat_toNat]
  rfl

/-- Two surrogates are read as the character that they make up. -/
theorem lex_surrogates {h l : ℕ} (isHigh : 0xD800 ≤ h ∧ h < 0xDC00) (isLow : 0xDC00 ≤ l ∧ l < 0xE000) :
    (unitEscape h ++ unitEscape l).foldlM lexStep (done, .string read none) =
      some (done, .string (Char.ofNat (0x10000 + (h - 0xD800) * 0x400 + (l - 0xDC00)) :: read) none) := by
  have first : afterUnit read none h = .string read (some h) := by
    rw [afterUnit, if_pos isHigh]
    rfl
  have second : afterUnit read (some h) l =
      .string (Char.ofNat (0x10000 + (h - 0xD800) * 0x400 + (l - 0xDC00)) :: read) none := by
    rw [afterUnit, if_neg (by omega), if_pos isLow]
  rw [List.foldlM_append, lex_unitEscape (by omega), first]
  simp only [Option.bind_eq_bind, Option.bind_some]
  rw [lex_unitEscape (by omega), second]

/-- A character beyond the basic plane comes back from its surrogates. -/
theorem lex_beyond (beyond : 0x10000 ≤ c.toNat) :
    (unitEscape (0xD800 + (c.toNat - 0x10000) / 0x400) ++
        unitEscape (0xDC00 + (c.toNat - 0x10000) % 0x400)).foldlM lexStep (done, .string read none) =
      some (done, .string (c :: read) none) := by
  have apart := not_surrogate c
  rw [lex_surrogates (by omega) (by omega), show 0x10000 +
    (0xD800 + (c.toNat - 0x10000) / 0x400 - 0xD800) * 0x400 +
      (0xDC00 + (c.toNat - 0x10000) % 0x400 - 0xDC00) = c.toNat by omega, Char.ofNat_toNat]

theorem eq_ofNat {n : ℕ} (same : c.toNat = n) : c = Char.ofNat n := by
  rw [← same, Char.ofNat_toNat]

/-- A character comes back from its escape. -/
theorem lex_jsonChar (c : Char) :
    (jsonChar c).foldlM lexStep (done, .string read none) = some (done, .string (c :: read) none) := by
  unfold jsonChar
  split_ifs with quoted printable feed return_ tab back form basic
  · rcases quoted with rfl | rfl <;> simp [lexStep, escaped?, settle]
  · rw [not_or] at quoted
    simp [lexStep, quoted, settle]
  · simp [lexStep, escaped?, settle, feed]
  · simp [lexStep, escaped?, settle, return_]
  · simp [lexStep, escaped?, settle, tab]
  · simp [lexStep, escaped?, settle, eq_ofNat back]
  · simp [lexStep, escaped?, settle, eq_ofNat form]
  · rw [lex_unitEscape basic, afterUnit_char]
  · exact lex_beyond (not_lt.1 basic)

theorem lex_chars (cs : List Char) :
    (cs.flatMap jsonChar).foldlM lexStep (done, .string read none) =
      some (done, .string (cs.reverse ++ read) none) := by
  induction cs generalizing read with
  | nil => rfl
  | cons c rest ih =>
      rw [List.flatMap_cons, List.foldlM_append, lex_jsonChar]
      simp only [Option.bind_eq_bind, Option.bind_some]
      rw [ih, List.reverse_cons, List.append_assoc]
      rfl

/-- **Strings come back.** -/
theorem lex_jsonString (s : String) :
    (jsonString s).foldlM lexStep (done, .between) = some (.text s :: done, .between) := by
  have begin_ : lexStep (done, .between) '"' = some (done, .string [] none) := rfl
  rw [jsonString, List.cons_append, List.foldlM_cons, begin_]
  simp only [Option.bind_eq_bind, Option.bind_some]
  rw [List.foldlM_append, lex_chars]
  simp [lexStep, settle]

/-! ## Printable ASCII -/

/-- A printable ASCII character. -/
def IsPrinted (c : Char) : Prop := 32 ≤ c.toNat ∧ c.toNat < 127

instance (c : Char) : Decidable (IsPrinted c) := inferInstanceAs (Decidable (_ ∧ _))

theorem isPrinted_of_all {cs : List Char} (h : (cs.all fun c => decide (IsPrinted c)) = true) :
    ∀ c ∈ cs, IsPrinted c := by
  simpa using h

theorem isPrinted_digitChar : ∀ d < 16, IsPrinted (Nat.digitChar d) := by decide

theorem isPrinted_unitEscape (n : ℕ) : ∀ d ∈ unitEscape n, IsPrinted d := by
  have digit (m : ℕ) : IsPrinted (Nat.digitChar (m % 16)) :=
    isPrinted_digitChar _ (Nat.mod_lt m (by norm_num))
  rw [unitEscape, hexDigits_four]
  simp [digit]
  decide

theorem isPrinted_jsonChar (c : Char) : ∀ d ∈ jsonChar c, IsPrinted d := by
  unfold jsonChar
  split_ifs with quoted printable
  · rcases quoted with rfl | rfl
    · exact isPrinted_of_all rfl
    · exact isPrinted_of_all rfl
  · simpa [IsPrinted] using printable
  · exact isPrinted_of_all rfl
  · exact isPrinted_of_all rfl
  · exact isPrinted_of_all rfl
  · exact isPrinted_of_all rfl
  · exact isPrinted_of_all rfl
  · exact isPrinted_unitEscape _
  · simp only [List.forall_mem_append]
    exact ⟨isPrinted_unitEscape _, isPrinted_unitEscape _⟩

theorem isPrinted_jsonString (s : String) : ∀ d ∈ jsonString s, IsPrinted d := by
  have quote : IsPrinted '"' := by decide
  simp only [jsonString, List.cons_append, List.forall_mem_cons, List.forall_mem_append,
    List.forall_mem_flatMap]
  exact ⟨quote, fun c _ => isPrinted_jsonChar c, quote, by simp⟩

end Deliberation.Value
