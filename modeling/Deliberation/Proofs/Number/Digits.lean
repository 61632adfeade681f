/-
# Proofs.Number.Digits -- digits are read as the number that they write

Of decimal text, digits are read as the natural number that they stand for (`natOfDigits?_eq`), and with a
sign as the integer (`intOfDigits?_intDigits`).  A decimal with a point, an exponent or both is read as one
whole number of digits times a power of ten (`ofUnsigned?_eq`), and that product is rounded once
(`ofScientific_eq`).
-/
import Deliberation.Number.Reading
import Deliberation.Proofs.Number.Nearest

set_option autoImplicit false

namespace Deliberation

/-- Decimal digits and nothing else. -/
def AreDigits (cs : List Char) : Prop := ∀ c ∈ cs, c.isDigit = true

namespace AreDigits

variable {cs ds : List Char}

theorem nil : AreDigits [] := by simp [AreDigits]

theorem append (h : AreDigits cs) (h' : AreDigits ds) : AreDigits (cs ++ ds) := by
  intro c hc
  rcases List.mem_append.1 hc with hc | hc
  · exact h c hc
  · exact h' c hc

theorem subset (h : AreDigits ds) (sub : cs ⊆ ds) : AreDigits cs := fun c hc => h c (sub hc)

theorem zeros (n : ℕ) : AreDigits (List.replicate n '0') := by
  intro c hc
  rw [List.eq_of_mem_replicate hc]
  rfl

theorem toDigits (n : ℕ) : AreDigits (Nat.toDigits 10 n) :=
  fun _ hc => Nat.isDigit_of_mem_toDigits (by decide) (by decide) hc

theorem ne_of_mem (h : AreDigits cs) {c d : Char} (hc : c ∈ cs) (other : d.isDigit = false) : c ≠ d := by
  rintro rfl
  exact absurd (h c hc) (by rw [other]; decide)

end AreDigits

/-! ## Whole numbers -/

theorem foldlM_digits {cs : List Char} (h : AreDigits cs) (n : ℕ) :
    cs.foldlM (fun n c => if c.isDigit then some (10 * n + (c.toNat - '0'.toNat)) else none) n =
      some (Nat.ofDigitChars 10 cs n) := by
  induction cs generalizing n with
  | nil => simp
  | cons c rest ih =>
      rw [List.foldlM_cons, if_pos (h c List.mem_cons_self), Nat.ofDigitChars_cons]
      exact ih (h.subset (List.subset_cons_self c rest)) _

theorem natOfDigits?_eq {cs : List Char} (h : AreDigits cs) (some_ : cs ≠ []) :
    natOfDigits? cs = some (Nat.ofDigitChars 10 cs 0) := by
  rw [natOfDigits?, if_neg (by simpa using some_), digitsValue?, foldlM_digits h]

theorem natOfDigits?_toDigits (n : ℕ) : natOfDigits? (Nat.toDigits 10 n) = some n := by
  rw [natOfDigits?_eq (.toDigits n) Nat.toDigits_ne_nil, Nat.ofDigitChars_ten_toDigits]

theorem intOfDigits?_of_digits {cs : List Char} (h : AreDigits cs) (some_ : cs ≠ []) :
    intOfDigits? cs = some (Nat.ofDigitChars 10 cs 0 : ℤ) := by
  unfold intOfDigits?
  split
  · exact absurd (h '-' List.mem_cons_self) (by decide)
  · exact absurd (h '+' List.mem_cons_self) (by decide)
  · rw [natOfDigits?_eq h some_]
    rfl

theorem toList_intDigits (n : ℤ) : (intDigits n).toList =
    if n < 0 then '-' :: Nat.toDigits 10 n.natAbs else Nat.toDigits 10 n.natAbs := by
  rw [intDigits, natDigits]
  split_ifs <;> simp

/-- **Whole numbers come back.** -/
theorem intOfDigits?_intDigits (n : ℤ) : intOfDigits? (intDigits n).toList = some n := by
  rw [toList_intDigits]
  split_ifs with neg
  · rw [intOfDigits?, natOfDigits?_toDigits]
    show some (-(n.natAbs : ℤ)) = some n
    congr 1
    omega
  · rw [intOfDigits?_of_digits (.toDigits _) Nat.toDigits_ne_nil, Nat.ofDigitChars_ten_toDigits]
    congr 1
    omega

/-! ## Decimals -/

namespace Binary64

/-- The characters of an exponent: none at all, or a mark, a sign and digits. -/
def IsExponent (cs : List Char) (exponent : ℤ) : Prop :=
  (cs = [] ∧ exponent = 0) ∨ ∃ sign digits, (sign = '+' ∨ sign = '-') ∧ AreDigits digits ∧
    cs = 'e' :: sign :: digits ∧ intOfDigits? (sign :: digits) = some exponent

/-- The digits before the point and behind it, with the point if there are any behind it. -/
def pointed (whole part : List Char) : List Char :=
  whole ++ if part = [] then [] else '.' :: part

section Pointed

variable {whole part tail : List Char} {exponent : ℤ}

/-- What is behind a prefix is what is left from the first character on that stops a search. -/
theorem takeWhile_append_of_stop {p : Char → Bool} {front back : List Char}
    (holds : ∀ c ∈ front, p c = true) (stops : ∀ c ∈ back.head?, p c = false) :
    (front ++ back).takeWhile p = front ∧ (front ++ back).dropWhile p = back := by
  rw [List.takeWhile_append_of_pos holds, List.dropWhile_append_of_pos holds]
  cases back with
  | nil => simp
  | cons c rest => simp [stops c rfl]

theorem pointed_split (hwhole : AreDigits whole) (part : List Char) :
    (pointed whole part).takeWhile (· ≠ '.') = whole ∧
      ((pointed whole part).dropWhile (· ≠ '.')).drop 1 = part := by
  have holds : ∀ c ∈ whole, decide (c ≠ '.') = true := fun c hc =>
    decide_eq_true (hwhole.ne_of_mem hc rfl)
  have stops : ∀ c ∈ (if part = [] then [] else '.' :: part).head?, decide (c ≠ '.') = false := by
    split_ifs <;> simp
  obtain ⟨front, back⟩ := takeWhile_append_of_stop holds stops
  rw [pointed, front, back]
  split_ifs with none
  · exact ⟨rfl, none.symm⟩
  · exact ⟨rfl, rfl⟩

theorem mem_pointed {c : Char} (hc : c ∈ pointed whole part) : c ∈ whole ∨ c = '.' ∨ c ∈ part := by
  rw [pointed, List.mem_append] at hc
  split_ifs at hc with none
  · exact .inl (by simpa using hc)
  · simpa using hc

/-- A decimal is its digits without the point times a power of ten. -/
theorem ofUnsigned?_eq (negative : Bool) (hwhole : AreDigits whole) (some_ : whole ≠ [])
    (hpart : AreDigits part) (htail : IsExponent tail exponent) :
    ofUnsigned? negative (pointed whole part ++ tail) =
      some (ofScientific negative (Nat.ofDigitChars 10 (whole ++ part) 0)
        (exponent - part.length)) := by
  have holds : ∀ c ∈ pointed whole part, (!decide (c = 'e' ∨ c = 'E')) = true := by
    intro c hc
    have other : c ≠ 'e' ∧ c ≠ 'E' := by
      rcases mem_pointed hc with hc | rfl | hc
      · exact ⟨hwhole.ne_of_mem hc rfl, hwhole.ne_of_mem hc rfl⟩
      · decide
      · exact ⟨hpart.ne_of_mem hc rfl, hpart.ne_of_mem hc rfl⟩
    simp [other]
  have stops : ∀ c ∈ tail.head?, (!decide (c = 'e' ∨ c = 'E')) = false := by
    rcases htail with ⟨rfl, -⟩ | ⟨sign, digits, -, -, rfl, -⟩ <;> simp
  obtain ⟨front, back⟩ := takeWhile_append_of_stop holds stops
  obtain ⟨before, behind⟩ := pointed_split hwhole part
  have read : natOfDigits? (whole ++ part) = some (Nat.ofDigitChars 10 (whole ++ part) 0) :=
    natOfDigits?_eq (hwhole.append hpart) (by simp [some_])
  simp only [ofUnsigned?, front, back, before, behind, read]
  rcases htail with ⟨rfl, rfl⟩ | ⟨sign, digits, -, -, rfl, hexponent⟩
  · simp [some_]
  · simp [some_, hexponent]

end Pointed

/-- A number with so many digits lies between two powers of ten. -/
theorem length_toDigits_bounds {digits : ℕ} (positive : 0 < digits) :
    (10 : ℚ) ^ ((Nat.toDigits 10 digits).length - 1 : ℤ) ≤ digits ∧
      (digits : ℚ) < 10 ^ ((Nat.toDigits 10 digits).length : ℤ) := by
  obtain ⟨size, hsize⟩ : ∃ size, (Nat.toDigits 10 digits).length = size + 1 :=
    ⟨_, (Nat.sub_add_cancel Nat.length_toDigits_pos).symm⟩
  have below : digits < 10 ^ (size + 1) :=
    (Nat.length_toDigits_le_iff (by decide) size.succ_pos).1 hsize.le
  have above : 10 ^ size ≤ digits := by
    rcases Nat.eq_zero_or_pos size with rfl | more
    · exact positive
    · by_contra less
      have := (Nat.length_toDigits_le_iff (by decide) more).2 (not_le.1 less)
      omega
  rw [hsize]
  constructor
  · rw [Nat.cast_succ, add_sub_cancel_right, zpow_natCast]
    exact_mod_cast above
  · rw [zpow_natCast]
    exact_mod_cast below

/-- A decimal between the limits is rounded once. -/
theorem ofScientific_eq {digits : ℕ} {exponent : ℤ} (positive : 0 < digits)
    (low : (10 : ℚ) ^ (-400 : ℤ) ≤ digits * 10 ^ exponent)
    (high : (digits : ℚ) * 10 ^ exponent < 10 ^ (400 : ℤ)) :
    ofScientific false digits exponent = ofRat (digits * 10 ^ exponent) := by
  obtain ⟨least, most⟩ := length_toDigits_bounds positive
  set size : ℤ := ((Nat.toDigits 10 digits).length : ℤ) with hsize
  have unit : (0 : ℚ) < 10 ^ exponent := by positivity
  have large : ¬400 < size + exponent := by
    have less : (10 : ℚ) ^ (size - 1 + exponent) < 10 ^ (400 : ℤ) := by
      rw [zpow_add₀ (by norm_num)]
      exact (mul_le_mul_of_nonneg_right least unit.le).trans_lt high
    have := (zpow_lt_zpow_iff_right₀ (by norm_num)).1 less
    omega
  have small : ¬size + exponent < -400 := by
    have less : (10 : ℚ) ^ (-400 : ℤ) < 10 ^ (size + exponent) := by
      rw [zpow_add₀ (by norm_num)]
      exact low.trans_lt (mul_lt_mul_of_pos_right most unit)
    have := (zpow_lt_zpow_iff_right₀ (by norm_num)).1 less
    omega
  simp only [ofScientific, if_neg positive.ne', ← hsize, if_neg large, if_neg small, Bool.false_eq_true,
    if_false]
  split_ifs with whole
  · obtain ⟨e, rfl⟩ := Int.eq_ofNat_of_zero_le whole
    rw [ofNat, ofInt]
    congr 1
    simp
  · obtain ⟨e, rfl⟩ : ∃ e : ℕ, exponent = -e := ⟨(-exponent).toNat, by omega⟩
    rw [ofDecimal, ofQuotient, Rat.mkRat_eq_div]
    congr 1
    simp [zpow_neg, div_eq_mul_inv]

end Binary64

end Deliberation
