/-
# Proofs.Number.Texts -- numbers come back from their texts

Of the three forms of a decimal, positional with digits on both sides of the point, positional below one, and
with an exponent, each writes the same product of digits and a power of ten (`writes_text`), which is read back
as that product and rounded once.  So a double is what its shortest text is read as (`ofChars?_text`), and a
whole number what its digits are read as.
-/
import Deliberation.Proofs.Number.Scores
import Deliberation.Proofs.Number.Shortest
import Mathlib.Data.List.TakeWhile

set_option autoImplicit false

namespace Deliberation

/-! ## Written decimals -/

/-- The characters write a decimal of that value: digits, with a point and more digits, an exponent, or both. -/
def Writes (cs : List Char) (value : ℚ) : Prop :=
  ∃ whole part tail exponent, AreDigits whole ∧ whole ≠ [] ∧ AreDigits part ∧
    Binary64.IsExponent tail exponent ∧ cs = Binary64.pointed whole part ++ tail ∧
    value = Nat.ofDigitChars 10 (whole ++ part) 0 * 10 ^ (exponent - part.length) ∧
    (part ≠ [] ∨ tail ≠ [])

section Forms

variable {digits : List Char} (areDigits : AreDigits digits) (some_ : digits ≠ [])

include areDigits some_

/-- Digits with the point behind the first of them, and an exponent. -/
theorem writes_scientific {tail : List Char} {lead : ℤ} (exponent : Binary64.IsExponent tail lead)
    (marked : tail ≠ []) :
    Writes (Binary64.pointed (digits.take 1) (digits.drop 1) ++ tail)
      (Nat.ofDigitChars 10 digits 0 * 10 ^ (lead + 1 - digits.length)) := by
  refine ⟨_, _, _, lead, areDigits.subset (List.take_subset _ _), by simpa using some_,
    areDigits.subset (List.drop_subset _ _), exponent, rfl, ?_, .inr marked⟩
  have length : 0 < digits.length := List.length_pos_iff.2 some_
  rw [List.take_append_drop, List.length_drop]
  congr 2
  omega

/-- Zeros between the point and the digits. -/
theorem writes_fraction (zeros : ℕ) :
    Writes ('0' :: '.' :: (List.replicate zeros '0' ++ digits))
      (Nat.ofDigitChars 10 digits 0 * 10 ^ (-(zeros : ℤ) - digits.length)) := by
  refine ⟨['0'], List.replicate zeros '0' ++ digits, [], 0, .zeros 1, by simp,
    (AreDigits.zeros _).append areDigits, .inl ⟨rfl, rfl⟩, by simp [Binary64.pointed, some_], ?_,
    .inl (by simp [some_])⟩
  have value : Nat.ofDigitChars 10 (['0'] ++ (List.replicate zeros '0' ++ digits)) 0 =
      Nat.ofDigitChars 10 digits 0 := by
    rw [← List.append_assoc, Nat.ofDigitChars_append, Nat.ofDigitChars_append,
      Nat.ofDigitChars_replicate_zero]
    rfl
  rw [value, List.length_append, List.length_replicate]
  congr 2
  push_cast
  ring

/-- The point behind all digits and zeros. -/
theorem writes_padded (zeros : ℕ) :
    Writes (digits ++ List.replicate zeros '0' ++ ['.', '0'])
      (Nat.ofDigitChars 10 digits 0 * 10 ^ (zeros : ℤ)) := by
  refine ⟨digits ++ List.replicate zeros '0', ['0'], [], 0, areDigits.append (.zeros zeros),
    by simp [some_], .zeros 1, .inl ⟨rfl, rfl⟩, by simp [Binary64.pointed], ?_, .inl (by simp)⟩
  have value : Nat.ofDigitChars 10 (digits ++ List.replicate zeros '0' ++ ['0']) 0 =
      10 ^ (zeros + 1) * Nat.ofDigitChars 10 digits 0 := by
    rw [List.append_assoc, Nat.ofDigitChars_append, ← Nat.ofDigitChars_replicate_zero,
      List.replicate_succ']
  rw [value]
  push_cast
  rw [mul_comm ((10 : ℚ) ^ _), mul_assoc, ← zpow_natCast, ← zpow_add₀ (by norm_num)]
  congr 2
  simp

/-- The point among the digits. -/
theorem writes_within {size : ℕ} (positive : 0 < size) (less : size < digits.length) :
    Writes (digits.take size ++ '.' :: digits.drop size)
      (Nat.ofDigitChars 10 digits 0 * 10 ^ ((size : ℤ) - digits.length)) := by
  have behind : digits.drop size ≠ [] := by simpa using less
  refine ⟨_, digits.drop size, [], 0, areDigits.subset (List.take_subset size _),
    by simp [some_, positive.ne'], areDigits.subset (List.drop_subset _ _), .inl ⟨rfl, rfl⟩, ?_, ?_,
    .inl behind⟩
  · rw [Binary64.pointed, if_neg behind, List.append_nil]
  · rw [List.take_append_drop, List.length_drop]
    congr 2
    omega

/-- The point after a number of places, among the digits or behind them and zeros. -/
theorem writes_positional {size : ℕ} (positive : 0 < size) :
    Writes (digits.take size ++ List.replicate (size - (digits.take size).length) '0' ++
        '.' :: (if (digits.drop size).isEmpty then ['0'] else digits.drop size))
      (Nat.ofDigitChars 10 digits 0 * 10 ^ ((size : ℤ) - digits.length)) := by
  split_ifs with none
  · have all : digits.length ≤ size := by simpa using none
    have padded := writes_padded areDigits some_ (size - digits.length)
    rwa [List.take_of_length_le all, ← Nat.cast_sub all]
  · have less : size < digits.length := by simpa using none
    have full : (digits.take size).length = size := List.length_take_of_le less.le
    rw [full, Nat.sub_self, List.replicate_zero, List.append_nil]
    exact writes_within areDigits some_ positive less

end Forms

namespace Decimal

variable {d : Decimal}

/-- What is left without the trailing zeros, and as many zeros as are missing. -/
theorem eq_append_zeros (cs : List Char) :
    cs = (cs.reverse.dropWhile (· = '0')).reverse ++
      List.replicate (cs.length - (cs.reverse.dropWhile (· = '0')).reverse.length) '0' := by
  have split := congrArg List.reverse
    (List.takeWhile_append_dropWhile (p := fun c => decide (c = '0')) (l := cs.reverse))
  rw [List.reverse_append, List.reverse_reverse] at split
  have zeros : (cs.reverse.takeWhile (· = '0')).reverse =
      List.replicate (cs.length - (cs.reverse.dropWhile (· = '0')).reverse.length) '0' := by
    rw [List.eq_replicate_iff]
    constructor
    · have := congrArg List.length split
      rw [List.length_append] at this
      omega
    · intro c hc
      simpa using List.mem_takeWhile_imp (List.mem_reverse.1 hc)
  rw [← zeros, split]

/-- The digits without trailing zeros, counted from the place of the first of them. -/
theorem significant_spec (positive : 0 < d.digits) :
    AreDigits d.significant.1 ∧ d.significant.1 ≠ [] ∧
      d.toRat = Nat.ofDigitChars 10 d.significant.1 0 *
        10 ^ (d.significant.2 + 1 - d.significant.1.length) := by
  have split := eq_append_zeros (Nat.toDigits 10 d.digits)
  have pair : d.significant = (((Nat.toDigits 10 d.digits).reverse.dropWhile (· = '0')).reverse,
    d.exponent + (Nat.toDigits 10 d.digits).length - 1) := rfl
  rw [pair]
  have areDigits := AreDigits.toDigits d.digits
  have value := Nat.ofDigitChars_ten_toDigits (n := d.digits)
  simp only
  generalize Nat.toDigits 10 d.digits = all at *
  generalize (all.reverse.dropWhile (· = '0')).reverse = digits at *
  have shorter : digits.length ≤ all.length := by
    rw [split, List.length_append]
    omega
  rw [split, Nat.ofDigitChars_append, Nat.ofDigitChars_replicate_zero] at value
  refine ⟨areDigits.subset ?_, ?_, ?_⟩
  · rw [split]
    exact List.subset_append_left _ _
  · rintro rfl
    simp at value
    omega
  · rw [toRat_eq, ← value]
    push_cast
    rw [mul_comm ((10 : ℚ) ^ _), mul_assoc, ← zpow_natCast, ← zpow_add₀ (by norm_num)]
    congr 2
    omega

theorem toList_zeroFill (width : ℕ) (s : String) :
    (zeroFill width s).toList = List.replicate (width - s.length) '0' ++ s.toList := by
  rw [zeroFill, String.toList_append, String.toList_ofList]

/-- Zeros before a number do not change it. -/
theorem natOfDigits?_zeroFill (width n : ℕ) : natOfDigits? (zeroFill width (natDigits n)).toList = some n := by
  rw [toList_zeroFill, natDigits, String.toList_ofList,
    natOfDigits?_eq ((AreDigits.zeros _).append (.toDigits n)) (by simp [Nat.toDigits_ne_nil]),
    Nat.ofDigitChars_append, Nat.ofDigitChars_replicate_zero, mul_zero, Nat.ofDigitChars_ten_toDigits]

/-- An exponent of at least two digits is read as itself. -/
theorem isExponent_zeroFill (lead : ℤ) :
    Binary64.IsExponent ('e' :: (if lead < 0 then '-' else '+') ::
      (zeroFill 2 (natDigits lead.natAbs)).toList) lead := by
  refine .inr ⟨_, _, ?_, ?_, rfl, ?_⟩
  · split_ifs <;> simp
  · rw [toList_zeroFill, natDigits, String.toList_ofList]
    exact (AreDigits.zeros _).append (.toDigits _)
  · split_ifs with below
    · rw [intOfDigits?, natOfDigits?_zeroFill]
      exact congrArg some (show -(lead.natAbs : ℤ) = lead by omega)
    · rw [intOfDigits?, natOfDigits?_zeroFill]
      exact congrArg some (show (lead.natAbs : ℤ) = lead by omega)

/-- Every form of a decimal writes its value. -/
theorem writes_text (positive : 0 < d.digits) : Writes d.text.toList d.toRat := by
  obtain ⟨areDigits, some_, value⟩ := significant_spec positive
  unfold text
  generalize d.significant = significant at *
  obtain ⟨digits, lead⟩ := significant
  simp only at areDigits some_ value ⊢
  rw [value]
  by_cases far : lead < -4 ∨ 16 ≤ lead
  · have := writes_scientific areDigits some_ (isExponent_zeroFill lead) (by simp)
    rw [if_pos far]
    convert this using 1
    obtain ⟨c, rest, rfl⟩ := List.exists_cons_of_ne_nil some_
    cases rest <;> split_ifs <;> simp [Binary64.pointed]
  · rw [if_neg far]
    by_cases below : lead < 0
    · have := writes_fraction areDigits some_ (-lead - 1).toNat
      rw [if_pos below]
      convert this using 1
      · simp
      · congr 2
        omega
    · have := writes_positional areDigits some_ (Nat.succ_pos lead.toNat)
      rw [if_neg below]
      convert this using 1
      · rw [String.toList_ofList]
      · congr 2
        push_cast
        omega

end Decimal

/-! ## The characters of a number -/

/-- A character of a number: a digit, a point, the mark of an exponent or a sign. -/
def IsNumeric (c : Char) : Prop := c.isDigit = true ∨ c = '.' ∨ c = 'e' ∨ c = '+' ∨ c = '-'

/-- The characters of a number: a digit first, or behind a minus sign. -/
def IsNumeral (cs : List Char) : Prop :=
  (∀ c ∈ cs, IsNumeric c) ∧ ∃ c rest, c.isDigit = true ∧ (cs = c :: rest ∨ cs = '-' :: c :: rest)

theorem AreDigits.isNumeric {cs : List Char} (h : AreDigits cs) : ∀ c ∈ cs, IsNumeric c :=
  fun c hc => .inl (h c hc)

theorem IsNumeral.neg {c : Char} {rest : List Char} (h : IsNumeral (c :: rest))
    (digit : c.isDigit = true) : IsNumeral ('-' :: c :: rest) := by
  refine ⟨fun d hd => ?_, c, rest, digit, .inr rfl⟩
  rcases List.mem_cons.1 hd with rfl | hd
  · simp [IsNumeric]
  · exact h.1 d hd

namespace Writes

variable {cs : List Char} {v : ℚ}

theorem exists_digit (h : Writes cs v) : ∃ c rest, c.isDigit = true ∧ cs = c :: rest := by
  obtain ⟨whole, part, tail, exponent, hwhole, some_, -, -, rfl, -⟩ := h
  obtain ⟨c, rest, rfl⟩ := List.exists_cons_of_ne_nil some_
  exact ⟨c, _, hwhole c List.mem_cons_self, rfl⟩

theorem isNumeral (h : Writes cs v) : IsNumeral cs := by
  obtain ⟨c, rest, digit, same⟩ := h.exists_digit
  refine ⟨?_, c, rest, digit, .inl same⟩
  obtain ⟨whole, part, tail, exponent, hwhole, -, hpart, htail, rfl, -⟩ := h
  intro d hd
  rcases List.mem_append.1 hd with hd | hd
  · rcases Binary64.mem_pointed hd with hd | rfl | hd
    · exact hwhole.isNumeric d hd
    · simp [IsNumeric]
    · exact hpart.isNumeric d hd
  · rcases htail with ⟨rfl, -⟩ | ⟨sign, digits, hsign, hdigits, rfl, -⟩
    · cases hd
    · rcases List.mem_cons.1 hd with rfl | hd
      · simp [IsNumeric]
      rcases List.mem_cons.1 hd with rfl | hd
      · rcases hsign with rfl | rfl <;> simp [IsNumeric]
      · exact hdigits.isNumeric d hd

/-- A point or an exponent tells a decimal from a whole number. -/
theorem isMarked (h : Writes cs v) : (cs.any fun c => c = '.' ∨ c = 'e' ∨ c = 'E') = true := by
  obtain ⟨whole, part, tail, exponent, -, -, -, htail, rfl, -, marked⟩ := h
  rw [List.any_eq_true]
  rcases htail with ⟨rfl, -⟩ | ⟨sign, digits, -, -, rfl, -⟩
  · have some_ : part ≠ [] := marked.resolve_right (by simp)
    exact ⟨'.', by simp [Binary64.pointed, some_], by simp⟩
  · exact ⟨'e', by simp, by simp⟩

/-- What writes a number between the limits is read as the double nearest to it. -/
theorem ofUnsigned? (h : Writes cs v) (positive : 0 < v) (low : (10 : ℚ) ^ (-400 : ℤ) ≤ v)
    (high : v < 10 ^ (400 : ℤ)) (negative : Bool) :
    Binary64.ofUnsigned? negative cs =
      some (if negative then (Binary64.ofRat v).neg else Binary64.ofRat v) := by
  obtain ⟨whole, part, tail, exponent, hwhole, some_, hpart, htail, rfl, rfl, -⟩ := h
  have digits : 0 < Nat.ofDigitChars 10 (whole ++ part) 0 := by
    exact_mod_cast pos_of_mul_pos_left positive (Decimal.ten_zpow_pos _).le
  rw [Binary64.ofUnsigned?_eq negative hwhole some_ hpart htail,
    ← Binary64.ofScientific_eq digits low high]
  cases negative <;> rfl

end Writes

/-! ## Data of the format -/

namespace Binary64

/-- A datum of the format: a number has at most 53 binary places and is below the overflow. -/
def IsDatum (x : Binary64) : Prop := ∀ q, x = finite q → Representable q ∧ |q| < overflow

theorem isDatum_finite {q : ℚ} : (finite q).IsDatum ↔ Representable q ∧ |q| < overflow := by
  simp [IsDatum]

theorem roundedAbs_lt_overflow {x : ℚ} (nonzero : x ≠ 0) (fits : |x| < overflow) :
    roundedAbs x < overflow := by
  have inRange := not_overflowing nonzero fits
  have most := significandAt_le (Int.natAbs_pos.2 (Rat.num_ne_zero.2 nonzero)) x.pos
  unfold roundedAbs magnitude overflow
  generalize significandAt x.num.natAbs x.den (lastPlace x.num.natAbs x.den) = m at *
  generalize lastPlace x.num.natAbs x.den = place at *
  have unit := two_zpow_pos 970
  rcases lt_or_ge place 971 with less | last
  · have le : (2 : ℚ) ^ place ≤ 2 ^ (970 : ℤ) := zpow_le_zpow_right₀ one_le_two (by omega)
    have most' : (m : ℚ) ≤ 2 ^ 53 := by exact_mod_cast most
    calc (m : ℚ) * 2 ^ place ≤ 2 ^ 53 * 2 ^ (970 : ℤ) :=
          mul_le_mul most' le (two_zpow_pos _).le (by norm_num)
      _ < (2 ^ 54 - 1) * 2 ^ (970 : ℤ) := mul_lt_mul_of_pos_right (by norm_num) unit
  · obtain rfl : place = 971 := by omega
    have less : m < 2 ^ 53 := Nat.not_le.1 fun full => inRange (.inr ⟨rfl, full⟩)
    have less' : (m : ℚ) + 1 ≤ 2 ^ 53 := by exact_mod_cast less
    rw [show (971 : ℤ) = 1 + 970 by norm_num, zpow_add₀ two_ne_zero, zpow_one]
    generalize (2 : ℚ) ^ (970 : ℤ) = u at *
    nlinarith

/-- Rounding gives a datum of the format. -/
theorem isDatum_ofRat (x : ℚ) : (ofRat x).IsDatum := by
  rcases lt_or_ge |x| overflow with fits | large
  · intro q same
    refine ⟨by simpa [same, toRat] using representable_ofRat fits, ?_⟩
    rcases eq_or_ne x 0 with rfl | nonzero
    · obtain rfl : 0 = q := by simpa using same
      simpa using fits
    · have value := toRat_ofRat nonzero fits
      rw [same] at value
      have nonneg : 0 ≤ roundedAbs x := mul_nonneg (by positivity) (two_zpow_pos _).le
      have size : |q| = roundedAbs x := by
        rw [show q = _ from value]
        split_ifs
        · rw [abs_neg, abs_of_nonneg nonneg]
        · exact abs_of_nonneg nonneg
      rw [size]
      exact roundedAbs_lt_overflow nonzero fits
  · rw [ofRat_of_overflow large]
    intro q same
    cases same

theorem isDatum_roundPlaces {x : Binary64} (places : ℕ) : (x.roundPlaces places).IsDatum := by
  cases x with
  | finite v =>
      unfold roundPlaces
      simp only
      split_ifs
      · unfold zeroOfSign
        split_ifs
        · intro q same
          cases same
        · exact isDatum_ofRat 0
      · exact isDatum_ofRat _
      · exact isDatum_ofRat _
  | _ =>
      intro q same
      cases same

/-! ## Reading a text back -/

variable {x : Binary64} {q : ℚ}

theorem writes_shortest (positive : 0 < q) (h : (finite q).IsDatum) :
    Writes (Decimal.shortest q).text.toList (Decimal.shortest q).toRat := by
  obtain ⟨hq, fits⟩ := isDatum_finite.1 h
  rw [abs_of_pos positive] at fits
  exact Decimal.writes_text (Decimal.digits_shortest_pos positive hq fits)

theorem ofUnsigned?_shortest (positive : 0 < q) (h : (finite q).IsDatum) (negative : Bool) :
    ofUnsigned? negative (Decimal.shortest q).text.toList =
      some (if negative then finite (-q) else finite q) := by
  have writes := writes_shortest positive h
  obtain ⟨hq, fits⟩ := isDatum_finite.1 h
  rw [abs_of_pos positive] at fits
  obtain ⟨low, high⟩ := Decimal.shortest_bounds positive hq fits
  rw [writes.ofUnsigned? ((Decimal.ten_zpow_pos _).trans_le low) low high,
    Decimal.ofRat_shortest positive hq fits, neg, if_neg positive.ne']

theorem writes_zero : Writes ['0', '.', '0'] 0 := by
  have zero : Nat.ofDigitChars 10 ['0'] 0 = 0 := rfl
  simpa [zero] using writes_fraction (.zeros 1) (by simp) 0

/-- The text of a finite datum is a decimal, after a minus sign where the datum is negative, and is read as
the datum. -/
theorem exists_writes (h : x.IsDatum) (isFinite : x.isFinite = true) (names : NonFiniteNames) :
    ∃ negative cs v, Writes cs v ∧ (x.text names).toList = (if negative then '-' :: cs else cs) ∧
      ofUnsigned? negative cs = some x := by
  cases x with
  | nan => cases isFinite
  | infinite negative => cases isFinite
  | negativeZero => exact ⟨true, _, 0, writes_zero, by simp [text], rfl⟩
  | finite q =>
      obtain ⟨hq, fits⟩ := isDatum_finite.1 h
      rcases lt_trichotomy q 0 with below | rfl | above
      · have datum : (finite (-q)).IsDatum :=
          isDatum_finite.2 ⟨representable_neg hq, by rwa [abs_neg]⟩
        refine ⟨true, _, _, writes_shortest (neg_pos.2 below) datum, ?_, ?_⟩
        · rw [text, if_neg below.ne, if_pos below, String.toList_append]
          rfl
        · rw [ofUnsigned?_shortest (neg_pos.2 below) datum, if_pos rfl, neg_neg]
      · exact ⟨false, _, 0, writes_zero, by simp [text], rfl⟩
      · refine ⟨false, _, _, writes_shortest above h, ?_, ofUnsigned?_shortest above h false⟩
        rw [text, if_neg above.ne', if_neg (not_lt.2 above.le)]
        rfl

end Binary64

namespace Number

/-- A whole number, or a datum of the format of doubles. -/
def IsDatum (n : Number) : Prop := ∀ x, n = real x → x.IsDatum

/-- A decimal is read as a double, behind a minus sign as a negative one. -/
theorem ofChars?_of_writes {cs : List Char} {v : ℚ} (h : Writes cs v) (negative : Bool) :
    ofChars? (if negative then '-' :: cs else cs) = (Binary64.ofUnsigned? negative cs).map real := by
  obtain ⟨c, rest, digit, rfl⟩ := h.exists_digit
  have marked := h.isMarked
  cases negative
  · unfold ofChars?
    rw [if_neg Bool.false_ne_true, if_pos marked]
    split
    · next same =>
      obtain ⟨rfl, -⟩ := List.cons.inj same
      cases digit
    · rfl
  · rw [if_pos rfl, ofChars?, List.any_cons, marked, Bool.or_true, if_pos rfl]

theorem ofChars?_intDigits (n : ℤ) : ofChars? (intDigits n).toList = some (whole n) := by
  have digits := AreDigits.toDigits n.natAbs
  have plain : ¬((intDigits n).toList.any fun c => c = '.' ∨ c = 'e' ∨ c = 'E') = true := by
    rw [toList_intDigits, List.any_eq_true]
    rintro ⟨c, hc, mark⟩
    have cases_ : c = '-' ∨ c ∈ Nat.toDigits 10 n.natAbs := by
      split_ifs at hc
      · exact List.mem_cons.1 hc
      · exact .inr hc
    rw [decide_eq_true_eq] at mark
    rcases cases_ with rfl | hc
    · revert mark
      decide
    · rcases mark with rfl | rfl | rfl <;> cases digits _ hc
  unfold ofChars?
  rw [if_neg plain, intOfDigits?_intDigits]
  rfl

/-- **A number comes back from its shortest text.** -/
theorem ofChars?_text {n : Number} (h : n.IsDatum) (isFinite : n.exact.isFinite = true)
    (names : NonFiniteNames) : ofChars? (n.text names).toList = some n := by
  cases n with
  | whole n => exact ofChars?_intDigits n
  | real x =>
      obtain ⟨negative, cs, v, writes, same, read⟩ := Binary64.exists_writes (h x rfl) isFinite names
      rw [text, same, ofChars?_of_writes writes, read]
      rfl

theorem isNumeral_text {n : Number} (h : n.IsDatum) (isFinite : n.exact.isFinite = true)
    (names : NonFiniteNames) : IsNumeral (n.text names).toList := by
  cases n with
  | whole n =>
      obtain ⟨c, rest, same⟩ := List.exists_cons_of_ne_nil (Nat.toDigits_ne_nil (n := n.natAbs) (b := 10))
      have digits := AreDigits.toDigits n.natAbs
      rw [same] at digits
      have digit := digits c List.mem_cons_self
      have plain : IsNumeral (c :: rest) := ⟨digits.isNumeric, c, rest, digit, .inl rfl⟩
      rw [text, toList_intDigits, same]
      split_ifs
      · exact plain.neg digit
      · exact plain
  | real x =>
      obtain ⟨negative, cs, v, writes, same, -⟩ := Binary64.exists_writes (h x rfl) isFinite names
      obtain ⟨c, rest, digit, rfl⟩ := writes.exists_digit
      rw [text, same]
      cases negative
      · exact writes.isNumeral
      · exact writes.isNumeral.neg digit

end Number

end Deliberation
