/-
# Proofs.Number.Order -- doubles compare as extended rationals

The comparisons of doubles are those of the rationals with two infinities at the ends, among data
that are not undefined (`lt_iff`, `le_iff`); transitivity follows from there.  So of two ordered data the
first is the lower end, the second is the upper one, or both are finite (`le_cases`).  Numbers, whole or
not, compare as the doubles that stand for them.
-/
import Deliberation.Number.Basic
import Mathlib.Algebra.Order.Field.Rat
import Mathlib.Data.Prod.Lex

set_option autoImplicit false

namespace Deliberation

namespace Binary64

/-- The place of a datum: an infinity at either end, and between them the rationals.  The undefined
value has no place of its own. -/
def place (x : Binary64) : ℤ ×ₗ ℚ :=
  match x with
  | infinite true => toLex (-1, 0)
  | infinite false => toLex (1, 0)
  | x => toLex (0, x.toRat)

theorem lt_iff (x y : Binary64) :
    x < y ↔ x.isNaN = false ∧ y.isNaN = false ∧ x.place < y.place := by
  change x.lt y = true ↔ _
  rcases x with _ | (_ | _) | _ | a <;> rcases y with _ | (_ | _) | _ | b <;>
    simp [lt, isNaN, place, Prod.Lex.toLex_lt_toLex]

theorem le_iff (x y : Binary64) :
    x ≤ y ↔ x.isNaN = false ∧ y.isNaN = false ∧ x.place ≤ y.place := by
  have above : y.lt x = true ↔ y.isNaN = false ∧ x.isNaN = false ∧ y.place < x.place := lt_iff y x
  have opened : x ≤ y ↔ (x.isNaN = false ∧ y.isNaN = false) ∧ ¬y.lt x = true := by
    change (!x.isNaN && !y.isNaN && !y.lt x) = true ↔ _
    simp
  rw [opened, above, ← not_lt]
  tauto

theorem lt_of_lt_of_le {x y z : Binary64} (hxy : x < y) (hyz : y ≤ z) : x < z := by
  obtain ⟨hx, -, less⟩ := (lt_iff x y).1 hxy
  obtain ⟨-, hz, notMore⟩ := (le_iff y z).1 hyz
  exact (lt_iff x z).2 ⟨hx, hz, less.trans_le notMore⟩

theorem lt_of_le_of_lt {x y z : Binary64} (hxy : x ≤ y) (hyz : y < z) : x < z := by
  obtain ⟨hx, -, notMore⟩ := (le_iff x y).1 hxy
  obtain ⟨-, hz, less⟩ := (lt_iff y z).1 hyz
  exact (lt_iff x z).2 ⟨hx, hz, notMore.trans_lt less⟩

theorem isNaN_of_le_left {x y : Binary64} (h : x ≤ y) : x.isNaN = false := ((le_iff x y).1 h).1

theorem isNaN_of_le_right {x y : Binary64} (h : x ≤ y) : y.isNaN = false := ((le_iff x y).1 h).2.1

protected theorem le_refl {x : Binary64} (h : x.isNaN = false) : x ≤ x :=
  (le_iff x x).2 ⟨h, h, le_rfl⟩

protected theorem le_trans {x y z : Binary64} (h : x ≤ y) (h' : y ≤ z) : x ≤ z := by
  obtain ⟨hx, -, le⟩ := (le_iff x y).1 h
  obtain ⟨-, hz, le'⟩ := (le_iff y z).1 h'
  exact (le_iff x z).2 ⟨hx, hz, le.trans le'⟩

protected theorem le_of_lt {x y : Binary64} (h : x < y) : x ≤ y := by
  obtain ⟨hx, hy, less⟩ := (lt_iff x y).1 h
  exact (le_iff x y).2 ⟨hx, hy, less.le⟩

protected theorem not_le_of_lt {x y : Binary64} (h : x < y) : ¬y ≤ x := fun above =>
  absurd ((lt_iff x y).1 h).2.2 (not_lt.2 ((le_iff y x).1 above).2.2)

/-! ## Finite and infinite data -/

theorem isNaN_of_isFinite {x : Binary64} (h : x.isFinite = true) : x.isNaN = false := by
  cases x <;> first | rfl | exact absurd h (by decide)

/-- The place of what is not infinite. -/
theorem place_of_isFinite {x : Binary64} (h : x.isFinite = true) : x.place = toLex (0, x.toRat) := by
  cases x with
  | nan => rfl
  | infinite negative => exact absurd h (by cases negative <;> decide)
  | negativeZero => rfl
  | finite q => rfl

theorem place_infinite (negative : Bool) :
    (infinite negative).place = toLex (if negative then -1 else 1, 0) := by
  cases negative <;> rfl

/-- The infinities are the ends. -/
theorem place_bounds (x : Binary64) :
    (infinite true).place ≤ x.place ∧ x.place ≤ (infinite false).place := by
  rcases x with _ | (_ | _) | _ | q <;> simp [place, Prod.Lex.toLex_le_toLex]

theorem infinite_le {x : Binary64} (h : x.isNaN = false) : infinite true ≤ x :=
  (le_iff _ x).2 ⟨rfl, h, x.place_bounds.1⟩

theorem le_infinite {x : Binary64} (h : x.isNaN = false) : x ≤ infinite false :=
  (le_iff x _).2 ⟨h, rfl, x.place_bounds.2⟩

theorem le_iff_of_isFinite {x y : Binary64} (hx : x.isFinite = true) (hy : y.isFinite = true) :
    x ≤ y ↔ x.toRat ≤ y.toRat := by
  rw [le_iff, place_of_isFinite hx, place_of_isFinite hy, Prod.Lex.toLex_le_toLex]
  simp [isNaN_of_isFinite hx, isNaN_of_isFinite hy]

theorem lt_iff_of_isFinite {x y : Binary64} (hx : x.isFinite = true) (hy : y.isFinite = true) :
    x < y ↔ x.toRat < y.toRat := by
  rw [lt_iff, place_of_isFinite hx, place_of_isFinite hy, Prod.Lex.toLex_lt_toLex]
  simp [isNaN_of_isFinite hx, isNaN_of_isFinite hy]

theorem finite_lt_finite_iff {a b : ℚ} : finite a < finite b ↔ a < b := decide_eq_true_iff

theorem finite_or_infinite {x : Binary64} (h : x.isNaN = false) :
    x.isFinite = true ∨ ∃ negative, x = infinite negative := by
  cases x with
  | nan => exact absurd h (by decide)
  | infinite negative => exact .inr ⟨negative, rfl⟩
  | negativeZero => exact .inl rfl
  | finite q => exact .inl rfl

/-- Of two ordered data, the first is at the bottom, the second is at the top, or both are finite. -/
theorem le_cases {x y : Binary64} (h : x ≤ y) : x = infinite true ∨ y = infinite false ∨
    (x.isFinite = true ∧ y.isFinite = true ∧ x.toRat ≤ y.toRat) := by
  have le := ((le_iff x y).1 h).2.2
  rcases finite_or_infinite (isNaN_of_le_left h) with finX | ⟨_ | _, rfl⟩ <;>
    rcases finite_or_infinite (isNaN_of_le_right h) with finY | ⟨_ | _, rfl⟩
  · exact .inr (.inr ⟨finX, finY, (le_iff_of_isFinite finX finY).1 h⟩)
  · exact .inr (.inl rfl)
  · rw [place_of_isFinite finX, place_infinite, Prod.Lex.toLex_le_toLex] at le
    simp at le
  · rw [place_of_isFinite finY, place_infinite, Prod.Lex.toLex_le_toLex] at le
    simp at le
  · exact .inr (.inl rfl)
  · exact absurd le (by decide)
  · exact .inl rfl
  · exact .inl rfl
  · exact .inl rfl

theorem finite_le_finite {a b : ℚ} (h : a ≤ b) : finite a ≤ finite b :=
  (le_iff _ _).2 ⟨rfl, rfl, Prod.Lex.toLex_le_toLex.2 (.inr ⟨rfl, h⟩)⟩

end Binary64

/-! ## Numbers -/

namespace Number

variable {a b c : Number}

theorem lt_of_lt_of_le (h : a < b) (h' : b ≤ c) : a < c := Binary64.lt_of_lt_of_le h h'

theorem lt_of_le_of_lt (h : a ≤ b) (h' : b < c) : a < c := Binary64.lt_of_le_of_lt h h'

theorem le_of_lt (h : a < b) : a ≤ b := Binary64.le_of_lt h

theorem le_trans (h : a ≤ b) (h' : b ≤ c) : a ≤ c := Binary64.le_trans h h'

theorem not_le_of_lt (h : a < b) : ¬b ≤ a := Binary64.not_le_of_lt h

theorem not_lt_iff (ha : a.exact.isNaN = false) (hb : b.exact.isNaN = false) : ¬a < b ↔ b ≤ a := by
  change ¬a.exact < b.exact ↔ b.exact ≤ a.exact
  rw [Binary64.lt_iff, Binary64.le_iff]
  simp [ha, hb]

end Number

end Deliberation
