/-
# Proofs.Cache.Clock -- the age of what was put

A clock shows finite doubles and never goes back (`Ticking`).  The age of what was put is then a
difference of two readings; it always has an answer (`exists_age`), and it grows with later readings
and earlier puts, however the difference is rounded (`age_le_age`).  So what has expired stays expired,
and so has everything that was put before it (`Expired.mono`).
-/
import Deliberation.Cache
import Deliberation.Proofs.Fallible
import Deliberation.Proofs.Number.Monotone

set_option autoImplicit false

namespace Deliberation

/-! ## Readings -/

namespace Number

/-- What a clock shows: a finite double. -/
def IsReading (t : Number) : Prop := ∃ x : Binary64, t = real x ∧ x.isFinite = true

variable {a b t now now' stamp stamp' age age' : Number}

theorem IsReading.not_lt_iff (ha : a.IsReading) (hb : b.IsReading) : ¬a < b ↔ b ≤ a := by
  obtain ⟨x, rfl, hx⟩ := ha
  obtain ⟨y, rfl, hy⟩ := hb
  exact Number.not_lt_iff (Binary64.isNaN_of_isFinite hx) (Binary64.isNaN_of_isFinite hy)

theorem IsReading.le_refl (ha : a.IsReading) : a ≤ a := by
  obtain ⟨x, rfl, hx⟩ := ha
  exact Binary64.le_refl (Binary64.isNaN_of_isFinite hx)

/-- The time between two readings has an answer. -/
theorem exists_age (hn : now.IsReading) (hs : stamp.IsReading) : ∃ age, now.sub stamp = .ok age := by
  obtain ⟨x, rfl, -⟩ := hn
  obtain ⟨y, rfl, -⟩ := hs
  exact ⟨real (x - y), rfl⟩

/-- **Ages grow** with later readings and earlier stamps. -/
theorem age_le_age (hn : now.IsReading) (hs : stamp.IsReading) (hn' : now'.IsReading)
    (hs' : stamp'.IsReading) (later : now ≤ now') (earlier : stamp' ≤ stamp)
    (h : now.sub stamp = .ok age) (h' : now'.sub stamp' = .ok age') : age ≤ age' := by
  obtain ⟨a, rfl, ha⟩ := hn
  obtain ⟨b, rfl, hb⟩ := hs
  obtain ⟨c, rfl, hc⟩ := hn'
  obtain ⟨d, rfl, hd⟩ := hs'
  obtain rfl : real (a - b) = age := Except.ok.inj h
  obtain rfl : real (c - d) = age' := Except.ok.inj h'
  exact Binary64.sub_le_sub ha hb hc hd ((Binary64.le_iff_of_isFinite ha hc).1 later)
    ((Binary64.le_iff_of_isFinite hd hb).1 earlier)

end Number

/-- The readings of a clock that never goes back. -/
structure Ticking (times : List Number) : Prop where
  readings : ∀ t ∈ times, t.IsReading
  forward : times.Pairwise (· ≤ ·)

namespace Ticking

variable {times later : List Number} {now : Number}

theorem sublist (h : Ticking times) (sub : later.Sublist times) : Ticking later :=
  ⟨fun t ht => h.readings t (sub.subset ht), h.forward.sublist sub⟩

theorem of_append (h : Ticking (times ++ later)) : Ticking times :=
  h.sublist (List.sublist_append_left _ _)

theorem le (h : Ticking (times ++ later)) {t : Number} (ht : t ∈ times) {t' : Number}
    (ht' : t' ∈ later) : t ≤ t' := (List.pairwise_append.1 h.forward).2.2 t ht t' ht'

end Ticking

/-! ## Expiry -/

namespace Cache

/-- What was put at a time is older than its time to live. -/
def Expired (ttl stamp now : Number) : Prop := ∃ age, now.sub stamp = .ok age ∧ ttl < age

variable {ttl stamp stamp' now now' : Number}

instance : Decidable (Expired ttl stamp now) :=
  match h : now.sub stamp with
  | .ok age => decidable_of_iff (ttl < age) (by simp [Expired, h])
  | .error _ => .isFalse (by simp [Expired, h])

theorem Expired.mono (hn : now.IsReading) (hs : stamp.IsReading) (hn' : now'.IsReading)
    (hs' : stamp'.IsReading) (later : now ≤ now') (earlier : stamp' ≤ stamp)
    (h : Expired ttl stamp now) : Expired ttl stamp' now' := by
  obtain ⟨age, hage, less⟩ := h
  obtain ⟨age', hage'⟩ := Number.exists_age hn' hs'
  exact ⟨age', hage', Number.lt_of_lt_of_le less
    (Number.age_le_age hn hs hn' hs' later earlier hage hage')⟩

/-- What has not expired is at most as old as its time to live, if that is defined. -/
theorem not_expired_iff (defined : ttl.exact.isNaN = false) (hn : now.IsReading)
    (hs : stamp.IsReading) : ¬Expired ttl stamp now ↔ ∃ age, now.sub stamp = .ok age ∧ age ≤ ttl := by
  obtain ⟨x, rfl, hx⟩ := hn
  obtain ⟨y, rfl, hy⟩ := hs
  have age : (Number.real x).sub (.real y) = .ok (.real (x - y)) := rfl
  have compare : ¬ttl < .real (x - y) ↔ .real (x - y) ≤ ttl := by
    change ¬ttl.exact < x - y ↔ x - y ≤ ttl.exact
    rw [Binary64.lt_iff, Binary64.le_iff]
    simp [defined, (Binary64.place_sub hx hy).1]
  simp [Expired, age, compare]

section

variable {κ α : Type} {c : Cache κ α} {e : Entry κ α}

theorem isExpired_eq_true_iff (hn : now.IsReading) (hs : e.stamp.IsReading) :
    c.isExpired now e = .ok true ↔ Expired c.ttl e.stamp now := by
  obtain ⟨age, hage⟩ := Number.exists_age hn hs
  simp [isExpired, Expired, hage]

theorem isExpired_eq_false_iff (hn : now.IsReading) (hs : e.stamp.IsReading) :
    c.isExpired now e = .ok false ↔ ¬Expired c.ttl e.stamp now := by
  obtain ⟨age, hage⟩ := Number.exists_age hn hs
  simp [isExpired, Expired, hage]

end

end Cache

end Deliberation
