/-
# Proofs.Proposition.Accepted -- which lists are accepted

A list of values is accepted where every record is read and all ids are different, and then its
propositions are those of the records, one by one (`readPropositions_eq_ok_iff`).  So the index from
which records are counted matters to faults only.
-/
import Deliberation.Proposition.Validation
import Deliberation.Proofs.Fallible
import Mathlib.Data.List.Nodup

set_option autoImplicit false

namespace Deliberation

/-- A list is read where every record is read and no id is taken or occurs twice. -/
theorem propositionsFrom_eq_ok_iff {index : ℕ} {taken : List String} {vs : List Value}
    {ps : List Proposition} :
    propositionsFrom index taken vs = .ok ps ↔
      List.Forall₂ (fun v p => Proposition.ofValue v = .ok p) vs ps ∧
        (ps.map Proposition.id).Nodup ∧ ∀ p ∈ ps, p.id ∉ taken := by
  induction vs generalizing index taken ps with
  | nil =>
      rw [propositionsFrom, Except.ok.injEq, List.forall₂_nil_left_iff, eq_comm]
      constructor
      · rintro rfl; simp
      · exact fun h => h.1
  | cons v rest ih =>
      rw [propositionsFrom]
      cases read : Proposition.ofValue v with
      | error fault => simp [read, List.forall₂_cons_left_iff]
      | ok p =>
          simp only [List.contains_iff_mem, List.forall₂_cons_left_iff, read, Except.ok.injEq]
          by_cases old : p.id ∈ taken
          · rw [if_pos old]
            constructor
            · intro h; cases h
            · rintro ⟨⟨q, qs, rfl, -, rfl⟩, -, fresh⟩
              exact absurd old (fresh p List.mem_cons_self)
          · rw [if_neg old, map_eq_ok_iff]
            simp only [ih, List.mem_cons, not_or]
            constructor
            · rintro ⟨qs, ⟨records, nodup, fresh⟩, rfl⟩
              refine ⟨⟨p, qs, rfl, records, rfl⟩, ?_, ?_⟩
              · rw [List.map_cons, List.nodup_cons, List.mem_map]
                refine ⟨?_, nodup⟩
                rintro ⟨q, hq, same⟩
                exact (fresh q hq).1 same
              · intro q hq
                rcases List.mem_cons.1 hq with rfl | hq
                · exact old
                · exact (fresh q hq).2
            · rintro ⟨⟨q, qs, rfl, records, rfl⟩, nodup, fresh⟩
              rw [List.map_cons, List.nodup_cons, List.mem_map] at nodup
              refine ⟨qs, ⟨records, nodup.2, fun q hq => ⟨fun same => ?_, ?_⟩⟩, rfl⟩
              · exact nodup.1 ⟨q, hq, same⟩
              · exact fresh q (List.mem_cons_of_mem p hq)

theorem readPropositions_eq_ok_iff {vs : List Value} {ps : List Proposition} :
    readPropositions (.list vs) = .ok ps ↔
      vs.mapM Proposition.ofValue = .ok ps ∧ (ps.map Proposition.id).Nodup := by
  rw [readPropositions, propositionsFrom_eq_ok_iff, mapM_eq_ok_iff]
  simp

/-- The ids of an accepted list are all different. -/
theorem nodup_ids {v : Value} {ps : List Proposition} (accepted : readPropositions v = .ok ps) :
    (ps.map Proposition.id).Nodup := by
  cases v with
  | list items => exact (readPropositions_eq_ok_iff.1 accepted).2
  | _ => simp [readPropositions] at accepted

/-- What a proposition takes over from its record. -/
theorem fields_of_ofValue {v : Value} {p : Proposition} (h : Proposition.ofValue v = .ok p) :
    v.field "id" = .text p.id ∧ v.field "statement" = .text p.statement := by
  simp only [Proposition.ofValue, bind_eq_ok_iff, pure_eq_ok, Except.ok.injEq] at h
  obtain ⟨-, -, id, hid, statement, hstatement, metadata, -, rfl⟩ := h
  constructor
  · cases hv : v.field "id" with
    | text s =>
        rw [hv, requireName] at hid
        split_ifs at hid
        rw [Except.ok.inj hid]
    | _ => simp [hv, requireName] at hid
  · cases hv : v.field "statement" with
    | text s =>
        rw [hv, requireStatement] at hstatement
        rw [Except.ok.inj hstatement]
    | _ => simp [hv, requireStatement] at hstatement

theorem length_of_accepted {vs : List Value} {ps : List Proposition}
    (accepted : readPropositions (.list vs) = .ok ps) : vs.length = ps.length :=
  (mapM_eq_ok_iff.1 (readPropositions_eq_ok_iff.1 accepted).1).length_eq

/-- The id of an accepted record is that of a proposition. -/
theorem id_mem_of_accepted {vs : List Value} {ps : List Proposition}
    (accepted : readPropositions (.list vs) = .ok ps) {v : Value} (hv : v ∈ vs) {id : String}
    (hid : v.field "id" = .text id) : id ∈ ps.map Proposition.id := by
  obtain ⟨p, hp, read⟩ := exists_answer_of_mapM (readPropositions_eq_ok_iff.1 accepted).1 hv
  have same : id = p.id := by simpa [(fields_of_ofValue read).1] using hid.symm
  exact same ▸ List.mem_map_of_mem hp

end Deliberation
