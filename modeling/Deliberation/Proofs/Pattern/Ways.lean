/-
# Proofs.Pattern.Ways -- the ways through a pattern

Everything a pattern does to a text goes through two observations of a place: whether it is a boundary,
and what follows it when one character of a class is read (`Cursor.step?`).  Greedy runs are no exception:
the places a run offers are reached by such steps (`reach_of_step?`).  From this follow the two facts that
the rest of the theory uses, for patterns without general repetition (`flat`):

* the place that is accepted lies ahead, and what lies between holds the characters that the pattern
  demands (`exists_reads`);
* places that cannot be told apart by these observations lead to the same match (`find_rel`).
-/
import Deliberation.Pattern.Matching
import Mathlib.Data.List.Forall2

set_option autoImplicit false

namespace Deliberation

open Text

/-! ## One step -/

namespace Cursor

/-- The place after one character of a class. -/
def step? (cls : CharClass) (s : Cursor) : Option Cursor :=
  match s.rest with
  | c :: rest => if cls.holds c then some ⟨some c, rest⟩ else none
  | [] => none

variable {cls : CharClass} {s t : Cursor}

theorem step?_eq_some_iff :
    s.step? cls = some t ↔ ∃ c, s.rest = c :: t.rest ∧ t.before = some c ∧ cls.holds c = true := by
  obtain ⟨before, rest⟩ := s
  cases rest with
  | nil => simp [step?]
  | cons c rest =>
      obtain ⟨before', rest'⟩ := t
      simp only [step?, Option.ite_none_right_eq_some, Option.some.injEq, mk.injEq, List.cons.injEq]
      constructor
      · rintro ⟨held, rfl, rfl⟩
        exact ⟨c, ⟨rfl, rfl⟩, rfl, held⟩
      · rintro ⟨d, ⟨rfl, rfl⟩, rfl, held⟩
        exact ⟨held, rfl, rfl⟩

/-- Reading characters of a class one by one comes to an end. -/
@[elab_as_elim]
theorem step_induction (cls : CharClass) {motive : Cursor → Prop}
    (stuck : ∀ s, s.step? cls = none → motive s)
    (moves : ∀ s t, s.step? cls = some t → motive t → motive s) (s : Cursor) : motive s := by
  induction ahead : s.rest generalizing s with
  | nil => exact stuck s (by simp [step?, ahead])
  | cons c rest ih =>
      cases step : s.step? cls with
      | none => exact stuck s step
      | some t =>
          obtain ⟨d, here, -, -⟩ := step?_eq_some_iff.1 step
          exact moves s t step (ih t (List.cons.inj (here.symm.trans ahead)).2)

/-- The places up to which characters of a class follow a place, farthest first. -/
def reach (cls : CharClass) (s : Cursor) : List Cursor := stops cls [] s.before s.rest

theorem stops_append (cls : CharClass) (nearer farther : List Cursor) (before : Option Char)
    (cs : List Char) :
    stops cls (nearer ++ farther) before cs = stops cls nearer before cs ++ farther := by
  induction cs generalizing nearer before with
  | nil => rfl
  | cons c cs ih =>
      simp only [stops]
      split
      · exact ih (⟨before, c :: cs⟩ :: nearer) (some c)
      · rfl

theorem reach_of_step? (h : s.step? cls = some t) : s.reach cls = t.reach cls ++ [s] := by
  obtain ⟨before, rest⟩ := s
  obtain ⟨before', rest'⟩ := t
  obtain ⟨c, rfl, rfl, held⟩ := step?_eq_some_iff.1 h
  simp only [reach, stops, held, if_true]
  exact stops_append cls [] _ _ _

theorem reach_of_step?_eq_none (h : s.step? cls = none) : s.reach cls = [s] := by
  obtain ⟨before, rest⟩ := s
  cases rest with
  | nil => rfl
  | cons c rest =>
      have held : cls.holds c = false := by simpa [step?] using h
      simp [reach, stops, held]

/-- A place offered by a run of at least so many characters comes after so many of the class. -/
theorem exists_of_mem_take_reach {least : ℕ}
    (h : t ∈ (s.reach cls).take ((s.reach cls).length - least)) :
    ∃ span, s.rest = span ++ t.rest ∧ least ≤ span.length ∧ ∀ c ∈ span, cls.holds c = true := by
  induction s using step_induction cls generalizing least with
  | stuck s stuck =>
      rw [reach_of_step?_eq_none stuck] at h
      cases least with
      | zero =>
          obtain rfl : t = s := by simpa using h
          exact ⟨[], rfl, Nat.le_refl 0, by simp⟩
      | succ least => simp at h
  | moves s u step ih =>
      obtain ⟨c, here, -, held⟩ := step?_eq_some_iff.1 step
      rw [reach_of_step? step, List.length_append, List.length_singleton] at h
      -- one character is read here, so one fewer has to be read from there on
      have onward (fewer : ℕ) (later : t ∈ (u.reach cls).take ((u.reach cls).length - fewer)) :
          ∃ span, s.rest = span ++ t.rest ∧ fewer + 1 ≤ span.length ∧
            ∀ c ∈ span, cls.holds c = true := by
        obtain ⟨span, whole, many, all⟩ := ih later
        exact ⟨c :: span, by rw [here, whole, List.cons_append], Nat.succ_le_succ many,
          List.forall_mem_cons.2 ⟨held, all⟩⟩
      cases least with
      | zero =>
          rcases List.mem_append.1 (List.mem_of_mem_take h) with later | same
          · obtain ⟨span, whole, -, all⟩ := onward 0 (by simpa using later)
            exact ⟨span, whole, Nat.zero_le _, all⟩
          · obtain rfl := List.mem_singleton.1 same
            exact ⟨[], rfl, Nat.le_refl 0, by simp⟩
      | succ least =>
          rw [Nat.add_sub_add_right, List.take_append_of_le_length (Nat.sub_le _ _)] at h
          exact onward least h

end Cursor

namespace Pattern

variable {p : Pattern} {s t : Cursor}

/-- No general repetition. -/
def flat : Pattern → Bool
  | empty | one _ | boundary | run _ _ => true
  | seq first second | choice first second => first.flat && second.flat
  | optional body => body.flat
  | repeated _ _ => false

/-- The classes of the characters that are read. -/
def classes : Pattern → List CharClass
  | empty | boundary => []
  | one cls | run cls _ => [cls]
  | seq first second | choice first second => first.classes ++ second.classes
  | optional body | repeated body _ => body.classes

/-- Every way through the pattern reads a class of a kind. -/
def demands (kind : CharClass → Bool) : Pattern → Bool
  | empty | boundary | optional _ | repeated _ _ => false
  | one cls => kind cls
  | run cls least => decide (0 < least) && kind cls
  | seq first second => first.demands kind || second.demands kind
  | choice first second => first.demands kind && second.demands kind

section

variable {β : Type} (first second : Pattern) (s : Cursor) (next : Cursor → Option β)

theorem find_one (cls : CharClass) : (one cls).find s next = (s.step? cls).bind next := by
  obtain ⟨before, rest⟩ := s
  cases rest with
  | nil => rfl
  | cons c rest => by_cases held : cls.holds c = true <;> simp [find, Cursor.step?, held]

theorem find_choice : (choice first second).find s next =
    (first.find s next).or (second.find s next) := by
  cases found : first.find s next <;> simp [find, found]

theorem find_optional : (optional first).find s next = (first.find s next).or (next s) := by
  cases found : first.find s next <;> simp [find, found]

end

/-! ## What lies between -/

/-- The second place lies ahead, and between the two stand the characters that the pattern demands. -/
structure Reads (p : Pattern) (s t : Cursor) (span : List Char) : Prop where
  rest : s.rest = span ++ t.rest
  demanded {kind : CharClass → Bool} (demands : p.demands kind = true) :
    ∃ c ∈ span, ∃ cls, kind cls = true ∧ cls.holds c = true

theorem Reads.rfl_of_no_demand (none : ∀ kind, p.demands kind = false) (s : Cursor) :
    p.Reads s s [] where
  rest := rfl
  demanded demands := absurd demands (by simp [none])

/-- **What is accepted was read.** -/
theorem exists_reads {β : Type} {next : Cursor → Option β} {r : β} (flat : p.flat = true)
    (h : p.find s next = some r) : ∃ t span, p.Reads s t span ∧ next t = some r := by
  induction p generalizing s next r with
  | empty => exact ⟨s, [], .rfl_of_no_demand (fun _ => rfl) s, h⟩
  | one cls =>
      rw [find_one, Option.bind_eq_some_iff] at h
      obtain ⟨t, step, accepted⟩ := h
      obtain ⟨c, here, -, held⟩ := Cursor.step?_eq_some_iff.1 step
      exact ⟨t, [c], ⟨here, fun kind => ⟨c, List.mem_singleton_self c, cls, kind, held⟩⟩, accepted⟩
  | boundary =>
      simp only [find, Option.ite_none_right_eq_some] at h
      exact ⟨s, [], .rfl_of_no_demand (fun _ => rfl) s, h.2⟩
  | run cls least =>
      obtain ⟨t, member, accepted⟩ := List.exists_of_findSome?_eq_some h
      obtain ⟨span, whole, many, all⟩ := Cursor.exists_of_mem_take_reach member
      refine ⟨t, span, ⟨whole, fun demands => ?_⟩, accepted⟩
      simp only [Pattern.demands, Bool.and_eq_true, decide_eq_true_eq] at demands
      obtain ⟨c, hc⟩ := List.exists_mem_of_length_pos (Nat.lt_of_lt_of_le demands.1 many)
      exact ⟨c, hc, cls, demands.2, all c hc⟩
  | seq first second ih₁ ih₂ =>
      simp only [Pattern.flat, Bool.and_eq_true] at flat
      obtain ⟨t, span₁, reads₁, later⟩ := ih₁ flat.1 h
      obtain ⟨u, span₂, reads₂, accepted⟩ := ih₂ flat.2 later
      refine ⟨u, span₁ ++ span₂, ⟨by rw [reads₁.rest, reads₂.rest, List.append_assoc], ?_⟩, accepted⟩
      intro kind demands
      simp only [Pattern.demands, Bool.or_eq_true] at demands
      rcases demands with demands | demands
      · obtain ⟨c, member, held⟩ := reads₁.demanded demands
        exact ⟨c, List.mem_append_left _ member, held⟩
      · obtain ⟨c, member, held⟩ := reads₂.demanded demands
        exact ⟨c, List.mem_append_right _ member, held⟩
  | choice first second ih₁ ih₂ =>
      simp only [Pattern.flat, Bool.and_eq_true] at flat
      rw [find_choice, Option.or_eq_some_iff] at h
      rcases h with found | ⟨-, found⟩
      · obtain ⟨t, span, reads, accepted⟩ := ih₁ flat.1 found
        exact ⟨t, span, ⟨reads.rest, fun demands => reads.demanded (Bool.and_eq_true_iff.1 demands).1⟩,
          accepted⟩
      · obtain ⟨t, span, reads, accepted⟩ := ih₂ flat.2 found
        exact ⟨t, span, ⟨reads.rest, fun demands => reads.demanded (Bool.and_eq_true_iff.1 demands).2⟩,
          accepted⟩
  | optional body ih =>
      rw [find_optional, Option.or_eq_some_iff] at h
      rcases h with found | ⟨-, here⟩
      · obtain ⟨t, span, reads, accepted⟩ := ih flat found
        exact ⟨t, span, ⟨reads.rest, fun demands => absurd demands (by simp [Pattern.demands])⟩, accepted⟩
      · exact ⟨s, [], .rfl_of_no_demand (fun _ => rfl) s, here⟩
  | repeated body least => exact absurd flat (by simp [Pattern.flat])

end Pattern

/-! ## Places that cannot be told apart -/

section Related

variable {α α' β β' : Type} {R : α → α' → Prop} {Q : β → β' → Prop}

theorem exists_of_rel_some {a : α} {o : Option α'} (h : Option.Rel R (some a) o) :
    ∃ a', o = some a' ∧ R a a' := by
  cases h with
  | some related => exact ⟨_, rfl, related⟩

theorem eq_none_of_rel_none {o : Option α'} (h : Option.Rel R none o) : o = none := by
  cases h with
  | none => rfl

theorem rel_toList {o : Option α} {o' : Option α'} (h : Option.Rel R o o') :
    List.Forall₂ R o.toList o'.toList := by
  cases h with
  | none => exact .nil
  | some related => exact .cons related .nil

theorem rel_or {o₁ o₂ : Option α} {o₁' o₂' : Option α'} (h₁ : Option.Rel R o₁ o₁')
    (h₂ : Option.Rel R o₂ o₂') : Option.Rel R (o₁.or o₂) (o₁'.or o₂') := by
  cases h₁ with
  | none => exact h₂
  | some related => exact .some related

theorem rel_findSome? {f : α → Option β} {g : α' → Option β'} {xs : List α} {ys : List α'}
    (h : List.Forall₂ R xs ys) (alike : ∀ a a', R a a' → Option.Rel Q (f a) (g a')) :
    Option.Rel Q (xs.findSome? f) (ys.findSome? g) := by
  induction h with
  | nil => exact .none
  | @cons a a' xs ys head tail ih =>
      have first := alike a a' head
      rw [List.findSome?_cons, List.findSome?_cons]
      cases found : f a with
      | none =>
          rw [found] at first
          rw [eq_none_of_rel_none first]
          exact ih
      | some b =>
          rw [found] at first
          obtain ⟨b', found', related⟩ := exists_of_rel_some first
          rw [found']
          exact .some related

end Related

/-- Related places look alike to boundaries, and to one step of each of some classes. -/
structure ReadAlike (R : Cursor → Cursor → Prop) (classes : List CharClass) : Prop where
  boundary {s s' : Cursor} (related : R s s') : s.atBoundary = s'.atBoundary
  step {s s' : Cursor} (related : R s s') {cls : CharClass} (member : cls ∈ classes) :
    Option.Rel R (s.step? cls) (s'.step? cls)

namespace ReadAlike

variable {R : Cursor → Cursor → Prop} {classes classes' : List CharClass} {s s' : Cursor}

theorem mono (alike : ReadAlike R classes) (fewer : classes' ⊆ classes) : ReadAlike R classes' :=
  ⟨alike.boundary, fun related _ member => alike.step related (fewer member)⟩

theorem reach (alike : ReadAlike R classes) (related : R s s') {cls : CharClass}
    (member : cls ∈ classes) : List.Forall₂ R (s.reach cls) (s'.reach cls) := by
  induction s using Cursor.step_induction cls generalizing s' with
  | stuck s stuck =>
      have steps := alike.step related member
      rw [stuck] at steps
      rw [Cursor.reach_of_step?_eq_none stuck,
        Cursor.reach_of_step?_eq_none (eq_none_of_rel_none steps)]
      exact .cons related .nil
  | moves s t step ih =>
      have steps := alike.step related member
      rw [step] at steps
      obtain ⟨t', step', later⟩ := exists_of_rel_some steps
      rw [Cursor.reach_of_step? step, Cursor.reach_of_step? step']
      exact List.rel_append (ih later) (.cons related .nil)

end ReadAlike

namespace Pattern

variable {p : Pattern} {R : Cursor → Cursor → Prop} {s s' : Cursor}

/-- **Places that cannot be told apart lead to the same match**, as far as what follows takes related
places for the same. -/
theorem find_rel {β β' : Type} {Q : β → β' → Prop} {next : Cursor → Option β}
    {next' : Cursor → Option β'} (flat : p.flat = true) (alike : ReadAlike R p.classes)
    (related : R s s') (onward : ∀ t t', R t t' → Option.Rel Q (next t) (next' t')) :
    Option.Rel Q (p.find s next) (p.find s' next') := by
  induction p generalizing s s' next next' with
  | empty => exact onward s s' related
  | one cls =>
      have steps := alike.step related (show cls ∈ (one cls).classes from List.mem_cons_self)
      rw [find_one, find_one]
      cases step : s.step? cls with
      | none =>
          rw [step] at steps
          rw [eq_none_of_rel_none steps]
          exact .none
      | some t =>
          rw [step] at steps
          obtain ⟨t', step', later⟩ := exists_of_rel_some steps
          rw [step']
          exact onward t t' later
  | boundary =>
      simp only [find, alike.boundary related]
      split
      · exact onward s s' related
      · exact .none
  | run cls least =>
      have reach := alike.reach related (show cls ∈ (run cls least).classes from List.mem_cons_self)
      have same := reach.length_eq
      refine rel_findSome? ?_ onward
      change List.Forall₂ R ((s.reach cls).take ((s.reach cls).length - least))
        ((s'.reach cls).take ((s'.reach cls).length - least))
      rw [← same]
      exact List.forall₂_take _ reach
  | seq first second ih₁ ih₂ =>
      simp only [Pattern.flat, Bool.and_eq_true] at flat
      have alike₁ := alike.mono (List.subset_append_left first.classes second.classes)
      have alike₂ := alike.mono (List.subset_append_right first.classes second.classes)
      exact ih₁ flat.1 alike₁ related fun t t' later => ih₂ flat.2 alike₂ later onward
  | choice first second ih₁ ih₂ =>
      simp only [Pattern.flat, Bool.and_eq_true] at flat
      have found₁ := ih₁ flat.1 (alike.mono (List.subset_append_left _ _)) related onward
      have found₂ := ih₂ flat.2 (alike.mono (List.subset_append_right _ _)) related onward
      rw [find_choice, find_choice]
      exact rel_or found₁ found₂
  | optional body ih =>
      have found := ih flat alike related onward
      rw [find_optional, find_optional]
      exact rel_or found (onward s s' related)
  | repeated body least => exact absurd flat (by simp [Pattern.flat])

end Pattern

end Deliberation
