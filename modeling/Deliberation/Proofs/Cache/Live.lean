/-
# Proofs.Cache.Live -- caches that answer alike

What has expired is never answered again, but it takes up room until a get of its key or an eviction
drops it.  Two caches are alike at a time (`Alike`) when the entries that have not expired by then are
the same, in the same order.  Gets on both answer the same (`Alike.get_eq`), and they stay alike when
time passes (`Alike.later`), when either of them is asked something (`alike_get`), and when a new key is
put into both (`Alike.put`).

The last is the point of the argument, since it may evict from one cache and not from the other.  An
eviction takes an entry that none is older than; where anything has expired that entry has expired too,
and where nothing has and the cache is full, the other cache holds the same entries.
-/
import Deliberation.Proofs.Cache.History

set_option autoImplicit false
set_option linter.unusedSectionVars false

namespace Deliberation.Cache

variable {κ α : Type} [DecidableEq κ] {c c' c'' : Cache κ α} {now now' : Number} {e : Entry κ α}
  {key : κ}

/-! ## Entries that have not expired -/

/-- The entries that have not expired at a time. -/
def live (c : Cache κ α) (now : Number) : List (Entry κ α) :=
  c.entries.filter fun e => ¬Expired c.ttl e.stamp now

theorem find?_live_eq_some_iff (sound : c.Sound) :
    (c.live now).find? (·.key = key) = some e ↔
      c.find? key = some e ∧ ¬Expired c.ttl e.stamp now := by
  have nodup : ((c.live now).map Entry.key).Nodup :=
    sound.nodup.sublist (List.filter_sublist.map _)
  rw [find?_eq_some_iff nodup, find?, find?_eq_some_iff sound.nodup, live, List.mem_filter,
    decide_eq_true_iff]
  tauto

/-- Later on, fewer entries are live. -/
theorem live_later (sound : c.Sound) (hn : now.IsReading) (hn' : now'.IsReading) (later : now ≤ now') :
    c.live now' = (c.live now).filter fun e => ¬Expired c.ttl e.stamp now' := by
  rw [live, live, List.filter_filter]
  apply List.filter_congr
  intro e member
  have hs := sound.stamped e member
  have lasting : Expired c.ttl e.stamp now → Expired c.ttl e.stamp now' := fun old =>
    old.mono hn hs hn' hs later hs.le_refl
  by_cases old : Expired c.ttl e.stamp now
  · simp [old, lasting old]
  · simp [old]

/-- An expired entry is dropped without loss. -/
theorem live_without (sound : c.Sound) (stored : c.find? key = some e)
    (old : Expired c.ttl e.stamp now) :
    ((without c.entries key).filter fun e => ¬Expired c.ttl e.stamp now) = c.live now := by
  rw [without, List.filter_filter, live]
  apply List.filter_congr
  intro e' member
  by_cases same : e'.key = key
  · subst same
    rw [find?, find?_of_mem sound.nodup member] at stored
    obtain rfl := Option.some.inj stored
    simp [old]
  · simp [same]

theorem live_get (sound : c.Sound) (hn : now.IsReading) (key : κ) :
    (c.get now key).2.live now = c.live now := by
  rcases get_cases sound hn key with ⟨-, h⟩ | ⟨e, stored, old, h⟩ | ⟨e, -, -, h⟩ <;> rw [h]
  · rfl
  · exact live_without sound stored old
  · rfl

/-- A get answers with the payload of the live entry. -/
theorem get_fst (sound : c.Sound) (hn : now.IsReading) (key : κ) :
    (c.get now key).1 = .ok (((c.live now).find? (·.key = key)).map Entry.payload) := by
  rcases get_cases sound hn key with ⟨absent, h⟩ | ⟨e, stored, old, h⟩ | ⟨e, stored, fresh, h⟩ <;>
    rw [h]
  · cases found : (c.live now).find? (·.key = key) with
    | none => rfl
    | some e =>
        rw [find?_live_eq_some_iff sound, absent] at found
        simp at found
  · cases found : (c.live now).find? (·.key = key) with
    | none => rfl
    | some e' =>
        rw [find?_live_eq_some_iff sound, stored] at found
        exact absurd (Option.some.inj found.1 ▸ old) found.2
  · rw [(find?_live_eq_some_iff sound).2 ⟨stored, fresh⟩]
    rfl

/-- After a get in vain there is nothing under the key. -/
theorem find?_of_missed (sound : c.Sound) (hn : now.IsReading)
    (missed : (c.get now key).1 = .ok none) : (c.get now key).2.find? key = none := by
  rcases get_cases sound hn key with ⟨absent, h⟩ | ⟨e, -, -, h⟩ | ⟨e, -, -, h⟩
  · rw [h]
    exact absent
  · rw [h, find?, find?_without, if_pos rfl]
  · simp [h] at missed

/-! ## Caches that differ in expired entries -/

/-- Caches in good order that have the same live entries. -/
structure Alike (now : Number) (c c' : Cache κ α) : Prop where
  sound : c.Sound
  sound' : c'.Sound
  ttl : c.ttl = c'.ttl
  capacity : c.capacity = c'.capacity
  live : c.live now = c'.live now

namespace Alike

theorem refl (sound : c.Sound) (now : Number) : Alike now c c := ⟨sound, sound, rfl, rfl, rfl⟩

theorem symm (h : Alike now c c') : Alike now c' c :=
  ⟨h.sound', h.sound, h.ttl.symm, h.capacity.symm, h.live.symm⟩

theorem trans (h : Alike now c c') (h' : Alike now c' c'') : Alike now c c'' :=
  ⟨h.sound, h'.sound', h.ttl.trans h'.ttl, h.capacity.trans h'.capacity, h.live.trans h'.live⟩

theorem later (h : Alike now c c') (hn : now.IsReading) (hn' : now'.IsReading) (le : now ≤ now') :
    Alike now' c c' where
  sound := h.sound
  sound' := h.sound'
  ttl := h.ttl
  capacity := h.capacity
  live := by
    rw [live_later h.sound hn hn' le, live_later h.sound' hn hn' le, h.live, h.ttl]

theorem get_eq (h : Alike now c c') (hn : now.IsReading) (key : κ) :
    (c.get now key).1 = (c'.get now key).1 := by
  rw [get_fst h.sound hn, get_fst h.sound' hn, h.live]

end Alike

/-- Being asked leaves a cache as it is, but for an expired entry. -/
theorem alike_get (sound : c.Sound) (hn : now.IsReading) (key : κ) :
    Alike now c (c.get now key).2 :=
  ⟨sound, sound.step hn (.get key), (settings_step c now (.get key)).1.symm,
    (settings_step c now (.get key)).2.symm, (live_get sound hn key).symm⟩

theorem Alike.get (h : Alike now c c') (hn : now.IsReading) (key : κ) :
    Alike now (c.get now key).2 (c'.get now key).2 :=
  ((alike_get h.sound hn key).symm.trans h).trans (alike_get h.sound' hn key)

/-! ### Puts under a new key -/

/-- Some place is free or taken by an expired entry. -/
def HasRoom (c : Cache κ α) (now : Number) : Prop :=
  (c.entries.length : ℤ) < c.capacity ∨ ∃ e ∈ c.entries, Expired c.ttl e.stamp now

/-- Where anything has expired, an eviction takes something expired. -/
theorem expired_oldest (sound : c.Sound) (hn : now.IsReading) (oldest : oldest? c.entries = some e)
    {e' : Entry κ α} (member : e' ∈ c.entries) (old : Expired c.ttl e'.stamp now) :
    Expired c.ttl e.stamp now := by
  obtain ⟨member', least⟩ := oldest?_spec sound.stamped oldest
  exact old.mono hn (sound.stamped e' member) hn (sound.stamped e member') hn.le_refl (least e' member)

/-- A full cache without expired entries is the same as one that is alike. -/
theorem Alike.entries_eq (h : Alike now c c') (full : ¬c.HasRoom now) : c.entries = c'.entries := by
  rw [HasRoom, not_or, not_lt, not_exists] at full
  obtain ⟨full, allFresh⟩ := full
  have all : c.live now = c.entries := by
    rw [Cache.live, List.filter_eq_self]
    intro e member
    simpa using fun old => allFresh e ⟨member, old⟩
  have part : (c'.live now).Sublist c'.entries := List.filter_sublist
  rw [← h.live, all] at part
  refine part.eq_of_length_le ?_
  have := h.sound'.bounded
  have := h.capacity
  omega

/-- A put of a new key where there is room loses nothing that is live. -/
theorem live_kept (sound : c.Sound) (hn : now.IsReading) (hasRoom : c.HasRoom now)
    {kept : List (Entry κ α)}
    (cases : (c.entries.length : ℤ) < c.capacity ∧ kept = c.entries ∨
      (c.entries.length : ℤ) = c.capacity ∧
        ∃ e, oldest? c.entries = some e ∧ kept = without c.entries e.key) :
    (kept.filter fun e => ¬Expired c.ttl e.stamp now) = c.live now := by
  rcases cases with ⟨-, rfl⟩ | ⟨full, e, oldest, rfl⟩
  · rfl
  · rcases hasRoom with free | ⟨e', member, old⟩
    · omega
    · exact live_without sound
        (find?_of_mem sound.nodup (oldest?_spec sound.stamped oldest).1)
        (expired_oldest sound hn oldest member old)

/-- **A new key put into caches that are alike leaves them alike.** -/
theorem Alike.put (h : Alike now c c') (hn : now.IsReading) (absent : c.find? key = none)
    (absent' : c'.find? key = none) (payload : α) :
    ∃ d d', c.put now key payload = .ok d ∧ c'.put now key payload = .ok d' ∧ Alike now d d' := by
  obtain ⟨kept, stores, cases⟩ := put_of_absent h.sound absent now payload
  obtain ⟨kept', stores', cases'⟩ := put_of_absent h.sound' absent' now payload
  have sound : Sound { c with entries := kept ++ [⟨key, now, payload⟩] } := by
    obtain ⟨d, same, sound⟩ := h.sound.put hn key payload
    obtain rfl := Except.ok.inj (stores.symm.trans same)
    exact sound
  have sound' : Sound { c' with entries := kept' ++ [⟨key, now, payload⟩] } := by
    obtain ⟨d, same, sound⟩ := h.sound'.put hn key payload
    obtain rfl := Except.ok.inj (stores'.symm.trans same)
    exact sound
  refine ⟨_, _, stores, stores', sound, sound', h.ttl, h.capacity, ?_⟩
  have same : (kept.filter fun e => ¬Expired c.ttl e.stamp now) =
      kept'.filter fun e => ¬Expired c'.ttl e.stamp now := by
    by_cases both : c.HasRoom now ∧ c'.HasRoom now
    · rw [live_kept h.sound hn both.1 cases, live_kept h.sound' hn both.2 cases', h.live]
    · have entries : c.entries = c'.entries := by
        rcases not_and_or.1 both with full | full
        · exact h.entries_eq full
        · exact (h.symm.entries_eq full).symm
      have capacity := h.capacity
      rw [← entries, ← capacity] at cases'
      have kept_eq : kept = kept' := by
        rcases cases with ⟨free, rfl⟩ | ⟨full, e, oldest, rfl⟩
        · rcases cases' with ⟨-, rfl⟩ | ⟨full, -⟩
          · rfl
          · omega
        · rcases cases' with ⟨free, -⟩ | ⟨-, e', oldest', rfl⟩
          · omega
          · rw [Option.some.inj (oldest.symm.trans oldest')]
      rw [kept_eq, h.ttl]
  rw [h.ttl] at same
  simp only [Cache.live, List.filter_append, h.ttl, same]

end Deliberation.Cache
