/-
# Proofs.Cache.Entries -- what one command does to the entries

A cache in good order (`Sound`) has one entry to a key, no more entries than it may hold, and stamps
that a clock has shown.  Every command keeps it so (`Sound.step`).

What a command does is said through `find?`, the entry under each key: a get drops only an entry of its
own that has expired, an invalidation only the entry under its key, and a put stores its payload
(`find?_put`) and leaves all other keys alone, unless its key is new and the cache is full.  Then
exactly one other entry goes, the one that `oldest?` finds, and none has an earlier stamp
(`find?_put_of_full`, `oldest?_spec`).
-/
import Deliberation.Proofs.Cache.Clock
import Mathlib.Data.List.Nodup
import Mathlib.Tactic.Linarith

set_option autoImplicit false

namespace Deliberation.Cache

variable {κ α : Type}

/-! ## The oldest entry -/

section Oldest

variable {es : List (Entry κ α)} {e : Entry κ α}

/-- The older of two entries, the first where neither is. -/
def older (first second : Entry κ α) : Entry κ α :=
  if second.stamp < first.stamp then second else first

theorem older_eq (first second : Entry κ α) : older first second = first ∨ older first second = second := by
  unfold older
  split_ifs <;> simp

theorem older_stamp_le {first second : Entry κ α} (hf : first.stamp.IsReading)
    (hs : second.stamp.IsReading) :
    (older first second).stamp ≤ first.stamp ∧ (older first second).stamp ≤ second.stamp := by
  unfold older
  split_ifs with less
  · exact ⟨Number.le_of_lt less, hs.le_refl⟩
  · exact ⟨hf.le_refl, (hs.not_lt_iff hf).1 less⟩

theorem foldl_older {first : Entry κ α} (stamped : ∀ e ∈ first :: es, e.stamp.IsReading) :
    es.foldl older first ∈ first :: es ∧ ∀ e ∈ first :: es, (es.foldl older first).stamp ≤ e.stamp := by
  induction es generalizing first with
  | nil => simpa using (stamped first List.mem_cons_self).le_refl
  | cons second rest ih =>
      simp only [List.forall_mem_cons] at stamped
      obtain ⟨hf, hs, hrest⟩ := stamped
      have leader : (older first second).stamp.IsReading := by
        rcases older_eq first second with h | h <;> rw [h] <;> assumption
      obtain ⟨member, least⟩ := ih (List.forall_mem_cons.2 ⟨leader, hrest⟩)
      simp only [List.forall_mem_cons] at least
      obtain ⟨leFirst, leSecond⟩ := older_stamp_le hf hs
      rw [List.foldl_cons]
      constructor
      · rcases List.mem_cons.1 member with same | later
        · rw [same]
          rcases older_eq first second with h | h <;> simp [h]
        · exact List.mem_cons_of_mem _ (List.mem_cons_of_mem _ later)
      · simp only [List.forall_mem_cons]
        exact ⟨Number.le_trans least.1 leFirst, Number.le_trans least.1 leSecond, least.2⟩

/-- The oldest entry is one of them, and none has an earlier stamp. -/
theorem oldest?_spec (stamped : ∀ e ∈ es, e.stamp.IsReading) (h : oldest? es = some e) :
    e ∈ es ∧ ∀ e' ∈ es, e.stamp ≤ e'.stamp := by
  cases es with
  | nil => simp [oldest?] at h
  | cons first rest =>
      obtain rfl : rest.foldl older first = e := Option.some.inj h
      exact foldl_older stamped

theorem exists_oldest (notNil : es ≠ []) : ∃ e, oldest? es = some e := by
  cases es with
  | nil => exact absurd rfl notNil
  | cons first rest => exact ⟨_, rfl⟩

end Oldest

variable [DecidableEq κ]

/-! ## Entries by their keys -/

section Entries

variable {es : List (Entry κ α)} {e : Entry κ α} {key k : κ}

theorem find?_without : (without es key).find? (·.key = k) =
    if k = key then none else es.find? (·.key = k) := by
  rw [without, List.find?_filter]
  split_ifs with same
  · subst same
    simp
  · congr 1
    funext e
    by_cases h : e.key = k
    · simp [h, same]
    · simp [h]

theorem map_key_without : (without es key).map Entry.key = (es.map Entry.key).filter (· ≠ key) := by
  rw [without, List.filter_map]
  rfl

/-- An entry among some with different keys is the one under its key. -/
theorem find?_of_mem (nodup : (es.map Entry.key).Nodup) (member : e ∈ es) :
    es.find? (·.key = e.key) = some e := by
  induction es with
  | nil => simp at member
  | cons first rest ih =>
      rw [List.map_cons, List.nodup_cons] at nodup
      rcases List.mem_cons.1 member with rfl | later
      · simp
      · have different : first.key ≠ e.key := by
          intro same
          exact nodup.1 (same ▸ List.mem_map_of_mem later)
        rw [List.find?_cons_of_neg (by simpa using different)]
        exact ih nodup.2 later

theorem find?_eq_some_iff (nodup : (es.map Entry.key).Nodup) :
    es.find? (·.key = key) = some e ↔ e ∈ es ∧ e.key = key := by
  constructor
  · intro h
    exact ⟨List.mem_of_find?_eq_some h, by simpa using List.find?_some h⟩
  · rintro ⟨member, rfl⟩
    exact find?_of_mem nodup member

theorem find?_eq_none_iff : es.find? (·.key = key) = none ↔ key ∉ es.map Entry.key := by
  simp [List.find?_eq_none]

/-- Among entries with different keys, the one of a key is dropped alone. -/
theorem length_without (nodup : (es.map Entry.key).Nodup) (member : e ∈ es) :
    (without es e.key).length + 1 = es.length := by
  have keys : ((without es e.key).map Entry.key).length + 1 = (es.map Entry.key).length := by
    have others : (fun k => decide (k ≠ e.key)) = fun k => k != e.key := by
      funext k
      exact Bool.eq_iff_iff.2 (by simp)
    rw [map_key_without, others, ← nodup.erase_eq_filter,
      List.length_erase_of_mem (List.mem_map_of_mem member)]
    have := List.length_pos_of_mem (List.mem_map_of_mem (f := Entry.key) member)
    omega
  simpa using keys

/-- The entry under a key with a new stamp and payload, the others as they are. -/
def restored (es : List (Entry κ α)) (key : κ) (now : Number) (payload : α) : List (Entry κ α) :=
  es.map fun e => if e.key = key then ⟨key, now, payload⟩ else e

theorem map_key_restored (now : Number) (payload : α) :
    (restored es key now payload).map Entry.key = es.map Entry.key := by
  rw [restored, List.map_map]
  apply List.map_congr_left
  intro e _
  by_cases h : e.key = key <;> simp [h]

theorem find?_restored (now : Number) (payload : α) :
    (restored es key now payload).find? (·.key = k) =
      if k = key then (es.find? (·.key = key)).map fun _ => ⟨key, now, payload⟩
      else es.find? (·.key = k) := by
  induction es with
  | nil => simp [restored]
  | cons first rest ih =>
      unfold restored at ih ⊢
      by_cases same : k = key
      · subst same
        by_cases h : first.key = k
        · simp [h]
        · simpa [h] using ih
      · by_cases h : first.key = key
        · have other : ¬key = k := fun e => same e.symm
          simpa [h, same, other] using ih
        · by_cases h' : first.key = k
          · simp [h', same]
          · simpa [h, h', same] using ih

end Entries

/-! ## What one command does -/

/-- A cache in good order: one entry to a key, none beyond its capacity, stamps that a clock shows. -/
structure Sound (c : Cache κ α) : Prop where
  nodup : (c.entries.map Entry.key).Nodup
  bounded : (c.entries.length : ℤ) ≤ c.capacity
  room : 1 ≤ c.capacity
  stamped : ∀ e ∈ c.entries, e.stamp.IsReading

omit [DecidableEq κ] in
theorem sound_empty (ttl : Number) {capacity : ℤ} (room : 1 ≤ capacity) :
    (empty ttl capacity : Cache κ α).Sound := by
  refine ⟨List.nodup_nil, ?_, room, by simp [empty]⟩
  simp only [empty, List.length_nil, Nat.cast_zero]
  linarith

section Command

variable {c : Cache κ α} {now : Number} {e : Entry κ α} {key k : κ}

theorem Sound.stamp_of_find? (sound : c.Sound) (h : c.find? key = some e) : e.stamp.IsReading :=
  sound.stamped e (List.mem_of_find?_eq_some h)

/-- The three ways in which a get can go: nothing there, expired, or found. -/
theorem get_cases (sound : c.Sound) (hn : now.IsReading) (key : κ) :
    (c.find? key = none ∧ c.get now key = (.ok none, { c with misses := c.misses + 1 })) ∨
    (∃ e, c.find? key = some e ∧ Expired c.ttl e.stamp now ∧ c.get now key =
      (.ok none, { c with entries := without c.entries key, misses := c.misses + 1 })) ∨
    (∃ e, c.find? key = some e ∧ ¬Expired c.ttl e.stamp now ∧
      c.get now key = (.ok (some e.payload), { c with hits := c.hits + 1 })) := by
  cases h : c.find? key with
  | none => exact .inl ⟨rfl, by simp only [get, h]⟩
  | some e =>
      have hs := sound.stamp_of_find? h
      by_cases old : Expired c.ttl e.stamp now
      · exact .inr (.inl ⟨e, rfl, old, by simp only [get, h, (isExpired_eq_true_iff hn hs).2 old]⟩)
      · exact .inr (.inr ⟨e, rfl, old, by simp only [get, h, (isExpired_eq_false_iff hn hs).2 old]⟩)

/-- A put under a stored key takes the place of the entry. -/
theorem put_of_stored (h : c.find? key = some e) (now : Number) (payload : α) :
    c.put now key payload = .ok { c with entries := restored c.entries key now payload } := by
  simp only [put, h, restored]

/-- A put under a new key appends its entry, in a full cache after the oldest one has gone. -/
theorem put_of_absent (sound : c.Sound) (h : c.find? key = none) (now : Number) (payload : α) :
    ∃ kept, c.put now key payload = .ok { c with entries := kept ++ [⟨key, now, payload⟩] } ∧
      ((c.entries.length : ℤ) < c.capacity ∧ kept = c.entries ∨
        (c.entries.length : ℤ) = c.capacity ∧
          ∃ e, oldest? c.entries = some e ∧ kept = without c.entries e.key) := by
  by_cases free : (c.entries.length : ℤ) < c.capacity
  · exact ⟨c.entries, by simp [put, h, makeRoom, free], .inl ⟨free, rfl⟩⟩
  · have full : (c.entries.length : ℤ) = c.capacity := le_antisymm sound.bounded (not_lt.1 free)
    have notNil : c.entries ≠ [] := by
      intro none
      have := sound.room
      simp only [none, List.length_nil, Nat.cast_zero] at full
      omega
    obtain ⟨e, he⟩ := exists_oldest notNil
    exact ⟨without c.entries e.key, by simp [put, h, makeRoom, free, he],
      .inr ⟨full, e, he, rfl⟩⟩

/-- A get adds no entry. -/
theorem mem_entries_of_get (member : e ∈ (c.get now key).2.entries) : e ∈ c.entries := by
  unfold get at member
  split at member
  · exact member
  · split at member
    · exact List.mem_of_mem_filter member
    · exact member
    · exact member

theorem mem_entries_of_makeRoom {kept : List (Entry κ α)} (room : c.makeRoom = .ok kept)
    (member : e ∈ kept) : e ∈ c.entries := by
  unfold makeRoom at room
  split at room
  · obtain rfl := Except.ok.inj room
    exact member
  · split at room
    · obtain rfl := Except.ok.inj room
      exact List.mem_of_mem_filter member
    · cases room

/-- A put adds no entry but its own. -/
theorem mem_entries_of_put {payload : α} {c' : Cache κ α} (puts : c.put now key payload = .ok c')
    (member : e ∈ c'.entries) : e ∈ c.entries ∨ e = ⟨key, now, payload⟩ := by
  unfold put at puts
  split at puts
  · obtain rfl := Except.ok.inj puts
    obtain ⟨e', member', rfl⟩ := List.mem_map.1 member
    split_ifs
    · exact .inr rfl
    · exact .inl member'
  · obtain ⟨kept, room, same⟩ := bind_eq_ok_iff.1 puts
    obtain rfl := Except.ok.inj same
    rcases List.mem_append.1 member with old | new
    · exact .inl (mem_entries_of_makeRoom room old)
    · exact .inr (List.mem_singleton.1 new)

/-- Every entry after a command was there before it, or the command put it there. -/
theorem mem_entries_of_step {command : Command κ α} (member : e ∈ (c.step now command).2.entries) :
    e ∈ c.entries ∨ (e.stamp = now ∧ command = .put e.key e.payload) := by
  cases command with
  | get key => exact .inl (mem_entries_of_get member)
  | put key payload =>
      unfold step at member
      cases puts : c.put now key payload with
      | error fault => exact .inl (by simpa only [puts] using member)
      | ok c' =>
          refine (mem_entries_of_put puts (by simpa only [puts] using member)).imp_right ?_
          rintro rfl
          exact ⟨rfl, rfl⟩
  | invalidate key => exact .inl (List.mem_of_mem_filter member)
  | clear => exact absurd member List.not_mem_nil

/-! ### Good order is kept -/

theorem Sound.without (sound : c.Sound) (key : κ) {hits misses : ℕ} :
    Sound ⟨c.ttl, c.capacity, Cache.without c.entries key, hits, misses⟩ where
  nodup := by
    rw [map_key_without]
    exact sound.nodup.filter _
  bounded := by
    have : (Cache.without c.entries key).length ≤ c.entries.length := List.length_filter_le _ _
    have := sound.bounded
    simp only
    omega
  room := sound.room
  stamped e he := sound.stamped e (List.mem_of_mem_filter he)

theorem Sound.put (sound : c.Sound) (hn : now.IsReading) (key : κ) (payload : α) :
    ∃ c', c.put now key payload = .ok c' ∧ c'.Sound := by
  cases h : c.find? key with
  | some e =>
      refine ⟨_, put_of_stored h now payload, ?_, ?_, sound.room, ?_⟩
      · rw [map_key_restored]
        exact sound.nodup
      · simpa only [restored, List.length_map] using sound.bounded
      · intro e' he'
        obtain ⟨e, he, rfl⟩ := List.mem_map.1 he'
        split_ifs
        · exact hn
        · exact sound.stamped e he
  | none =>
      obtain ⟨kept, stores, cases⟩ := put_of_absent sound h now payload
      have absent : key ∉ c.entries.map Entry.key := find?_eq_none_iff.1 h
      have sub : kept.Sublist c.entries ∧ (kept.length : ℤ) < c.capacity := by
        rcases cases with ⟨free, rfl⟩ | ⟨full, e, he, rfl⟩
        · exact ⟨.refl _, free⟩
        · refine ⟨List.filter_sublist, ?_⟩
          have := length_without sound.nodup (oldest?_spec sound.stamped he).1
          omega
      refine ⟨_, stores, ?_, ?_, sound.room, ?_⟩
      · rw [List.map_append, List.map_singleton]
        refine (sound.nodup.sublist (sub.1.map _)).append (List.nodup_singleton _) ?_
        intro k hk hk'
        rw [List.mem_singleton.1 hk'] at hk
        exact absent ((sub.1.map _).subset hk)
      · simp only [List.length_append, List.length_singleton]
        omega
      · intro e he
        rcases List.mem_append.1 he with old | new
        · exact sound.stamped e (sub.1.subset old)
        · rw [List.mem_singleton.1 new]
          exact hn

theorem Sound.step (sound : c.Sound) (hn : now.IsReading) (command : Command κ α) :
    (c.step now command).2.Sound := by
  cases command with
  | get key =>
      rcases get_cases sound hn key with ⟨-, h⟩ | ⟨e, -, -, h⟩ | ⟨e, -, -, h⟩ <;>
        simp only [Cache.step, h]
      · exact ⟨sound.nodup, sound.bounded, sound.room, sound.stamped⟩
      · exact sound.without key
      · exact ⟨sound.nodup, sound.bounded, sound.room, sound.stamped⟩
  | put key payload =>
      obtain ⟨c', h, sound'⟩ := sound.put hn key payload
      simpa only [Cache.step, h] using sound'
  | invalidate key => exact sound.without key
  | clear => exact sound_empty c.ttl sound.room

/-! ### The entry under each key -/

theorem find?_get (sound : c.Sound) (hn : now.IsReading) (key k : κ) :
    (c.step now (.get key)).2.find? k = c.find? k ∨
      k = key ∧ (c.step now (.get key)).2.find? k = none ∧
        ∃ e, c.find? key = some e ∧ Expired c.ttl e.stamp now := by
  rcases get_cases sound hn key with ⟨-, h⟩ | ⟨e, stored, old, h⟩ | ⟨e, -, -, h⟩
  · exact .inl (by simp only [step, h, find?])
  · by_cases same : k = key
    · exact .inr ⟨same, by simp only [step, h, find?, find?_without, same, if_true], e, stored, old⟩
    · exact .inl (by simp only [step, h, find?, find?_without, if_neg same])
  · exact .inl (by simp only [step, h, find?])

theorem find?_invalidate (now : Number) (key k : κ) :
    (c.step now (.invalidate key)).2.find? k = if k = key then none else c.find? k :=
  find?_without

theorem find?_clear (now : Number) (k : κ) : (c.step now .clear).2.find? k = none := rfl

/-- A put stores its payload, at the time of the put. -/
theorem find?_put (sound : c.Sound) (now : Number) (key : κ) (payload : α) :
    (c.step now (.put key payload)).2.find? key = some ⟨key, now, payload⟩ := by
  cases h : c.find? key with
  | some e =>
      simp only [step, put_of_stored h now payload, find?, find?_restored, if_true]
      rw [show c.entries.find? (·.key = key) = some e from h]
      rfl
  | none =>
      obtain ⟨kept, stores, cases⟩ := put_of_absent sound h now payload
      have absent : kept.find? (·.key = key) = none := by
        rcases cases with ⟨-, rfl⟩ | ⟨-, e, -, rfl⟩
        · exact h
        · rw [find?_without]
          split_ifs
          · rfl
          · exact h
      simp [step, stores, find?, List.find?_append, absent]

/-- A put that needs no room leaves the other keys alone. -/
theorem find?_put_of_room (sound : c.Sound) (payload : α)
    (room : (c.find? key).isSome ∨ (c.entries.length : ℤ) < c.capacity) (other : k ≠ key) :
    (c.step now (.put key payload)).2.find? k = c.find? k := by
  cases h : c.find? key with
  | some e =>
      simp only [step, put_of_stored h now payload, find?, find?_restored, if_neg other]
  | none =>
      obtain ⟨kept, stores, cases⟩ := put_of_absent sound h now payload
      rw [h, Option.isSome_none, Bool.false_eq_true, false_or] at room
      rcases cases with ⟨-, rfl⟩ | ⟨full, -⟩
      · simp [step, stores, find?, List.find?_append, other.symm]
      · omega

/-- A put under a new key in a full cache drops one other entry, which none was put before. -/
theorem find?_put_of_full (sound : c.Sound) (now : Number) (payload : α)
    (absent : c.find? key = none) (full : (c.entries.length : ℤ) = c.capacity) :
    ∃ e ∈ c.entries, oldest? c.entries = some e ∧ e.key ≠ key ∧
      (∀ e' ∈ c.entries, e.stamp ≤ e'.stamp) ∧
      ∀ k ≠ key, (c.step now (.put key payload)).2.find? k =
        if k = e.key then none else c.find? k := by
  obtain ⟨kept, stores, cases⟩ := put_of_absent sound absent now payload
  rcases cases with ⟨free, -⟩ | ⟨-, e, he, rfl⟩
  · omega
  · obtain ⟨member, least⟩ := oldest?_spec sound.stamped he
    refine ⟨e, member, he, ?_, least, ?_⟩
    · rintro rfl
      exact find?_eq_none_iff.1 absent (List.mem_map_of_mem member)
    · intro k other
      simp [step, stores, find?, List.find?_append, find?_without, other.symm]

end Command

end Deliberation.Cache
