/-
# Proofs.Cache.Retention -- how long a payload stays

A full cache makes room for a new key by dropping the entry with the earliest stamp, and of several such
entries the one that stands first (`stamp_lt_of_oldest`).  A put under a stored key gives its entry a new
stamp and leaves it where it stands.  So an entry goes only after every entry with an earlier stamp, and
after those with its own stamp that stand before it; what may outlast it are the entries of its `rivals`.
These are the other keys put later, and where the put took the place of a stored entry, also those put before
it at the same reading of the clock, whose entries may stand behind.

Every command keeps it so (`Guarded.step`); hence a payload can be got until its time to live has run out, as
long as it has fewer rivals than the cache has room for (`retained`).  Where the put stores a new key, or no
other key was put before at its reading, the rivals are the keys put later.  In general the keys put later do
not suffice: of two entries put at one reading the refreshed one goes first, though it was put last
(`refreshed_goes_first`).
-/
import Deliberation.Proofs.Cache.Separation
import Mathlib.Data.Finset.Card
import Mathlib.Data.Finset.Dedup

set_option autoImplicit false

namespace Deliberation.Cache

variable {κ α : Type}

/-! ## The first of the oldest entries -/

/-- What stands before the oldest entry has a later stamp. -/
theorem stamp_lt_of_oldest {pre post : List (Entry κ α)} {e : Entry κ α}
    (stamped : ∀ e' ∈ pre ++ e :: post, e'.stamp.IsReading) (nodup : (pre ++ e :: post).Nodup)
    (oldest : oldest? (pre ++ e :: post) = some e) : ∀ e' ∈ pre, e.stamp < e'.stamp := by
  cases pre with
  | nil => simp
  | cons first pre =>
      obtain ⟨stampedPre, stampedRest⟩ := List.forall_mem_append.1 stamped
      obtain ⟨-, stampedPost⟩ := List.forall_mem_cons.1 stampedRest
      obtain ⟨member, least⟩ := foldl_older stampedPre
      have winner : (pre ++ e :: post).foldl older first = e := Option.some.inj oldest
      rw [List.foldl_append, List.foldl_cons] at winner
      by_cases earlier : e.stamp < (pre.foldl older first).stamp
      · intro e' he'
        exact Number.lt_of_lt_of_le earlier (least e' he')
      · -- then the entry would stand a second time, before its place or behind it
        rw [older, if_neg earlier] at winner
        have stampedRest : ∀ e' ∈ pre.foldl older first :: post, e'.stamp.IsReading :=
          List.forall_mem_cons.2 ⟨stampedPre _ member, stampedPost⟩
        have again : e ∈ pre.foldl older first :: post := by
          have := (foldl_older stampedRest).1
          rwa [winner] at this
        rw [List.nodup_append] at nodup
        obtain ⟨-, nodupPost, apart⟩ := nodup
        rcases List.mem_cons.1 again with same | behind
        · exact absurd rfl (apart e (same ▸ member) e List.mem_cons_self)
        · exact absurd behind (List.nodup_cons.1 nodupPost).1

variable [DecidableEq κ]

/-! ## Rivals -/

/-- The key under which a command puts something. -/
def Command.putKey? : Command κ α → Option κ
  | .put key _ => some key
  | _ => none

/-- A command neither puts anything under a key, nor is it an invalidation of the key or a clear. -/
def Command.Spares (key : κ) : Command κ α → Prop
  | .get _ => True
  | .put other _ => other ≠ key
  | .invalidate other => other ≠ key
  | .clear => False

/-- The other keys under which commands put something. -/
def otherKeysPut (key : κ) (commands : List (Number × Command κ α)) : Finset κ :=
  (commands.filterMap fun timed => timed.2.putKey?).toFinset.erase key

/-- The keys that may outlast what is put under a key: those put later, and if the key was stored, those
put before at the same reading or a later one. -/
def rivals (ttl : Number) (capacity : ℤ) (before : List (Number × Command κ α)) (key : κ) (stamp : Number)
    (later : List (Number × Command κ α)) : Finset κ :=
  otherKeysPut key later ∪
    if (((empty ttl capacity).run before).find? key).isSome then
      otherKeysPut key (before.filter fun timed => stamp ≤ timed.1)
    else ∅

theorem mem_otherKeysPut {key k : κ} {now : Number} {payload : α} {commands : List (Number × Command κ α)}
    (member : (now, .put k payload) ∈ commands) (other : k ≠ key) : k ∈ otherKeysPut key commands := by
  rw [otherKeysPut, Finset.mem_erase, List.mem_toFinset, List.mem_filterMap]
  exact ⟨other, _, member, rfl⟩

theorem otherKeysPut_eq_empty {key : κ} {commands : List (Number × Command κ α)}
    (none : ∀ timed ∈ commands, ∀ k ∈ timed.2.putKey?, k = key) : otherKeysPut key commands = ∅ := by
  rw [otherKeysPut, Finset.eq_empty_iff_forall_notMem]
  intro k member
  rw [Finset.mem_erase, List.mem_toFinset, List.mem_filterMap] at member
  obtain ⟨other, timed, inside, puts⟩ := member
  exact other (none timed inside k puts)

/-- Beside the keys put later there are rivals only where the put refreshes an entry at a reading at which
another key was put. -/
theorem rivals_eq_otherKeysPut {ttl : Number} {capacity : ℤ} {before later : List (Number × Command κ α)}
    {key : κ} {stamp : Number}
    (alone : ((empty ttl capacity).run before).find? key = none ∨
      ∀ timed ∈ before, ∀ k ∈ timed.2.putKey?, k ≠ key → timed.1 < stamp) :
    rivals ttl capacity before key stamp later = otherKeysPut key later := by
  rw [rivals]
  rcases alone with new | earlier
  · simp [new]
  · have none : otherKeysPut key (before.filter fun timed => stamp ≤ timed.1) = ∅ := by
      apply otherKeysPut_eq_empty
      intro timed member k puts
      obtain ⟨inside, notBefore⟩ := List.mem_filter.1 member
      by_contra other
      exact Number.not_le_of_lt (earlier timed inside k puts other) (of_decide_eq_true notBefore)
    simp [none]

/-! ## An entry and what stands around it -/

section Middle

variable {es pre post : List (Entry κ α)} {old : Entry κ α} {key : κ}

/-- The entry under a key splits the others. -/
theorem split_of_find? (nodup : (es.map Entry.key).Nodup) (stored : es.find? (·.key = key) = some old) :
    ∃ pre post, es = pre ++ old :: post ∧ old.key = key ∧ (∀ e ∈ pre, e.key ≠ key) ∧
      ∀ e ∈ post, e.key ≠ key := by
  obtain ⟨found, pre, post, rfl, ahead⟩ := List.find?_eq_some_iff_append.1 stored
  obtain rfl : old.key = key := by simpa using found
  rw [List.map_append, List.map_cons, List.nodup_middle, List.nodup_cons] at nodup
  refine ⟨pre, post, rfl, rfl, fun e member => by simpa using ahead e member, fun e member same => ?_⟩
  exact nodup.1 (same ▸ List.mem_append_right _ (List.mem_map_of_mem member))

theorem restored_of_absent (absent : ∀ e ∈ es, e.key ≠ key) (now : Number) (payload : α) :
    restored es key now payload = es := by
  rw [restored, List.map_congr_left fun e member => if_neg (absent e member), List.map_id']

theorem restored_middle (same : old.key = key) (ahead : ∀ e ∈ pre, e.key ≠ key)
    (behind : ∀ e ∈ post, e.key ≠ key) (now : Number) (payload : α) :
    restored (pre ++ old :: post) key now payload = pre ++ ⟨key, now, payload⟩ :: post := by
  calc restored (pre ++ old :: post) key now payload
      = restored pre key now payload ++ ⟨key, now, payload⟩ :: restored post key now payload := by
        simp [restored, same]
    _ = pre ++ ⟨key, now, payload⟩ :: post := by
        rw [restored_of_absent ahead, restored_of_absent behind]

end Middle

/-- Before an entry stand such as have no later stamp, behind it such as have an earlier one, apart from
those of rivals. -/
def Guarded (entries : List (Entry κ α)) (e : Entry κ α) (rivals : Finset κ) : Prop :=
  ∃ pre post, entries = pre ++ e :: post ∧ (∀ e' ∈ pre, e'.stamp ≤ e.stamp ∨ e'.key ∈ rivals) ∧
    ∀ e' ∈ post, e'.stamp < e.stamp ∨ e'.key ∈ rivals

namespace Guarded

variable {es : List (Entry κ α)} {e : Entry κ α} {others : Finset κ} {key : κ}

omit [DecidableEq κ] in
theorem mem (guarded : Guarded es e others) : e ∈ es := by
  obtain ⟨pre, post, rfl, -⟩ := guarded
  simp

theorem without (guarded : Guarded es e others) (other : e.key ≠ key) :
    Guarded (Cache.without es key) e others := by
  obtain ⟨pre, post, rfl, ahead, behind⟩ := guarded
  refine ⟨Cache.without pre key, Cache.without post key, by simp [Cache.without, other], ?_, ?_⟩
  · exact fun e' member => ahead e' (List.mem_of_mem_filter member)
  · exact fun e' member => behind e' (List.mem_of_mem_filter member)

theorem restored (guarded : Guarded es e others) (other : e.key ≠ key) (rival : key ∈ others)
    (now : Number) (payload : α) : Guarded (Cache.restored es key now payload) e others := by
  obtain ⟨pre, post, rfl, ahead, behind⟩ := guarded
  refine ⟨Cache.restored pre key now payload, Cache.restored post key now payload,
    by simp [Cache.restored, other], ?_, ?_⟩
  · intro e' member
    obtain ⟨old, inside, rfl⟩ := List.mem_map.1 member
    split_ifs with same
    · exact .inr rival
    · exact ahead old inside
  · intro e' member
    obtain ⟨old, inside, rfl⟩ := List.mem_map.1 member
    split_ifs with same
    · exact .inr rival
    · exact behind old inside

omit [DecidableEq κ] in
theorem append_single (guarded : Guarded es e others) {new : Entry κ α} (rival : new.key ∈ others) :
    Guarded (es ++ [new]) e others := by
  obtain ⟨pre, post, rfl, ahead, behind⟩ := guarded
  refine ⟨pre, post ++ [new], by simp, ahead, ?_⟩
  intro e' member
  rcases List.mem_append.1 member with old | last
  · exact behind e' old
  · rw [List.mem_singleton.1 last]
    exact .inr rival

/-- When a guarded entry is the oldest one, all the others belong to rivals. -/
theorem length_le_of_oldest (guarded : Guarded es e others) (nodup : (es.map Entry.key).Nodup)
    (stamped : ∀ e' ∈ es, e'.stamp.IsReading) (oldest : oldest? es = some e)
    (absent : key ∉ es.map Entry.key) (rival : key ∈ others) : es.length ≤ others.card := by
  have least := (oldest?_spec stamped oldest).2
  have he := stamped e guarded.mem
  obtain ⟨pre, post, rfl, ahead, behind⟩ := guarded
  have first := stamp_lt_of_oldest stamped (List.Nodup.of_map _ nodup) oldest
  have around : ∀ e' ∈ pre ++ post, e'.key ∈ others := by
    intro e' member
    rcases List.mem_append.1 member with before | after
    · exact (ahead e' before).resolve_left (Number.not_le_of_lt (first e' before))
    · refine (behind e' after).resolve_left ?_
      rw [(stamped e' (by simp [after])).not_lt_iff he]
      exact least e' (by simp [after])
  -- the new key in place of the oldest one
  have keys : (key :: (pre ++ post).map Entry.key).Nodup := by
    rw [List.nodup_cons]
    constructor
    · simp only [List.map_append, List.map_cons, List.mem_append, List.mem_cons, not_or] at absent ⊢
      exact ⟨absent.1, absent.2.2⟩
    · refine nodup.sublist (List.Sublist.map _ ?_)
      exact (List.Sublist.refl pre).append (List.sublist_cons_self e post)
  have inside : (key :: (pre ++ post).map Entry.key).toFinset ⊆ others := by
    intro k member
    rw [List.mem_toFinset, List.mem_cons, List.mem_map] at member
    rcases member with rfl | ⟨e', member, rfl⟩
    · exact rival
    · exact around e' member
  have bound := Finset.card_le_card inside
  rw [List.toFinset_card_of_nodup keys] at bound
  simpa [Nat.add_assoc] using bound

end Guarded

/-! ## What one command keeps -/

section Step

variable {c : Cache κ α} {e : Entry κ α} {others : Finset κ} {now : Number} {command : Command κ α}

/-- A put under another key leaves a guarded entry where it is, unless there are rivals for all the room. -/
theorem Guarded.put (guarded : Guarded c.entries e others) (sound : c.Sound) {key : κ} (payload : α)
    (other : e.key ≠ key) (rival : key ∈ others) (few : (others.card : ℤ) < c.capacity) :
    Guarded (c.step now (.put key payload)).2.entries e others := by
  cases stored : c.find? key with
  | some old =>
      simpa only [step, put_of_stored stored] using guarded.restored other rival now payload
  | none =>
      obtain ⟨kept, stores, cases⟩ := put_of_absent sound stored now payload
      have stays : Guarded kept e others := by
        rcases cases with ⟨-, rfl⟩ | ⟨full, oldest, takes, rfl⟩
        · exact guarded
        · apply guarded.without
          intro same
          obtain rfl : oldest = e := by
            have under := find?_of_mem sound.nodup (oldest?_spec sound.stamped takes).1
            rw [← same, find?_of_mem sound.nodup guarded.mem] at under
            exact (Option.some.inj under).symm
          have := guarded.length_le_of_oldest sound.nodup sound.stamped takes
            (find?_eq_none_iff.1 stored) rival
          omega
      have appended : Guarded (kept ++ [⟨key, now, payload⟩]) e others := stays.append_single rival
      simpa only [step, stores] using appended

/-- A command that spares the key leaves its entry where it is, as long as it has not expired. -/
theorem Guarded.step (guarded : Guarded c.entries e others) (sound : c.Sound) (hn : now.IsReading)
    (spares : command.Spares e.key) (rival : ∀ k ∈ command.putKey?, k ∈ others)
    (few : (others.card : ℤ) < c.capacity) (fresh : ¬Expired c.ttl e.stamp now) :
    Guarded (c.step now command).2.entries e others := by
  cases command with
  | get key =>
      rcases get_cases sound hn key with ⟨-, h⟩ | ⟨old, stored, expired, h⟩ | ⟨old, -, -, h⟩ <;>
        simp only [Cache.step, h]
      · exact guarded
      · apply guarded.without
        rintro rfl
        have same := find?_of_mem sound.nodup guarded.mem
        obtain rfl := Option.some.inj (stored.symm.trans same)
        exact fresh expired
      · exact guarded
  | put key payload => exact guarded.put sound payload (Ne.symm spares) (rival key rfl) few
  | invalidate key => exact guarded.without (Ne.symm spares)
  | clear => exact spares.elim

end Step

/-! ## What a run keeps -/

section Run

variable {ttl : Number} {capacity : ℤ} {before later : List (Number × Command κ α)} {key : κ}
  {payload : α} {stamp now : Number} {others : Finset κ}

/-- Just after its put an entry is guarded. -/
theorem guarded_put (room : 1 ≤ capacity) (ticking : Ticking (before.map Prod.fst ++ [stamp])) :
    Guarded ((empty ttl capacity).run (before ++ [(stamp, .put key payload)])).entries ⟨key, stamp, payload⟩
      (rivals ttl capacity before key stamp later) := by
  have sound := (sound_empty (κ := κ) (α := α) ttl room).run ticking.of_append.readings
  have earlier {e : Entry κ α} (member : e ∈ ((empty ttl capacity).run before).entries) :
      e.stamp ≤ stamp :=
    ticking.le (List.mem_map_of_mem (f := Prod.fst) (put_of_mem_entries member)) (by simp)
  rw [run_append_single]
  cases stored : ((empty ttl capacity).run before).find? key with
  | some old =>
      obtain ⟨pre, post, split, same, ahead, behind⟩ := split_of_find? sound.nodup stored
      refine ⟨pre, post, ?_, ?_, ?_⟩
      · simp only [step, put_of_stored stored, split, restored_middle same ahead behind]
      · exact fun e member => .inl (earlier (by simp [split, member]))
      · intro e member
        have inside : e ∈ ((empty ttl capacity).run before).entries := by simp [split, member]
        by_cases less : e.stamp < stamp
        · exact .inl less
        · have notBefore : stamp ≤ e.stamp :=
            ((sound.stamped e inside).not_lt_iff (ticking.readings stamp (by simp))).1 less
          refine .inr (Finset.mem_union_right _ ?_)
          rw [if_pos (by simp [stored])]
          exact mem_otherKeysPut
            (List.mem_filter.2 ⟨put_of_mem_entries inside, decide_eq_true notBefore⟩) (behind e member)
  | none =>
      obtain ⟨kept, stores, cases⟩ := put_of_absent sound stored stamp payload
      refine ⟨kept, [], by simp only [step, stores], ?_, by simp⟩
      intro e member
      refine .inl (earlier ?_)
      rcases cases with ⟨-, rfl⟩ | ⟨-, oldest, -, rfl⟩
      · exact member
      · exact List.mem_of_mem_filter member

theorem guarded_run (room : 1 ≤ capacity)
    (ticking : Ticking ((before ++ (stamp, .put key payload) :: later).map Prod.fst ++ [now]))
    (spared : ∀ timed ∈ later, timed.2.Spares key) (fresh : ¬Expired ttl stamp now)
    (first : Guarded ((empty ttl capacity).run (before ++ [(stamp, .put key payload)])).entries
      ⟨key, stamp, payload⟩ others)
    (rival : ∀ timed ∈ later, ∀ k ∈ timed.2.putKey?, k ∈ others) (few : (others.card : ℤ) < capacity) :
    Guarded ((empty ttl capacity).run (before ++ (stamp, .put key payload) :: later)).entries
      ⟨key, stamp, payload⟩ others := by
  induction later using List.reverseRecOn generalizing now with
  | nil => exact first
  | append_singleton later timed ih =>
      obtain ⟨t, command⟩ := timed
      rw [← List.cons_append, ← List.append_assoc] at ticking ⊢
      rw [List.map_append, List.map_singleton] at ticking
      rw [List.forall_mem_append, List.forall_mem_singleton] at spared rival
      have earlier := ticking.of_append
      have ht : t.IsReading := earlier.readings t (by simp)
      have hs : stamp.IsReading := earlier.readings stamp (by simp)
      have freshThen : ¬Expired ttl stamp t := fun old =>
        fresh (old.mono ht hs (ticking.readings now (by simp)) hs (ticking.le (by simp) (by simp)) hs.le_refl)
      have settings := settings_run (empty ttl capacity : Cache κ α)
        (before ++ (stamp, .put key payload) :: later)
      rw [run_append_single]
      refine (ih earlier spared.1 freshThen rival.1).step ?_ ht spared.2 rival.2 ?_ ?_
      · exact (sound_empty ttl room).run earlier.of_append.readings
      · rwa [settings.2]
      · rwa [settings.1]

/-- **A payload stays** while it has fewer rivals than the cache has room for: until then, and until its
time to live has run out, a get finds it, if no later command puts anything under its key, invalidates it or
clears the cache. -/
theorem retained (room : 1 ≤ capacity)
    (ticking : Ticking ((before ++ (stamp, .put key payload) :: later).map Prod.fst ++ [now]))
    (spared : ∀ timed ∈ later, timed.2.Spares key) (fresh : ¬Expired ttl stamp now) :
    ((rivals ttl capacity before key stamp later).card < capacity →
      (((empty ttl capacity).run (before ++ (stamp, .put key payload) :: later)).get now key).1 =
        .ok (some payload)) ∧
    ((((empty ttl capacity).run before).find? key = none ∨
        ∀ timed ∈ before, ∀ k ∈ timed.2.putKey?, k ≠ key → timed.1 < stamp) →
      rivals ttl capacity before key stamp later = otherKeysPut key later) := by
  refine ⟨fun few => ?_, rivals_eq_otherKeysPut⟩
  have hn : now.IsReading := ticking.readings now (by simp)
  have sound := (sound_empty (κ := κ) (α := α) ttl room).run ticking.of_append.readings
  have upToPut : Ticking (before.map Prod.fst ++ [stamp]) :=
    ticking.sublist (by simp)
  have rival : ∀ timed ∈ later, ∀ k ∈ timed.2.putKey?, k ∈ rivals ttl capacity before key stamp later := by
    rintro ⟨t, command⟩ member k puts
    cases command with
    | put other value =>
        obtain rfl := Option.some.inj puts
        exact Finset.mem_union_left _ (mem_otherKeysPut member (spared _ member))
    | get other => cases puts
    | invalidate other => cases puts
    | clear => cases puts
  have guarded := guarded_run room ticking spared fresh (guarded_put room upToPut) rival few
  have stored := find?_of_mem sound.nodup guarded.mem
  rcases get_cases sound hn key with ⟨absent, -⟩ | ⟨e, found, old, -⟩ | ⟨e, found, -, answer⟩
  · cases absent.symm.trans stored
  · obtain rfl := Option.some.inj (found.symm.trans stored)
    rw [(settings_run _ _).1] at old
    exact absurd old fresh
  · obtain rfl := Option.some.inj (found.symm.trans stored)
    rw [answer]

end Run

/-- Two drafts put at one reading, of which the first is then refreshed and another one follows. -/
def bothDrafts : List (Number × Command String ℕ) := [(second 0, .put "a" 1), (second 0, .put "b" 2)]

def laterDraft : List (Number × Command String ℕ) := [(second 0, .put "c" 4)]

theorem ticking_bothDrafts :
    Ticking ((bothDrafts ++ (second 0, .put "a" 3) :: laterDraft).map Prod.fst ++ [second 0]) := by
  refine ⟨?_, by decide +kernel⟩
  simp only [bothDrafts, laterDraft, List.cons_append, List.nil_append, List.map_cons, List.map_nil,
    List.forall_mem_cons]
  have reading : (second 0).IsReading := ⟨_, rfl, rfl⟩
  simp [reading]

/-- With room for three the refreshed draft stays beside its two rivals. -/
theorem refreshed_stays :
    (1 : ℤ) ≤ 3 ∧ Ticking ((bothDrafts ++ (second 0, .put "a" 3) :: laterDraft).map Prod.fst ++ [second 0]) ∧
      (∀ timed ∈ laterDraft, timed.2.Spares "a") ∧ ¬Expired (.whole 3600) (second 0) (second 0) ∧
      (rivals (.whole 3600) 3 bothDrafts "a" (second 0) laterDraft).card < 3 ∧
      (((empty (.whole 3600) 3).run (bothDrafts ++ (second 0, .put "a" 3) :: laterDraft)).get
        (second 0) "a").1 = .ok (some 3) := by
  have spared : ∀ timed ∈ laterDraft, timed.2.Spares "a" := by
    simp [laterDraft, Command.Spares]
  have fresh : ¬Expired (.whole 3600) (second 0) (second 0) := by decide +kernel
  have few : (rivals (.whole 3600) 3 bothDrafts "a" (second 0) laterDraft).card < 3 := by decide +kernel
  exact ⟨by decide, ticking_bothDrafts, spared, fresh, few,
    (retained (by decide) ticking_bothDrafts spared fresh).1 (by exact_mod_cast few)⟩

/-- **The keys put later do not tell who goes first.**  With room for two, one other key put later is enough
to lose the refreshed draft: its entry still stands before that of the other draft, which was put earlier. -/
theorem refreshed_goes_first :
    (1 : ℤ) ≤ 2 ∧ Ticking ((bothDrafts ++ (second 0, .put "a" 3) :: laterDraft).map Prod.fst ++ [second 0]) ∧
      (∀ timed ∈ laterDraft, timed.2.Spares "a") ∧ ¬Expired (.whole 3600) (second 0) (second 0) ∧
      (otherKeysPut "a" laterDraft).card < 2 ∧
      (((empty (.whole 3600) 2).run (bothDrafts ++ (second 0, .put "a" 3) :: laterDraft)).get
        (second 0) "a").1 = .ok none := by
  refine ⟨by decide, ticking_bothDrafts, ?_, by decide +kernel, by decide +kernel, ?_⟩
  · simp [laterDraft, Command.Spares]
  · rfl

end Deliberation.Cache
