/-
# Proofs.Cache.History -- what a cache holds after any history of commands

What a cache answers is fixed by the commands that it has been given.  A payload counts as kept
(`Kept`) when it was put by the latest put under its key and no command since has taken it away: no
invalidation of the key, no clear, and no put under another key that evicts it.  A cache that started
empty stores what is kept and nothing else (`kept_of_find?`, `Kept.find?`), except that an earlier get
may have found a kept payload expired and dropped it.  By then it is expired for good, since clocks do
not go back; so a get answers with a payload exactly when it is kept and has not expired, and otherwise
with nothing.  `Faithful` gathers this with what a command may do to other keys and with what is counted.
-/
import Deliberation.Proofs.Cache.Entries
import Mathlib.Data.List.DropRight

set_option autoImplicit false

namespace Deliberation.Cache

variable {κ α : Type} [DecidableEq κ]

/-! ## Runs -/

section Run

variable {c : Cache κ α} {history : List (Number × Command κ α)}

theorem run_append_single (c : Cache κ α) (history : List (Number × Command κ α)) (now : Number)
    (command : Command κ α) :
    c.run (history ++ [(now, command)]) = ((c.run history).step now command).2 := by
  simp [run]

theorem settings_step (c : Cache κ α) (now : Number) (command : Command κ α) :
    (c.step now command).2.ttl = c.ttl ∧ (c.step now command).2.capacity = c.capacity := by
  cases command with
  | get key =>
      simp only [step, get]
      split
      · exact ⟨rfl, rfl⟩
      · split <;> exact ⟨rfl, rfl⟩
  | put key payload =>
      cases stored : c.find? key with
      | some e => simp [step, put_of_stored stored]
      | none => cases room : c.makeRoom <;> simp [step, put, stored, room]
  | invalidate key => exact ⟨rfl, rfl⟩
  | clear => exact ⟨rfl, rfl⟩

/-- Time to live and capacity stay what they are. -/
theorem settings_run (c : Cache κ α) (history : List (Number × Command κ α)) :
    (c.run history).ttl = c.ttl ∧ (c.run history).capacity = c.capacity := by
  induction history using List.reverseRecOn with
  | nil => exact ⟨rfl, rfl⟩
  | append_singleton history timed ih =>
      rw [run_append_single, (settings_step _ _ _).1, (settings_step _ _ _).2]
      exact ih

theorem Sound.run (sound : c.Sound) (readings : ∀ t ∈ history.map Prod.fst, t.IsReading) :
    (c.run history).Sound := by
  induction history using List.reverseRecOn with
  | nil => exact sound
  | append_singleton history timed ih =>
      rw [run_append_single]
      refine (ih ?_).step (readings timed.1 (by simp)) timed.2
      intro t ht
      exact readings t (by simp [ht])

end Run

/-! ## Kept payloads -/

/-- A put under one key drops the entry under another. -/
def Evicts (c : Cache κ α) (now : Number) (key : κ) (payload : α) (other : κ) : Prop :=
  other ≠ key ∧ (c.find? other).isSome ∧
    (c.step now (.put key payload)).2.find? other = none

/-- A command takes away what is stored under a key. -/
def TakesAway (c : Cache κ α) (now : Number) (key : κ) : Command κ α → Prop
  | .get _ => False
  | .put other payload => c.Evicts now other payload key
  | .invalidate other => other = key
  | .clear => True

/-- The latest put under a key in a history is of a payload at a time, and no later command has taken
the payload away. -/
def Kept (c : Cache κ α) (history : List (Number × Command κ α)) (key : κ) (payload : α)
    (stamp : Number) : Prop :=
  ∃ before later, history = before ++ (stamp, .put key payload) :: later ∧
    (∀ timed ∈ later, ∀ other, timed.2 ≠ .put key other) ∧
    ∀ between now command rest, later = between ++ (now, command) :: rest →
      ¬(c.run (before ++ (stamp, .put key payload) :: between)).TakesAway now key command

section Kept

variable {c : Cache κ α} {history : List (Number × Command κ α)} {key : κ} {payload : α}
  {stamp now : Number} {command : Command κ α}

theorem Kept.stamp_mem (kept : c.Kept history key payload stamp) : stamp ∈ history.map Prod.fst := by
  obtain ⟨before, later, rfl, -⟩ := kept
  simp

theorem kept_put (c : Cache κ α) (history : List (Number × Command κ α)) (key : κ) (payload : α)
    (now : Number) : c.Kept (history ++ [(now, .put key payload)]) key payload now :=
  ⟨history, [], rfl, by simp, by simp⟩

theorem Kept.append_single (kept : c.Kept history key payload stamp)
    (notPut : ∀ other, command ≠ .put key other)
    (leaves : ¬(c.run history).TakesAway now key command) :
    c.Kept (history ++ [(now, command)]) key payload stamp := by
  obtain ⟨before, later, rfl, latest, safe⟩ := kept
  refine ⟨before, later ++ [(now, command)], by simp, ?_, ?_⟩
  · intro timed member
    rcases List.mem_append.1 member with old | new
    · exact latest timed old
    · rw [List.mem_singleton.1 new]
      exact notPut
  · intro between now' command' rest split
    rcases List.eq_nil_or_concat' rest with rfl | ⟨rest, last, rfl⟩
    · obtain ⟨rfl, same⟩ := List.append_inj' split rfl
      obtain ⟨rfl, rfl⟩ := Prod.mk.inj (List.head_eq_of_cons_eq same)
      exact leaves
    · rw [← List.cons_append, ← List.append_assoc] at split
      obtain ⟨same, -⟩ := List.append_inj' split rfl
      exact safe between now' command' rest same

/-- What is kept was put just now, or was kept before and has not been taken away just now. -/
theorem Kept.of_append_single (kept : c.Kept (history ++ [(now, command)]) key payload stamp) :
    (command = .put key payload ∧ stamp = now) ∨
      (∀ other, command ≠ .put key other) ∧ ¬(c.run history).TakesAway now key command ∧
        c.Kept history key payload stamp := by
  obtain ⟨before, later, split, latest, safe⟩ := kept
  rcases List.eq_nil_or_concat' later with rfl | ⟨later, last, rfl⟩
  · obtain ⟨-, same⟩ := List.append_inj' split rfl
    obtain ⟨rfl, rfl⟩ := Prod.mk.inj (List.head_eq_of_cons_eq same)
    exact .inl ⟨rfl, rfl⟩
  · rw [← List.cons_append, ← List.append_assoc] at split
    obtain ⟨rfl, same⟩ := List.append_inj' split rfl
    obtain rfl := List.head_eq_of_cons_eq same
    refine .inr ⟨latest (now, command) (by simp), safe later now command [] rfl, before, later, rfl, ?_, ?_⟩
    · intro timed member
      exact latest timed (List.mem_append_left _ member)
    · intro between now' command' rest same
      exact safe between now' command' (rest ++ [(now, command)]) (by simp [same])

/-! ### One step -/

theorem TakesAway.find? (takes : c.TakesAway now key command) :
    (c.step now command).2.find? key = none := by
  cases command with
  | get other => exact takes.elim
  | put other payload => exact takes.2.2
  | invalidate other =>
      obtain rfl : other = key := takes
      rw [find?_invalidate, if_pos rfl]
  | clear => rfl

/-- A command that puts nothing under a key leaves the entry there, takes it away, or finds it expired. -/
theorem find?_step (sound : c.Sound) (hn : now.IsReading) (notPut : ∀ other, command ≠ .put key other) :
    (c.step now command).2.find? key = c.find? key ∨
      (c.step now command).2.find? key = none ∧ (c.TakesAway now key command ∨
        ∃ e, c.find? key = some e ∧ Expired c.ttl e.stamp now) := by
  cases command with
  | get other =>
      rcases find?_get sound hn other key with same | ⟨rfl, gone, old⟩
      · exact .inl same
      · exact .inr ⟨gone, .inr old⟩
  | put other payload =>
      have apart : key ≠ other := by
        rintro rfl
        exact notPut payload rfl
      by_cases room : (c.find? other).isSome ∨ (c.entries.length : ℤ) < c.capacity
      · exact .inl (find?_put_of_room sound payload room apart)
      · rw [not_or, Option.not_isSome_iff_eq_none, not_lt] at room
        obtain ⟨e, -, -, -, -, others⟩ := find?_put_of_full sound now payload room.1
          (le_antisymm sound.bounded room.2)
        have after := others key apart
        by_cases evicted : key = e.key
        · rw [if_pos evicted] at after
          cases stored : c.find? key with
          | none => exact .inl after
          | some e' => exact .inr ⟨after, .inl ⟨apart, by simp [stored], after⟩⟩
        · rw [if_neg evicted] at after
          exact .inl after
  | invalidate other =>
      rw [find?_invalidate]
      split_ifs with same
      · exact .inr ⟨rfl, .inl same.symm⟩
      · exact .inl rfl
  | clear => exact .inr ⟨find?_clear now key, .inl trivial⟩

end Kept

/-! ### A whole run from the empty cache -/

section Empty

variable {ttl : Number} {capacity : ℤ} {history : List (Number × Command κ α)} {key : κ}
  {payload : α} {stamp now : Number} {e : Entry κ α}

/-- What is stored is kept. -/
theorem kept_of_find? (room : 1 ≤ capacity) (readings : ∀ t ∈ history.map Prod.fst, t.IsReading)
    (stored : ((empty ttl capacity).run history).find? key = some e) :
    (empty ttl capacity).Kept history key e.payload e.stamp := by
  induction history using List.reverseRecOn generalizing e with
  | nil => simp [run, find?, empty] at stored
  | append_singleton history timed ih =>
      obtain ⟨t, command⟩ := timed
      simp only [List.map_append, List.mem_append, or_imp, forall_and] at readings
      obtain ⟨before, ht⟩ := readings
      replace ht : t.IsReading := ht t (by simp)
      have sound := (sound_empty (κ := κ) (α := α) ttl room).run before
      rw [run_append_single] at stored
      by_cases puts : ∃ other, command = .put key other
      · obtain ⟨other, rfl⟩ := puts
        rw [find?_put sound] at stored
        obtain rfl := Option.some.inj stored
        exact kept_put _ history key other t
      · rw [not_exists] at puts
        rcases find?_step sound ht puts with same | ⟨gone, -⟩
        · refine (ih before (same ▸ stored)).append_single puts ?_
          intro takes
          simp [takes.find?] at stored
        · simp [gone] at stored

/-- What is kept is stored, unless it has been found expired. -/
theorem Kept.find? (room : 1 ≤ capacity) (readings : ∀ t ∈ history.map Prod.fst, t.IsReading)
    (kept : (empty ttl capacity).Kept history key payload stamp) :
    ((empty ttl capacity).run history).find? key = some ⟨key, stamp, payload⟩ ∨
      ((empty ttl capacity).run history).find? key = none ∧
        ∃ t ∈ history.map Prod.fst, Expired ttl stamp t := by
  induction history using List.reverseRecOn with
  | nil => simpa using kept.stamp_mem
  | append_singleton history timed ih =>
      obtain ⟨t, command⟩ := timed
      simp only [List.map_append, List.mem_append, or_imp, forall_and] at readings
      obtain ⟨before, ht⟩ := readings
      replace ht : t.IsReading := ht t (by simp)
      have sound := (sound_empty (κ := κ) (α := α) ttl room).run before
      rw [run_append_single]
      rcases kept.of_append_single with ⟨rfl, rfl⟩ | ⟨notPut, leaves, kept⟩
      · exact .inl (find?_put sound stamp key payload)
      · rcases find?_step sound ht notPut with same | ⟨gone, takes | ⟨e, stored, old⟩⟩
        · rw [same]
          refine (ih before kept).imp_right ?_
          rintro ⟨gone, earlier, member, old⟩
          exact ⟨gone, earlier, by simp [member], old⟩
        · exact absurd takes leaves
        · refine .inr ⟨gone, ?_⟩
          rcases ih before kept with same | ⟨gone', -⟩
          · obtain rfl := Option.some.inj (stored.symm.trans same)
            rw [(settings_run _ _).1] at old
            exact ⟨t, by simp, old⟩
          · simp [gone'] at stored

end Empty

/-! ## Counting -/

def Command.isGet : Command κ α → Bool
  | .get _ => true
  | _ => false

def Command.isClear : Command κ α → Bool
  | .clear => true
  | _ => false

/-- The gets of a history after its last clear. -/
def getsSinceClear (history : List (Number × Command κ α)) : ℕ :=
  (history.rtakeWhile fun timed => !timed.2.isClear).countP fun timed => timed.2.isGet

omit [DecidableEq κ] in
theorem getsSinceClear_append_single (history : List (Number × Command κ α)) (now : Number)
    (command : Command κ α) :
    getsSinceClear (history ++ [(now, command)]) =
      if command.isClear then 0 else getsSinceClear history + if command.isGet then 1 else 0 := by
  unfold getsSinceClear
  rw [List.rtakeWhile_concat]
  cases command <;> simp [Command.isClear, Command.isGet]

theorem counted_step {c : Cache κ α} {now : Number} (sound : c.Sound) (hn : now.IsReading)
    (command : Command κ α) : (c.step now command).2.hits + (c.step now command).2.misses =
      if command.isClear then 0 else c.hits + c.misses + if command.isGet then 1 else 0 := by
  cases command with
  | get key =>
      rcases get_cases sound hn key with ⟨-, h⟩ | ⟨e, -, -, h⟩ | ⟨e, -, -, h⟩ <;>
        simp only [step, h, Command.isClear, Command.isGet, Bool.false_eq_true, if_false, if_true] <;>
        omega
  | put key payload =>
      cases stored : c.find? key with
      | some e => simp [step, put_of_stored stored, Command.isClear, Command.isGet]
      | none =>
          cases room : c.makeRoom <;>
            simp [step, put, stored, room, Command.isClear, Command.isGet]
  | invalidate key => rfl
  | clear => rfl

theorem counted_run {ttl : Number} {capacity : ℤ} {history : List (Number × Command κ α)}
    (room : 1 ≤ capacity) (readings : ∀ t ∈ history.map Prod.fst, t.IsReading) :
    ((empty ttl capacity).run history).hits + ((empty ttl capacity).run history).misses =
      getsSinceClear history := by
  induction history using List.reverseRecOn with
  | nil => rfl
  | append_singleton history timed ih =>
      obtain ⟨t, command⟩ := timed
      simp only [List.map_append, List.mem_append, or_imp, forall_and] at readings
      obtain ⟨before, ht⟩ := readings
      have sound := (sound_empty (κ := κ) (α := α) ttl room).run before
      rw [run_append_single, counted_step sound (ht t (by simp)), ih before,
        getsSinceClear_append_single]

/-! ## What a history determines -/

/-- What a cache owes to the commands that it has been given since it was empty. -/
structure Faithful (ttl : Number) (capacity : ℤ) (history : List (Number × Command κ Value))
    (now : Number) (c : Cache κ Value) : Prop where
  bounded : (c.entries.length : ℤ) ≤ capacity
  /-- A get answers with the payload that is kept, marked as coming from the cache. -/
  answered : ∀ key fields stamp, (empty ttl capacity).Kept history key (.record fields) stamp →
    ¬Expired ttl stamp now →
      answerOf (c.get now key).1 = .ok (.record (Value.setField "cached" (.bool true) fields))
  /-- Where nothing is kept, or what is kept has expired, a get answers with nothing. -/
  unanswered : ∀ key, (∀ payload stamp, (empty ttl capacity).Kept history key payload stamp →
    Expired ttl stamp now) → answerOf (c.get now key).1 = .ok .null
  /-- What is kept has not expired while its age is at most the time to live. -/
  aged : ttl.exact.isNaN = false → ∀ key payload stamp,
    (empty ttl capacity).Kept history key payload stamp →
      (¬Expired ttl stamp now ↔ ∃ age, now.sub stamp = .ok age ∧ age ≤ ttl)
  get_other : ∀ key, ∀ k ≠ key, (c.step now (.get key)).2.find? k = c.find? k
  invalidate_other : ∀ key, ∀ k ≠ key, (c.step now (.invalidate key)).2.find? k = c.find? k
  clear_all : (c.step now .clear).2.entries = []
  put_stores : ∀ key payload, (c.step now (.put key payload)).2.find? key = some ⟨key, now, payload⟩
  put_other : ∀ key payload, (c.find? key).isSome ∨ (c.entries.length : ℤ) < capacity →
    ∀ k ≠ key, (c.step now (.put key payload)).2.find? k = c.find? k
  /-- A put under a new key in a full cache drops one other entry, none older than it. -/
  put_full : ∀ key payload, c.find? key = none → capacity ≤ (c.entries.length : ℤ) →
    ∃ e ∈ c.entries, e.key ≠ key ∧ (∀ e' ∈ c.entries, e.stamp ≤ e'.stamp) ∧
      ∀ k ≠ key, (c.step now (.put key payload)).2.find? k = if k = e.key then none else c.find? k
  counted : c.hits + c.misses = getsSinceClear history

section Answer

variable {c : Cache κ Value} {e : Entry κ Value} {now : Number} {key : κ}

theorem answerOf_get_of_none (absent : c.find? key = none) :
    answerOf (c.get now key).1 = .ok .null := by
  simp only [get, absent]
  rfl

theorem answerOf_get_of_some (sound : c.Sound) (hn : now.IsReading) (stored : c.find? key = some e) :
    Expired c.ttl e.stamp now ∧ answerOf (c.get now key).1 = .ok .null ∨
      ¬Expired c.ttl e.stamp now ∧ answerOf (c.get now key).1 = e.payload.markCached := by
  rcases get_cases sound hn key with ⟨absent, -⟩ | ⟨e', stored', old, h⟩ | ⟨e', stored', fresh, h⟩
  · simp [absent] at stored
  · obtain rfl := Option.some.inj (stored.symm.trans stored')
    exact .inl ⟨old, by rw [h]; rfl⟩
  · obtain rfl := Option.some.inj (stored.symm.trans stored')
    exact .inr ⟨fresh, by rw [h]; rfl⟩

end Answer

/-- **A cache answers from the latest puts.**  After any history of commands, under a clock that does
not go back, it answers with what is kept and has not expired, and with nothing else; its commands
leave other keys alone but for clears and evictions, and it counts every get. -/
theorem faithful_run {ttl : Number} {capacity : ℤ} {history : List (Number × Command κ Value)}
    {now : Number} (room : 1 ≤ capacity) (ticking : Ticking (history.map Prod.fst ++ [now])) :
    Faithful ttl capacity history now ((empty ttl capacity).run history) := by
  have readings := ticking.of_append.readings
  have hn : now.IsReading := ticking.readings now (by simp)
  have sound := (sound_empty (κ := κ) (α := Value) ttl room).run readings
  have httl : ((empty ttl capacity : Cache κ Value).run history).ttl = ttl := (settings_run _ _).1
  have hcapacity : ((empty ttl capacity : Cache κ Value).run history).capacity = capacity :=
    (settings_run _ _).2
  -- an earlier expiry lasts until now
  have lasting {stamp t : Number} (hs : stamp ∈ history.map Prod.fst) (ht : t ∈ history.map Prod.fst)
      (old : Expired ttl stamp t) : Expired ttl stamp now :=
    old.mono (readings t ht) (readings stamp hs) hn (readings stamp hs)
      (ticking.le ht (by simp)) (readings stamp hs).le_refl
  constructor
  case bounded => simpa only [hcapacity] using sound.bounded
  case answered =>
    intro key fields stamp kept fresh
    rcases kept.find? room readings with stored | ⟨-, t, ht, old⟩
    · rcases answerOf_get_of_some sound hn stored with ⟨old, -⟩ | ⟨-, answer⟩
      · rw [httl] at old
        exact absurd old fresh
      · exact answer
    · exact absurd (lasting kept.stamp_mem ht old) fresh
  case unanswered =>
    intro key expired
    cases stored : ((empty ttl capacity).run history).find? key with
    | none => exact answerOf_get_of_none stored
    | some e =>
        rcases answerOf_get_of_some sound hn stored with ⟨-, answer⟩ | ⟨fresh, -⟩
        · exact answer
        · rw [httl] at fresh
          exact absurd (expired e.payload e.stamp (kept_of_find? room readings stored)) fresh
  case aged =>
    intro defined key payload stamp kept
    exact not_expired_iff defined hn (readings stamp kept.stamp_mem)
  case get_other =>
    intro key k other
    exact (find?_get sound hn key k).resolve_right fun h => other h.1
  case invalidate_other =>
    intro key k other
    rw [find?_invalidate, if_neg other]
  case clear_all => rfl
  case put_stores => exact find?_put sound now
  case put_other =>
    intro key payload room' k other
    exact find?_put_of_room sound payload (by simpa only [hcapacity] using room') other
  case put_full =>
    intro key payload absent full
    have exact : (((empty ttl capacity).run history).entries.length : ℤ) =
        ((empty ttl capacity).run history).capacity :=
      le_antisymm sound.bounded (by simpa only [hcapacity] using full)
    obtain ⟨e, member, -, other, least, rest⟩ :=
      find?_put_of_full sound now payload absent exact
    exact ⟨e, member, other, least, rest⟩
  case counted => exact counted_run room readings

/-- A second by which a clock is told. -/
def second (n : ℕ) : Number := .real (.finite n)

/-- Three drafts put into a cache for two, and a get in vain. -/
def threeDrafts : List (Number × Command String Value) :=
  [(second 0, .put "first" (.record [("n", .whole 1)])),
    (second 1, .put "second" (.record [("n", .whole 2)])),
    (second 2, .put "third" (.record [("n", .whole 3), ("cached", .bool false)])),
    (second 12, .get "second")]

theorem threeDrafts_faithful :
    (1 : ℤ) ≤ 2 ∧ Ticking (threeDrafts.map Prod.fst ++ [second 12]) ∧
      Faithful (.whole 10) 2 threeDrafts (second 12) ((empty (.whole 10) 2).run threeDrafts) ∧
      ((empty (.whole 10) 2).run threeDrafts).entries.map Entry.key = ["third"] ∧
      answerOf (((empty (.whole 10) 2).run threeDrafts).get (second 12) "third").1 =
        .ok (.record [("n", .whole 3), ("cached", .bool true)]) ∧
      ((empty (.whole 10) 2).run threeDrafts).hits +
        ((empty (.whole 10) 2).run threeDrafts).misses = 1 := by
  have ticking : Ticking (threeDrafts.map Prod.fst ++ [second 12]) := by
    refine ⟨?_, by decide +kernel⟩
    intro t ht
    simp only [threeDrafts, List.map_cons, List.map_nil, List.cons_append, List.nil_append,
      List.mem_cons, List.not_mem_nil, or_false] at ht
    rcases ht with rfl | rfl | rfl | rfl | rfl <;> exact ⟨_, rfl, rfl⟩
  have faithful : Faithful (.whole 10) 2 threeDrafts (second 12)
      ((empty (.whole 10) 2).run threeDrafts) := faithful_run (by decide) ticking
  refine ⟨by decide, ticking, faithful, by decide +kernel, ?_, faithful.counted⟩
  have kept : (empty (.whole 10) 2).Kept threeDrafts "third"
      (.record [("n", .whole 3), ("cached", .bool false)]) (second 2) :=
    (kept_put _ (threeDrafts.take 2) _ _ _).append_single (by simp) id
  refine faithful.answered "third" _ _ kept ?_
  rintro ⟨age, same, older⟩
  obtain rfl := Except.ok.inj same
  exact absurd older (by decide +kernel)

end Deliberation.Cache
