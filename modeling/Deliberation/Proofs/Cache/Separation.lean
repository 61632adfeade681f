/-
# Proofs.Cache.Separation -- which drafts share an entry

Whatever a get finds was put under its key (`exists_put_of_get`); that holds after every history, under any
clock.  The key of a draft is the digest of its content and its sensitivity with two bars between them.  So
where the digests of the texts that occur do not collide, what is found for a draft was put for one with the
same joined text, and that is the draft itself where neither sensitivity holds a bar (`put_of_found`).

With a bar in a sensitivity two drafts can have one joined text, and then one of them is answered with what
was put for the other (`barred_drafts_share`).
-/
import Deliberation.Proofs.Cache.History
import Mathlib.Data.Set.Function

set_option autoImplicit false

namespace Deliberation

/-! ## What is found was put -/

namespace Cache

variable {κ α : Type} [DecidableEq κ] {key : κ} {payload : α}

theorem exists_entry_of_get {c : Cache κ α} {now : Number}
    (found : (c.get now key).1 = .ok (some payload)) :
    ∃ e ∈ c.entries, e.key = key ∧ e.payload = payload := by
  unfold get at found
  split at found
  · cases found
  · rename_i e stored
    split at found
    · cases found
    · cases found
      exact ⟨e, List.mem_of_find?_eq_some stored, by simpa using List.find?_some stored, rfl⟩
    · cases found

/-- Every entry was put there with its stamp. -/
theorem put_of_mem_entries {ttl : Number} {capacity : ℤ} {history : List (Number × Command κ α)}
    {e : Entry κ α} (member : e ∈ ((empty ttl capacity).run history).entries) :
    (e.stamp, .put e.key e.payload) ∈ history := by
  induction history using List.reverseRecOn with
  | nil => cases member
  | append_singleton history timed ih =>
      obtain ⟨now, command⟩ := timed
      rw [run_append_single] at member
      rcases mem_entries_of_step member with old | ⟨rfl, rfl⟩
      · exact List.mem_append_left _ (ih old)
      · exact List.mem_append_right _ (List.mem_singleton_self _)

/-- **What a get finds was put under its key**, after any history and at any time. -/
theorem exists_put_of_get {ttl : Number} {capacity : ℤ} {history : List (Number × Command κ α)}
    {now : Number} (found : (((empty ttl capacity).run history).get now key).1 = .ok (some payload)) :
    ∃ stamp, (stamp, .put key payload) ∈ history := by
  obtain ⟨e, member, rfl, rfl⟩ := exists_entry_of_get found
  exact ⟨e.stamp, put_of_mem_entries member⟩

/-- The command with other keys. -/
def Command.mapKey {κ' : Type} (f : κ → κ') : Command κ α → Command κ' α
  | .get key => .get (f key)
  | .put key payload => .put (f key) payload
  | .invalidate key => .invalidate (f key)
  | .clear => .clear

end Cache

/-! ## Drafts -/

/-- A draft and the sensitivity at which it is previewed. -/
structure Draft where
  content : String
  sensitivity : String
  deriving DecidableEq

namespace Draft

/-- The text that is digested. -/
def joined (d : Draft) : String := d.content ++ "||" ++ d.sensitivity

/-- The key under which a cache holds the preview. -/
def key (d : Draft) : String := fingerprint d.content d.sensitivity

theorem key_eq (d : Draft) : d.key = Digest.sha256 d.joined := rfl

/-- No bar in the sensitivity. -/
def IsPlain (d : Draft) : Prop := '|' ∉ d.sensitivity.toList

instance (d : Draft) : Decidable d.IsPlain := inferInstanceAs (Decidable (¬_))

theorem toList_joined (d : Draft) :
    d.joined.toList = d.content.toList ++ '|' :: '|' :: d.sensitivity.toList := by
  rw [joined, String.toList_append, String.toList_append, List.append_assoc]
  rfl

/-- A plain sensitivity is what stands behind the last bar of the joined text. -/
theorem IsPlain.after_bars {d : Draft} (plain : d.IsPlain) :
    d.joined.toList.rtakeWhile (· ≠ '|') = d.sensitivity.toList := by
  have noBar : ∀ c ∈ d.sensitivity.toList.reverse, decide (c ≠ '|') = true := by
    intro c member
    exact decide_eq_true fun bar => plain (bar ▸ List.mem_reverse.1 member)
  rw [toList_joined, List.rtakeWhile, List.reverse_append, List.reverse_cons, List.reverse_cons,
    List.append_assoc, List.append_assoc, List.takeWhile_append_of_pos noBar]
  simp

/-- The joined text tells the draft, if its sensitivity is plain. -/
theorem eq_of_joined_eq {d d' : Draft} (plain : d.IsPlain) (plain' : d'.IsPlain)
    (same : d.joined = d'.joined) : d = d' := by
  obtain ⟨content, sensitivity⟩ := d
  obtain ⟨content', sensitivity'⟩ := d'
  obtain rfl : sensitivity = sensitivity' := by
    apply String.toList_injective
    rw [← plain.after_bars, same, plain'.after_bars]
  have contents := congrArg String.toList same
  rw [toList_joined, toList_joined, List.append_left_inj] at contents
  obtain rfl : content = content' := String.toList_injective contents
  rfl

end Draft

/-! ## Previews of drafts -/

section Previews

open Cache (Command)

variable {α : Type} {ttl : Number} {capacity : ℤ} {history : List (Number × Command Draft α)} {now : Number}
  {d : Draft} {payload : α}

/-- The cache after a history of commands about drafts. -/
def Cache.afterDrafts (ttl : Number) (capacity : ℤ) (history : List (Number × Command Draft α)) :
    Cache String α :=
  (empty ttl capacity).run (history.map fun (t, command) => (t, command.mapKey Draft.key))

/-- The joined texts of a draft and of those for which something was put. -/
def digestedTexts (history : List (Number × Command Draft α)) (d : Draft) : Set String :=
  {text | text = d.joined ∨ ∃ t d' payload, (t, .put d' payload) ∈ history ∧ text = d'.joined}

theorem put_of_mapKey {key : String} {t : Number}
    (member : (t, .put key payload) ∈ history.map fun (t, command) => (t, command.mapKey Draft.key)) :
    ∃ d' : Draft, d'.key = key ∧ (t, .put d' payload) ∈ history := by
  obtain ⟨⟨t', command⟩, member', same⟩ := List.mem_map.1 member
  cases command with
  | put d' payload' =>
      cases same
      exact ⟨d', rfl, member'⟩
  | get d' => cases same
  | invalidate d' => cases same
  | clear => cases same

/-- **What is found for a draft was put for one with the same joined text**, as long as the digests of the
texts that occur do not collide; with plain sensitivities, for the draft itself. -/
theorem put_of_found (apart : Set.InjOn Digest.sha256 (digestedTexts history d))
    (found : ((Cache.afterDrafts ttl capacity history).get now d.key).1 = .ok (some payload)) :
    ∃ t d', (t, .put d' payload) ∈ history ∧ d'.joined = d.joined ∧
      (d.IsPlain → d'.IsPlain → d' = d) := by
  obtain ⟨t, member⟩ := Cache.exists_put_of_get found
  obtain ⟨d', same, member'⟩ := put_of_mapKey member
  have joined : d'.joined = d.joined := apart (.inr ⟨t, d', payload, member', rfl⟩) (.inl rfl) same
  exact ⟨t, d', member', joined, fun plain plain' => Draft.eq_of_joined_eq plain' plain joined⟩

/-- A preview, and the history in which it is put for a draft, and another for it at another sensitivity. -/
def onePreview : Value := .record [("n", .whole 1)]

def helloTwice : List (Number × Command Draft Value) :=
  [(.whole 0, .put ⟨"hello", "LOW"⟩ onePreview), (.whole 0, .put ⟨"hello", "HIGH"⟩ (.record []))]

theorem isExpired_at_once {κ : Type} (c : Cache κ Value) (short : c.ttl = .whole 3600) (key : κ) :
    c.isExpired (.whole 0) ⟨key, .whole 0, onePreview⟩ = .ok false := by
  have none : ¬Number.whole 3600 < .whole 0 := by decide
  simp [Cache.isExpired, short, none]

/-- What is found at one sensitivity was put at that one. -/
theorem hello_low_found :
    Set.InjOn Digest.sha256 (digestedTexts helloTwice ⟨"hello", "LOW"⟩) ∧
      ((Cache.afterDrafts (.whole 3600) 500 helloTwice).get (.whole 0) (Draft.key ⟨"hello", "LOW"⟩)).1 =
        .ok (some onePreview) ∧
      ∃ t, (t, .put ⟨"hello", "LOW"⟩ onePreview) ∈ helloTwice := by
  have keys : Digest.sha256 "hello||HIGH" ≠ Digest.sha256 "hello||LOW" := by decide +kernel
  have apart : Set.InjOn Digest.sha256 (digestedTexts helloTwice ⟨"hello", "LOW"⟩) := by
    have texts : digestedTexts helloTwice ⟨"hello", "LOW"⟩ ⊆ {"hello||HIGH", "hello||LOW"} := by
      rintro text (rfl | ⟨t, d', payload, member, rfl⟩)
      · exact .inr rfl
      · simp only [helloTwice, List.mem_cons, Prod.mk.injEq, Command.put.injEq, List.not_mem_nil,
          or_false] at member
        rcases member with ⟨-, rfl, -⟩ | ⟨-, rfl, -⟩
        · exact .inr rfl
        · exact .inl rfl
    exact (Set.injOn_pair.2 fun same => absurd same keys).mono texts
  have found : ((Cache.afterDrafts (.whole 3600) 500 helloTwice).get (.whole 0)
      (Draft.key ⟨"hello", "LOW"⟩)).1 = .ok (some onePreview) := by
    have other : (Draft.key ⟨"hello", "LOW"⟩) ≠ Draft.key ⟨"hello", "HIGH"⟩ := keys.symm
    simp [Cache.afterDrafts, helloTwice, Command.mapKey, Cache.run, Cache.step, Cache.put, Cache.get,
      Cache.find?, Cache.empty, Cache.makeRoom, isExpired_at_once, other]
  obtain ⟨t, d', member, -, own⟩ := put_of_found apart found
  have plain : d'.IsPlain := by
    simp only [helloTwice, List.mem_cons, Prod.mk.injEq, Command.put.injEq, List.not_mem_nil,
      or_false] at member
    rcases member with ⟨-, rfl, -⟩ | ⟨-, rfl, -⟩ <;> decide
  obtain rfl := own (by decide) plain
  exact ⟨apart, found, t, member⟩

/-- **Drafts with bars can share an entry.**  A bar moved from the content to the sensitivity leaves the
joined text as it is; so one draft is answered with what was put for another one. -/
theorem barred_drafts_share :
    let history : List (Number × Command Draft Value) := [(.whole 0, .put ⟨"hello|", "LOW"⟩ onePreview)]
    (⟨"hello|", "LOW"⟩ : Draft) ≠ ⟨"hello", "|LOW"⟩ ∧
      Set.InjOn Digest.sha256 (digestedTexts history ⟨"hello", "|LOW"⟩) ∧
      ((Cache.afterDrafts (.whole 3600) 500 history).get (.whole 0) (Draft.key ⟨"hello", "|LOW"⟩)).1 =
        .ok (some onePreview) := by
  have joined : Draft.joined ⟨"hello|", "LOW"⟩ = Draft.joined ⟨"hello", "|LOW"⟩ := by decide
  have key : Draft.key ⟨"hello", "|LOW"⟩ = Draft.key ⟨"hello|", "LOW"⟩ := congrArg Digest.sha256 joined.symm
  refine ⟨by decide, ?_, ?_⟩
  · have texts : digestedTexts [(.whole 0, .put ⟨"hello|", "LOW"⟩ onePreview)] ⟨"hello", "|LOW"⟩ ⊆
        {Draft.joined ⟨"hello", "|LOW"⟩} := by
      rintro text (rfl | ⟨t, d', payload, member, rfl⟩)
      · rfl
      · simp only [List.mem_singleton, Prod.mk.injEq, Command.put.injEq] at member
        obtain ⟨-, rfl, -⟩ := member
        exact joined
    exact (Set.injOn_singleton _ _).mono texts
  · rw [key]
    simp [Cache.afterDrafts, Command.mapKey, Cache.run, Cache.step, Cache.put, Cache.get,
      Cache.find?, Cache.empty, Cache.makeRoom, isExpired_at_once]

end Previews

end Deliberation
