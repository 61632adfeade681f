/-
# Proofs.Service.Transparency -- the cache of previews cannot be told from the outside

Whatever requests a fresh service has answered, and whichever detectors failed meanwhile, a preview that
it answers is the one that a fresh service with working detectors would give (`Transparent.same_body`).
Only the elapsed time and the mark that it was cached can differ.

Two arguments carry this.  Every entry of the cache has an origin (`exists_origin`): an earlier preview,
made anew and answered, under the key of its draft and sensitivity.  Where no two of the digested texts
collide, a draft that is found under its key is the draft it was made for, since a sensitivity can be
read off the end of the digested text (`keyText_inj`).  Second, what was not answered with a new preview
leaves a cache that is alike the one before (`alike_unanswered`), and services with caches that are alike
answer all later previews alike (`response_eq_of_alike`).
-/
import Deliberation.Proofs.Feedback.Panel
import Deliberation.Proofs.Service.Previews

set_option autoImplicit false

namespace Deliberation

/-! ## Detectors that fail -/

/-- A detector does what a working one does, or fails. -/
def Detector.MayFail (d working : Detector) : Prop :=
  ∀ text, d.detect text = working.detect text ∨ ∃ reason, d.detect text = .error reason

/-- The shipped panel, with detectors that may fail. -/
structure Panel.MayFail (p : Panel) : Prop where
  tone : p.tone.MayFail Panel.shipped.tone
  fallacy : p.fallacy.MayFail Panel.shipped.fallacy
  clarity : p.clarity.MayFail Panel.shipped.clarity
  tieEpsilon : p.tieEpsilon = Panel.shipped.tieEpsilon

theorem Detector.MayFail.detect_eq {d working : Detector} (may : d.MayFail working) {text : String}
    {outcome : Option Detection} (h : d.detect text = .ok outcome) :
    working.detect text = .ok outcome := by
  rcases may text with same | ⟨reason, failed⟩
  · exact same ▸ h
  · simp [failed] at h

namespace Panel

variable {p : Panel} {text : String}

/-- What a panel finds although detectors may fail, the shipped one finds. -/
theorem MayFail.analyzeAll_eq (may : p.MayFail) {results : List Analysis}
    (h : p.analyzeAll text = .ok results) : Panel.shipped.analyzeAll text = .ok results := by
  unfold analyzeAll at h ⊢
  split_ifs at h ⊢ with blank
  · exact h
  · obtain ⟨found, hfound, ranked⟩ := bind_eq_ok_iff.1 h
    obtain ⟨tone, fallacy, clarity, htone, hfallacy, hclarity, same⟩ := detections_eq_ok_iff.1 hfound
    have hfound' := detections_eq_ok_iff.2 ⟨tone, fallacy, clarity, may.tone.detect_eq htone,
      may.fallacy.detect_eq hfallacy, may.clarity.detect_eq hclarity, same⟩
    have same : p.answer found = shipped.answer found := by
      unfold answer
      rw [may.tieEpsilon]
    exact bind_eq_ok_iff.2 ⟨found, hfound', same ▸ ranked⟩

end Panel

/-! ## Bodies of previews -/

/-- A value without some of its fields. -/
def Value.omitting (names : List String) : Value → Value
  | .record fields => .record (fields.filter fun f => f.1 ∉ names)
  | v => v

namespace Preview

variable {p : Preview} {results : List Analysis} {sensitivity : Sensitivity} {elapsed : Number}

theorem field_cached (p : Preview) (cached : Bool) :
    (p.toAnswer cached).field "cached" = .bool cached := by
  simp [toAnswer, toValue, Value.field, Value.field?, Value.lookup_setField]

/-- Previews that differ in the elapsed time have the same body but for the fields that tell it. -/
theorem omitting_toAnswer (p : Preview) (millis : ℤ) (cached cached' : Bool) :
    ((({ p with analysisMillis := millis } : Preview).toAnswer cached).omitting
      ["cached", "analysis_time_ms"]) =
        (p.toAnswer cached').omitting ["cached", "analysis_time_ms"] := by
  simp [toAnswer, toValue, Value.setField, Value.omitting]

/-- A preview depends on the elapsed time in the field that tells it and nowhere else. -/
theorem build_eq_of_truncate {elapsed' : Number} {n : ℤ}
    (h : build results sensitivity elapsed = .ok p) (h' : elapsed'.truncate = .ok n) :
    build results sensitivity elapsed' = .ok { p with analysisMillis := max 0 n } := by
  obtain ⟨m, -, rfl⟩ := map_eq_ok_iff.1 h
  exact map_eq_ok_iff.2 ⟨n, h', rfl⟩

end Preview

/-! ## Keys -/

/-- The last character of a sensitivity tells which one it is. -/
theorem Sensitivity.eq_of_getLast {a b : Sensitivity}
    (h : a.label.toList.getLast? = b.label.toList.getLast?) : a = b := by
  cases a <;> cases b <;> first | rfl | exact absurd h (by decide)

/-- The digested text tells draft and sensitivity. -/
theorem Request.keyText_inj {r r' : Request} (h : r.keyText = r'.keyText) :
    r.content = r'.content ∧ r.sensitivity = r'.sensitivity := by
  have texts := congrArg String.toList h
  simp only [keyText, String.toList_append] at texts
  have last (s : Sensitivity) (before : List Char) :
      (before ++ s.label.toList).getLast? = s.label.toList.getLast? := by
    cases s <;> simp [Sensitivity.label]
  have same : r.sensitivity = r'.sensitivity :=
    Sensitivity.eq_of_getLast (by rw [← last, texts, last])
  rw [same] at texts
  exact ⟨String.toList_injective (by simpa using texts), same⟩

/-! ## Sequences of requests -/

/-- Requests with what each of them meets, the earliest first. -/
abbrev Traffic := List (Conditions × Request)

namespace Traffic

variable (traffic : Traffic)

/-- The readings of the clock at each request, before and after its analysis. -/
def times : List Number := traffic.flatMap fun (c, _) => [c.now, c.stored]

theorem times_append (earlier later : Traffic) :
    times (earlier ++ later) = earlier.times ++ later.times := List.flatMap_append

theorem times_cons (c : Conditions) (r : Request) (later : Traffic) :
    times ((c, r) :: later) = c.now :: c.stored :: later.times := rfl

/-- The texts that are digested. -/
def keyTexts : Set String :=
  {text | ∃ c r, (c, r) ∈ traffic ∧ r.IsPreview ∧ r.IsWellFormed ∧ text = r.keyText}

end Traffic

namespace Service

/-- The service after requests. -/
def after (s : Service) (traffic : Traffic) : Service :=
  traffic.foldl (fun s (c, r) => (s.respond c r).2) s

/-- The response to a request that follows others on a fresh service. -/
def responseAfter (earlier : Traffic) (c : Conditions) (r : Request) : Response :=
  ((fresh.after earlier).respond c r).1

variable {s s' : Service} {c : Conditions} {r : Request} {traffic : Traffic} {content : String}
  {sensitivity : Sensitivity} {p : Preview}

theorem after_append (s : Service) (earlier later : Traffic) :
    s.after (earlier ++ later) = (s.after earlier).after later := List.foldl_append

theorem after_cons (s : Service) (c : Conditions) (r : Request) (later : Traffic) :
    s.after ((c, r) :: later) = (s.respond c r).2.after later := rfl

theorem after_append_single (s : Service) (earlier : Traffic) (c : Conditions) (r : Request) :
    s.after (earlier ++ [(c, r)]) = ((s.after earlier).respond c r).2 := after_append _ _ _

theorem sound_respond (sound : s.previews.Sound) (hn : c.now.IsReading) (hs : c.stored.IsReading)
    (r : Request) : (s.respond c r).2.previews.Sound := by
  by_cases asks : r.IsPreview
  · by_cases wellFormed : r.IsWellFormed
    · have asked : (s.previews.get c.now r.key).2.Sound := sound.step hn (.get r.key)
      rcases respond_cases sound hn hs asks wellFormed with
        ⟨e, -, -, -, h⟩ | ⟨-, ⟨fault, -, h⟩ | ⟨p, previews, -, puts, h⟩⟩ <;> rw [h]
      · exact asked
      · exact asked
      · obtain ⟨previews', puts', sound'⟩ := asked.put hs r.key p
        obtain rfl := Except.ok.inj (puts.symm.trans puts')
        exact sound'
    · obtain ⟨places, refused⟩ := respond_malformed c asks wellFormed
      rw [refused s]
      exact sound
  · rw [respond_of_other s c asks]
    exact sound

theorem sound_after (readings : ∀ t ∈ traffic.times, t.IsReading) :
    (fresh.after traffic).previews.Sound := by
  induction traffic using List.reverseRecOn with
  | nil => exact Cache.sound_empty _ (by decide)
  | append_singleton earlier last ih =>
      obtain ⟨c, r⟩ := last
      simp only [Traffic.times_append, Traffic.times_cons, List.mem_append, or_imp, forall_and,
        List.forall_mem_cons] at readings
      obtain ⟨before, hn, hs, -⟩ := readings
      rw [after_append_single]
      exact sound_respond (ih before) hn hs r

/-! ### Where an entry comes from -/

/-- An answer to one request makes an entry of the cache. -/
def Makes (s : Service) (c : Conditions) (r : Request) (e : Cache.Entry String Preview) : Prop :=
  r.IsPreview ∧ r.IsWellFormed ∧ e.key = r.key ∧
    previewOf c r.content r.sensitivity = .ok e.payload ∧
    (s.respond c r).1 = .ofAnswer (.ok (e.payload.toAnswer false))

theorem mem_entries_of_respond (sound : s.previews.Sound) (hn : c.now.IsReading)
    (hs : c.stored.IsReading) {e : Cache.Entry String Preview}
    (member : e ∈ (s.respond c r).2.previews.entries) :
    e ∈ s.previews.entries ∨ s.Makes c r e := by
  by_cases asks : r.IsPreview
  · by_cases wellFormed : r.IsWellFormed
    · rcases respond_cases sound hn hs asks wellFormed with
        ⟨e, -, -, -, h⟩ | ⟨-, ⟨fault, -, h⟩ | ⟨p, previews, made, puts, h⟩⟩ <;> rw [h] at member
      · exact .inl (Cache.mem_entries_of_get member)
      · exact .inl (Cache.mem_entries_of_get member)
      · rcases Cache.mem_entries_of_put puts member with old | rfl
        · exact .inl (Cache.mem_entries_of_get old)
        · exact .inr ⟨asks, wellFormed, rfl, made, by rw [h]⟩
    · obtain ⟨places, refused⟩ := respond_malformed c asks wellFormed
      rw [refused s] at member
      exact .inl member
  · rw [respond_of_other s c asks] at member
    exact .inl member

/-- Every entry of the cache was made by the answer to an earlier preview. -/
theorem exists_origin (readings : ∀ t ∈ traffic.times, t.IsReading)
    {e : Cache.Entry String Preview} (member : e ∈ (fresh.after traffic).previews.entries) :
    ∃ earlier c r later, traffic = earlier ++ (c, r) :: later ∧ (fresh.after earlier).Makes c r e := by
  induction traffic using List.reverseRecOn with
  | nil => simp [after, fresh, Cache.empty] at member
  | append_singleton earlier last ih =>
      obtain ⟨c, r⟩ := last
      simp only [Traffic.times_append, Traffic.times_cons, List.mem_append, or_imp, forall_and,
        List.forall_mem_cons] at readings
      obtain ⟨before, hn, hs, -⟩ := readings
      rw [after_append_single] at member
      rcases mem_entries_of_respond (sound_after before) hn hs member with old | made
      · obtain ⟨earlier', c', r', later', rfl, made⟩ := ih before old
        exact ⟨earlier', c', r', later' ++ [(c, r)], by simp, made⟩
      · exact ⟨earlier, c, r, [], rfl, made⟩

/-! ### The answer of a fresh service -/

theorem previewOf_alone (may : c.panel.MayFail) (made : previewOf c content sensitivity = .ok p)
    {alone : Conditions} (working : alone.panel = .shipped) {n : ℤ}
    (elapsed : alone.elapsed.truncate = .ok n) :
    previewOf alone content sensitivity = .ok { p with analysisMillis := max 0 n } := by
  obtain ⟨results, found, built⟩ := bind_eq_ok_iff.1 made
  refine bind_eq_ok_iff.2 ⟨results, working ▸ may.analyzeAll_eq found, ?_⟩
  exact lift_eq_ok_iff.2 (Preview.build_eq_of_truncate (lift_eq_ok_iff.1 built) elapsed)

/-- A fresh service makes its first preview anew. -/
theorem responseAfter_nil (c : Conditions) (asks : r.IsPreview) (wellFormed : r.IsWellFormed)
    (made : previewOf c r.content r.sensitivity = .ok p) :
    responseAfter [] c r = .ofAnswer (.ok (p.toAnswer false)) := by
  change (fresh.respond c r).1 = _
  rw [respond_preview fresh c asks wellFormed]
  have missed (key : String) : fresh.previews.get c.now key =
      (.ok none, { fresh.previews with misses := 1 }) := rfl
  have puts (key : String) : ∃ previews,
      ({ fresh.previews with misses := 1 } : Cache String Preview).put c.stored key p = .ok previews :=
    ⟨_, rfl⟩
  obtain ⟨previews, puts⟩ := puts (fingerprint r.content r.sensitivity.label)
  simp only [preview, missed, made, puts]

/-! ### Services that answer alike -/

/-- Services whose caches are alike answer a preview alike, and their caches stay alike. -/
theorem respond_of_alike (h : Cache.Alike c.now s.previews s'.previews) (hn : c.now.IsReading)
    (hs : c.stored.IsReading) (le : c.now ≤ c.stored) (r : Request) :
    (r.IsPreview → (s.respond c r).1 = (s'.respond c r).1) ∧
      Cache.Alike c.stored (s.respond c r).2.previews (s'.respond c r).2.previews := by
  have later := h.later hn hs le
  by_cases asks : r.IsPreview
  · by_cases wellFormed : r.IsWellFormed
    · have same := h.get_eq hn r.key
      have asked := (h.get hn r.key).later hn hs le
      rcases respond_cases h.sound hn hs asks wellFormed with ⟨e, -, -, found, eq⟩ | ⟨missed, fresh⟩
      · rcases respond_cases h.sound' hn hs asks wellFormed with
          ⟨e', -, -, found', eq'⟩ | ⟨missed', -⟩
        · have payload : e.payload = e'.payload := by simpa [found, found'] using same
          rw [eq, eq', payload]
          exact ⟨fun _ => rfl, asked⟩
        · simp [found, missed'] at same
      · rcases respond_cases h.sound' hn hs asks wellFormed with
          ⟨e', -, -, found', -⟩ | ⟨missed', fresh'⟩
        · simp [missed, found'] at same
        · rcases fresh with ⟨fault, refused, eq⟩ | ⟨p, previews, made, puts, eq⟩ <;>
            rcases fresh' with ⟨fault', refused', eq'⟩ | ⟨p', previews', made', puts', eq'⟩
          case inl.inl =>
            obtain rfl := Except.error.inj (refused.symm.trans refused')
            rw [eq, eq']
            exact ⟨fun _ => rfl, asked⟩
          case inr.inr =>
            obtain rfl := Except.ok.inj (made.symm.trans made')
            obtain ⟨d, d', hd, hd', alike⟩ := asked.put hs
              (Cache.find?_of_missed h.sound hn missed) (Cache.find?_of_missed h.sound' hn missed') p
            obtain rfl := Except.ok.inj (puts.symm.trans hd)
            obtain rfl := Except.ok.inj (puts'.symm.trans hd')
            rw [eq, eq']
            exact ⟨fun _ => rfl, alike⟩
          case inl.inr => simp [refused] at made'
          case inr.inl => simp [made] at refused'
    · obtain ⟨places, refused⟩ := respond_malformed c asks wellFormed
      rw [refused s, refused s']
      exact ⟨fun _ => rfl, later⟩
  · rw [respond_of_other s c asks, respond_of_other s' c asks]
    exact ⟨fun yes => absurd yes asks, later⟩

/-- What was not answered with a preview leaves a cache that is alike. -/
theorem alike_unanswered (sound : s.previews.Sound) (hn : c.now.IsReading) (hs : c.stored.IsReading)
    (unanswered : ¬r.IsPreview ∨ (s.respond c r).1.status ≠ 200) :
    Cache.Alike c.now s.previews (s.respond c r).2.previews := by
  by_cases asks : r.IsPreview
  · by_cases wellFormed : r.IsWellFormed
    · have failed := unanswered.resolve_left (not_not_intro asks)
      rcases respond_cases sound hn hs asks wellFormed with
        ⟨e, -, -, -, h⟩ | ⟨-, ⟨fault, -, h⟩ | ⟨p, previews, -, -, h⟩⟩ <;> rw [h] at failed ⊢
      · exact absurd rfl failed
      · exact Cache.alike_get sound hn r.key
      · exact absurd rfl failed
    · obtain ⟨places, refused⟩ := respond_malformed c asks wellFormed
      rw [refused s]
      exact .refl sound c.now
  · rw [respond_of_other s c asks]
    exact .refl sound c.now

/-- From services with caches that are alike on, all previews are answered alike. -/
theorem response_eq_of_alike {t : Number} {between : Traffic}
    (h : Cache.Alike t s.previews s'.previews)
    (ticking : Ticking (t :: Traffic.times (between ++ [(c, r)]))) (asks : r.IsPreview) :
    ((s.after between).respond c r).1 = ((s'.after between).respond c r).1 := by
  induction between generalizing s s' t with
  | nil =>
      have ht := ticking.readings t (by simp)
      have hn := ticking.readings c.now (by simp [Traffic.times])
      have hs := ticking.readings c.stored (by simp [Traffic.times])
      have forward := ticking.forward
      simp only [Traffic.times, List.nil_append, List.flatMap_singleton, List.pairwise_cons,
        List.forall_mem_cons] at forward
      exact (respond_of_alike (h.later ht hn forward.1.1) hn hs forward.2.1.1 r).1 asks
  | cons first between ih =>
      obtain ⟨c', r'⟩ := first
      have ht := ticking.readings t (by simp)
      have hn := ticking.readings c'.now (by simp [Traffic.times])
      have hs := ticking.readings c'.stored (by simp [Traffic.times])
      have forward := ticking.forward
      simp only [Traffic.times, List.cons_append, List.flatMap_cons, List.nil_append,
        List.pairwise_cons, List.forall_mem_cons] at forward
      have alike := (respond_of_alike (h.later ht hn forward.1.1) hn hs forward.2.1.1 r').2
      rw [after_cons, after_cons]
      exact ih alike (ticking.sublist (by simp [Traffic.times]))

end Service

/-! ## Transparency -/

open Service in
/-- What a service owes to those who ask it for previews, although it keeps a cache. -/
structure Transparent (traffic : Traffic) : Prop where
  /-- A preview that is answered has the body that a fresh service with working detectors gives. -/
  same_body : ∀ earlier c r later, traffic = earlier ++ (c, r) :: later → r.IsPreview →
    (responseAfter earlier c r).status = 200 →
      ∀ alone : Conditions, alone.panel = .shipped → (∃ n, alone.elapsed.truncate = .ok n) →
        (responseAfter [] alone r).status = 200 ∧
          (responseAfter [] alone r).body.omitting ["cached", "analysis_time_ms"] =
            (responseAfter earlier c r).body.omitting ["cached", "analysis_time_ms"]
  /-- What is marked as cached was made for an earlier preview of the same draft. -/
  cached_only : ∀ earlier c r later, traffic = earlier ++ (c, r) :: later → r.IsPreview →
    (responseAfter earlier c r).status = 200 →
      (responseAfter earlier c r).body.field "cached" = .bool true →
        ∃ before c' r' between, earlier = before ++ (c', r') :: between ∧ r'.IsPreview ∧
          r'.content = r.content ∧ r'.sensitivity = r.sensitivity ∧
          (responseAfter before c' r').status = 200 ∧
          (responseAfter before c' r').body.field "cached" = .bool false
  /-- Other requests, and previews that are refused, change no later preview. -/
  unaffected : ∀ earlier c r between c' r' later,
    traffic = earlier ++ (c, r) :: (between ++ (c', r') :: later) →
      ¬r.IsPreview ∨ (responseAfter earlier c r).status = 422 ∨
        (responseAfter earlier c r).status = 503 → r'.IsPreview →
      responseAfter (earlier ++ (c, r) :: between) c' r' = responseAfter (earlier ++ between) c' r'

namespace Service

variable {c : Conditions} {r : Request} {traffic earlier later : Traffic}

/-- An answered preview, the conditions under which it was made, and where that was if it is marked as
cached. -/
theorem exists_made (ticking : Ticking traffic.times)
    (injective : Set.InjOn Digest.sha256 traffic.keyTexts)
    (split : traffic = earlier ++ (c, r) :: later) (asks : r.IsPreview)
    (answered : (responseAfter earlier c r).status = 200) :
    r.IsWellFormed ∧ ∃ c' r' p cached, (c', r') ∈ traffic ∧
      previewOf c' r.content r.sensitivity = .ok p ∧
      responseAfter earlier c r = .ofAnswer (.ok (p.toAnswer cached)) ∧
      (cached = true → ∃ before c' r' between, earlier = before ++ (c', r') :: between ∧
        r'.IsPreview ∧ r'.content = r.content ∧ r'.sensitivity = r.sensitivity ∧
        (responseAfter before c' r').status = 200 ∧
        (responseAfter before c' r').body.field "cached" = .bool false) := by
  have wellFormed : r.IsWellFormed := isWellFormed_of_status asks answered
  refine ⟨wellFormed, ?_⟩
  have times : traffic.times = earlier.times ++ (c.now :: c.stored :: later.times) := by
    rw [split, Traffic.times_append, Traffic.times_cons]
  have before : ∀ t ∈ earlier.times, t.IsReading := (times ▸ ticking).of_append.readings
  have hn := ticking.readings c.now (by simp [times])
  have hs := ticking.readings c.stored (by simp [times])
  have member : (c, r) ∈ traffic := by simp [split]
  rcases respond_cases (sound_after before) hn hs asks wellFormed with
    ⟨e, stored, key, -, h⟩ | ⟨-, ⟨fault, -, h⟩ | ⟨p, previews, made, -, h⟩⟩
  · obtain ⟨first, c', r', between, rfl, asks', wellFormed', key', made, answer⟩ :=
      exists_origin before stored
    have member' : (c', r') ∈ traffic := by simp [split]
    -- under one key there is one draft, since the digested texts do not collide
    have same : r'.keyText = r.keyText :=
      injective ⟨c', r', member', asks', wellFormed', rfl⟩ ⟨c, r, member, asks, wellFormed, rfl⟩
        (by rw [← Request.key_eq, ← Request.key_eq, ← key', key])
    obtain ⟨content, sensitivity⟩ := Request.keyText_inj same
    refine ⟨c', r', e.payload, true, member', content ▸ sensitivity ▸ made, by rw [responseAfter, h],
      fun _ => ⟨first, c', r', between, rfl, asks', content, sensitivity, ?_, ?_⟩⟩
    · rw [responseAfter, answer]
      rfl
    · rw [responseAfter, answer]
      exact e.payload.field_cached false
  · rw [responseAfter, h, Response.status_ofAnswer_iff] at answered
    obtain ⟨v, impossible⟩ := answered
    cases impossible
  · exact ⟨c, r, p, false, member, made, by rw [responseAfter, h], by simp⟩

/-- **The cache of previews is transparent**, under a clock that does not go back, with detectors that
are the shipped ones or fail, as long as the digests of the texts that occur do not collide. -/
theorem transparent_of_fresh (ticking : Ticking traffic.times)
    (detectors : ∀ c r, (c, r) ∈ traffic → c.panel.MayFail)
    (injective : Set.InjOn Digest.sha256 traffic.keyTexts) : Transparent traffic := by
  constructor
  case same_body =>
    intro earlier c r later split asks answered alone working ⟨n, elapsed⟩
    obtain ⟨wellFormed, c', r', p, cached, member, made, answer, -⟩ :=
      exists_made ticking injective split asks answered
    have may : c'.panel.MayFail := detectors c' r' member
    rw [responseAfter_nil alone asks wellFormed (previewOf_alone may made working elapsed), answer]
    exact ⟨rfl, p.omitting_toAnswer _ _ _⟩
  case cached_only =>
    intro earlier c r later split asks answered marked
    obtain ⟨-, c', r', p, cached, -, -, answer, origin⟩ :=
      exists_made ticking injective split asks answered
    rw [answer] at marked
    have yes : (Value.bool cached) = .bool true := (p.field_cached cached).symm.trans marked
    exact origin (Value.bool.inj yes)
  case unaffected =>
    intro earlier c r between c' r' later split refused asks
    rw [split, Traffic.times_append, Traffic.times_cons, Traffic.times_append] at ticking
    have sound : (fresh.after earlier).previews.Sound := sound_after ticking.of_append.readings
    have unanswered : ¬r.IsPreview ∨ ((fresh.after earlier).respond c r).1.status ≠ 200 := by
      refine refused.imp_right ?_
      rintro (status | status) <;> rw [responseAfter] at status <;> omega
    have alike := alike_unanswered sound (ticking.readings c.now (by simp))
      (ticking.readings c.stored (by simp)) unanswered
    have rest : Ticking (c.now :: Traffic.times (between ++ [(c', r')])) := by
      refine ticking.sublist (.trans (.cons_cons _ (.cons _ ?_)) (List.sublist_append_right _ _))
      rw [Traffic.times_append]
      exact .append (.refl _) (.cons_cons _ (.cons_cons _ (List.nil_sublist _)))
    have same := response_eq_of_alike alike.symm rest asks
    unfold responseAfter
    rw [after_append, after_append, after_cons]
    exact same

/-- What a request meets at a second, with given detectors. -/
def atSecond (n : ℕ) (panel : Panel) : Conditions where
  panel := panel
  now := .real (.finite n)
  elapsed := .whole 1

/-- The shipped panel with a detector of fallacies that fails. -/
def withoutFallacies : Panel := { Panel.shipped with fallacy := ⟨"fallacy", fun _ => .error "out"⟩ }

def plainDraft (sensitivity : String) : Request where
  method := "POST"
  target := "/feedback/preview"
  body := some (.record [("content", .text "plain words of a draft"), ("sensitivity", .text sensitivity)])

/-- A draft whose preview fails, is made, and is asked for again after another one. -/
def plainTraffic : Traffic :=
  [(atSecond 0 withoutFallacies, plainDraft "LOW"), (atSecond 1 .shipped, plainDraft "LOW"),
    (atSecond 2 .shipped, plainDraft "HIGH"), (atSecond 3 .shipped, ⟨"GET", "/health", none⟩),
    (atSecond 4 withoutFallacies, plainDraft "LOW")]

theorem plainTraffic_transparent :
    Ticking plainTraffic.times ∧ (∀ c r, (c, r) ∈ plainTraffic → c.panel.MayFail) ∧
      Set.InjOn Digest.sha256 plainTraffic.keyTexts ∧ Transparent plainTraffic ∧
      (responseAfter [] (atSecond 0 withoutFallacies) (plainDraft "LOW")).status = 503 ∧
      (responseAfter (plainTraffic.take 1) (atSecond 1 .shipped) (plainDraft "LOW")).status = 200 := by
  have ticking : Ticking plainTraffic.times := by
    refine ⟨?_, by decide +kernel⟩
    simp only [plainTraffic, Traffic.times, atSecond, List.flatMap_cons, List.flatMap_nil,
      List.cons_append, List.nil_append, List.forall_mem_cons]
    exact ⟨⟨_, rfl, rfl⟩, ⟨_, rfl, rfl⟩, ⟨_, rfl, rfl⟩, ⟨_, rfl, rfl⟩, ⟨_, rfl, rfl⟩, ⟨_, rfl, rfl⟩,
      ⟨_, rfl, rfl⟩, ⟨_, rfl, rfl⟩, ⟨_, rfl, rfl⟩, ⟨_, rfl, rfl⟩, by simp⟩
  have detectors : ∀ c r, (c, r) ∈ plainTraffic → c.panel.MayFail := by
    have shipped : Panel.shipped.MayFail := ⟨fun _ => .inl rfl, fun _ => .inl rfl, fun _ => .inl rfl, rfl⟩
    have failing : withoutFallacies.MayFail :=
      ⟨fun _ => .inl rfl, fun _ => .inr ⟨"out", rfl⟩, fun _ => .inl rfl, rfl⟩
    intro c r member
    simp only [plainTraffic, List.mem_cons, Prod.mk.injEq, List.not_mem_nil, or_false] at member
    rcases member with ⟨rfl, -⟩ | ⟨rfl, -⟩ | ⟨rfl, -⟩ | ⟨rfl, -⟩ | ⟨rfl, -⟩ <;> assumption
  have injective : Set.InjOn Digest.sha256 plainTraffic.keyTexts := by
    have texts : plainTraffic.keyTexts ⊆ {(plainDraft "LOW").keyText, (plainDraft "HIGH").keyText} := by
      rintro text ⟨c, r, member, asks, -, rfl⟩
      simp only [plainTraffic, List.mem_cons, Prod.mk.injEq, List.not_mem_nil, or_false] at member
      rcases member with ⟨-, rfl⟩ | ⟨-, rfl⟩ | ⟨-, rfl⟩ | ⟨-, rfl⟩ | ⟨-, rfl⟩
      case inr.inr.inr.inl => exact absurd asks.1 (by decide)
      all_goals simp
    have apart : Digest.sha256 (plainDraft "LOW").keyText ≠ Digest.sha256 (plainDraft "HIGH").keyText := by
      decide +kernel
    exact (Set.injOn_pair.2 fun same => absurd same apart).mono texts
  exact ⟨ticking, detectors, injective, transparent_of_fresh ticking detectors injective,
    by decide +kernel, by decide +kernel⟩

end Service

end Deliberation
