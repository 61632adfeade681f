/-
# Proofs.Service.Previews -- what one request does to the service

Only previews touch the service (`respond_of_other`), and of these only such as have a body of the right
form (`respond_preview`, `respond_malformed`), which holds no numbers and is taken as it is
(`IsWellFormed.exists_form`).  Such a preview goes one of three ways
(`respond_cases`): it is found in the cache, or it is made anew and enters the cache, or the analysis
fails and nothing enters.  The status of the response tells the last from the others
(`status_ofAnswer_iff`).
-/
import Deliberation.Proofs.Cache.Live
import Deliberation.Proofs.Service.Bodies

set_option autoImplicit false

namespace Deliberation

/-! ## Requests for previews -/

namespace Request

variable (r : Request)

def IsPreview : Prop := r.method = "POST" ∧ Route.ofTarget? r.target = some .preview

/-- The body has the form that a preview expects, however numbers are read: there are none in it. -/
def IsWellFormed : Prop := ∃ readers form, Route.preview.read readers r.body = .ok form

/-- The draft to be previewed. -/
def content : String := (r.body.getD .null).textField "content"

/-- The sensitivity asked for. -/
def sensitivity : Sensitivity := Service.sensitivityOf (r.body.getD .null)

/-- The text that is digested to give the key of the preview. -/
def keyText : String := r.content ++ "||" ++ r.sensitivity.label

/-- The key of the preview. -/
def key : String := fingerprint r.content r.sensitivity.label

theorem key_eq : r.key = Digest.sha256 r.keyText := rfl

end Request

/-- A body for a preview is taken as it is. -/
theorem Request.IsWellFormed.exists_form {r : Request} (wellFormed : r.IsWellFormed)
    (readers : Readers) : ∃ form, Route.preview.read readers r.body = .ok form ∧
      form.textField "content" = r.content ∧ Service.sensitivityOf form = r.sensitivity := by
  obtain ⟨readers', form, answer⟩ := wellFormed
  refine ⟨form, Route.read_preview_eq readers readers' r.body ▸ answer, ?_⟩
  unfold Request.content Request.sensitivity
  cases given : r.body with
  | none => simp [Route.read, Route.bodyShape?, given] at answer
  | some v => exact (Route.reads_of_read rfl (given ▸ answer)).previewBody

/-- The status tells whether there was an answer. -/
theorem Response.status_ofAnswer_iff {answer : Except Fault Value} :
    (ofAnswer answer).status = 200 ↔ ∃ v, answer = .ok v := by
  cases answer with
  | ok v => simp [ofAnswer]
  | error fault => cases fault <;> simp [ofAnswer, ofDetail]

namespace Service

variable {s : Service} {c : Conditions} {r : Request}

/-- A request for anything but a preview leaves the service as it is. -/
theorem respond_of_other (s : Service) (c : Conditions) (other : ¬r.IsPreview) :
    (s.respond c r).2 = s := by
  unfold respond
  cases target : Route.ofTarget? r.target with
  | none => rfl
  | some route =>
      by_cases method : r.method = route.method
      · simp only [method, ne_eq, not_true_eq_false, if_false]
        cases taken : route.read c.readers r.body with
        | error places => rfl
        | ok form =>
            cases route with
            | preview => exact absurd ⟨method, target⟩ other
            | analyze | analyzeAll | cluster | synthesize | divergence | patterns | health => rfl
      · simp only [ne_eq, method, not_false_eq_true, if_true]

/-- A preview whose body has not the right form is refused by all services alike. -/
theorem respond_malformed (c : Conditions) (asks : r.IsPreview) (malformed : ¬r.IsWellFormed) :
    ∃ places, ∀ s : Service, s.respond c r = (.invalid places, s) := by
  obtain ⟨method, target⟩ := asks
  cases taken : Route.preview.read c.readers r.body with
  | ok form => exact absurd ⟨c.readers, form, taken⟩ malformed
  | error places =>
      refine ⟨places, fun s => ?_⟩
      unfold respond
      rw [target]
      simp only [method, show Route.method .preview = "POST" from rfl, ne_eq, not_true_eq_false,
        if_false, taken]

theorem respond_preview (s : Service) (c : Conditions) (asks : r.IsPreview)
    (wellFormed : r.IsWellFormed) :
    s.respond c r = (.ofAnswer (s.preview c r.content r.sensitivity).1,
      (s.preview c r.content r.sensitivity).2) := by
  obtain ⟨method, target⟩ := asks
  obtain ⟨form, taken, content, sensitivity⟩ := wellFormed.exists_form c.readers
  unfold respond
  rw [target]
  simp only [method, show Route.method .preview = "POST" from rfl, ne_eq, not_true_eq_false, if_false,
    taken, answer, content, sensitivity]

theorem isWellFormed_of_status (asks : r.IsPreview) (answered : (s.respond c r).1.status = 200) :
    r.IsWellFormed := by
  by_contra malformed
  obtain ⟨places, refused⟩ := respond_malformed c asks malformed
  rw [refused s] at answered
  exact absurd answered (by decide : 422 ≠ 200)

/-- The three ways in which a preview can go: found, refused by the analysis, or made anew. -/
theorem respond_cases (sound : s.previews.Sound) (hn : c.now.IsReading) (hs : c.stored.IsReading)
    (asks : r.IsPreview) (wellFormed : r.IsWellFormed) :
    (∃ e ∈ s.previews.entries, e.key = r.key ∧
      (s.previews.get c.now r.key).1 = .ok (some e.payload) ∧
      s.respond c r = (.ofAnswer (.ok (e.payload.toAnswer true)),
        ⟨(s.previews.get c.now r.key).2⟩)) ∨
    (s.previews.get c.now r.key).1 = .ok none ∧
      ((∃ fault, previewOf c r.content r.sensitivity = .error fault ∧
        s.respond c r = (.ofAnswer (.error fault), ⟨(s.previews.get c.now r.key).2⟩)) ∨
      ∃ p previews, previewOf c r.content r.sensitivity = .ok p ∧
        (s.previews.get c.now r.key).2.put c.stored r.key p = .ok previews ∧
        s.respond c r = (.ofAnswer (.ok (p.toAnswer false)), ⟨previews⟩)) := by
  rw [respond_preview s c asks wellFormed]
  have sound' : (s.previews.get c.now r.key).2.Sound := sound.step hn (.get r.key)
  cases found : s.previews.get c.now r.key with
  | mk answer previews =>
      rw [found] at sound'
      -- the key of the request is that of its draft and sensitivity
      have found' : s.previews.get c.now (fingerprint r.content r.sensitivity.label) =
          (answer, previews) := found
      rcases Cache.get_cases sound hn r.key with ⟨-, h⟩ | ⟨e, -, -, h⟩ | ⟨e, stored, -, h⟩
      case inr.inr =>
        obtain ⟨rfl, -⟩ := Prod.mk.inj (found.symm.trans h)
        obtain ⟨member, key⟩ := (Cache.find?_eq_some_iff sound.nodup).1 stored
        exact .inl ⟨e, member, key, rfl, by simp only [preview, found']⟩
      all_goals
        obtain ⟨rfl, -⟩ := Prod.mk.inj (found.symm.trans h)
        refine .inr ⟨rfl, ?_⟩
        cases made : previewOf c r.content r.sensitivity with
        | error fault => exact .inl ⟨fault, rfl, by simp only [preview, found', made]⟩
        | ok p =>
            obtain ⟨stored, puts, -⟩ := sound'.put hs r.key p
            have puts' : previews.put c.stored (fingerprint r.content r.sensitivity.label) p =
              .ok stored := puts
            exact .inr ⟨p, stored, rfl, puts, by simp only [preview, found', made, puts']⟩

end Service

end Deliberation
