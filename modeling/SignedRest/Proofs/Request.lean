/-
Requests as they can be built. Header names stand in lower case, and the address has neither a query
nor a fragment of its own.
-/

import SignedRest.Proofs.Table
import SignedRest.Proofs.Text.LetterCase
import SignedRest.Proofs.Url.Reader
import SignedRest.Request

namespace SignedRest.Request

/-- The requests that building can give, in whatever order things are added. -/
inductive Built : Request → Prop where
  | make (method : String) {uri : Url} (formed : uri.Formed) : Built (make method uri)
  | setHeader {request : Request} (built : Built request) (name value : String) :
      Built (request.setHeader name value)
  | addParameter {request : Request} (built : Built request) (key value : String) :
      Built (request.addParameter key value)
  | setBody {request : Request} (built : Built request) (body : Bytes) :
      Built (request.setBody body)
  | setJson {request : Request} (built : Built request) (value : Json) :
      Built (request.setJson value)

structure Sound (request : Request) : Prop where
  framed : request.uri.IsFramed
  queryless : request.uri.query = none
  whole : request.uri.fragment = none
  lowered : ∀ name ∈ request.headers.keys, name.toLower = name

theorem sound_make (method : String) {uri : Url} (framed : uri.IsFramed) :
    (make method uri).Sound where
  framed :=
    { scheme_clear := framed.scheme_clear
      authority_clear := framed.authority_clear
      path_queryless := by
        intro placed
        obtain ⟨items, same, clear⟩ := framed.path_queryless placed
        refine ⟨items, ?_, clear⟩
        rw [make, same]
        rfl }
  queryless := rfl
  whole := rfl
  lowered := fun _ member => absurd member List.not_mem_nil

theorem Sound.setHeader {request : Request} (sound : request.Sound) (name value : String) :
    (request.setHeader name value).Sound where
  framed := sound.framed
  queryless := sound.queryless
  whole := sound.whole
  lowered := by
    intro other member
    by_cases same : other = name.toLower
    · rw [same]
      exact Text.toLower_toLower name
    · apply sound.lowered other
      rw [Table.mem_keys_iff] at member ⊢
      rwa [Request.setHeader, Table.get?_insert_of_ne _ _ same] at member

theorem Sound.of_same {request other : Request} (sound : request.Sound)
    (sameUri : other.uri = request.uri) (sameHeaders : other.headers = request.headers) :
    other.Sound where
  framed := sameUri ▸ sound.framed
  queryless := sameUri ▸ sound.queryless
  whole := sameUri ▸ sound.whole
  lowered := sameHeaders ▸ sound.lowered

theorem Sound.setBody {request : Request} (sound : request.Sound) (body : Bytes) :
    (request.setBody body).Sound :=
  (sound.setHeader Header.contentLength (toString body.length)).of_same rfl rfl

theorem Built.sound {request : Request} (built : Built request) : request.Sound := by
  induction built with
  | make method formed => exact sound_make method formed.framed
  | setHeader _built name value ih => exact ih.setHeader name value
  | addParameter _built key value ih => exact ih.of_same rfl rfl
  | setBody _built body ih => exact ih.setBody body
  | setJson _built value ih => exact ih.setBody _

end SignedRest.Request
