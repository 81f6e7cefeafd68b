/-
What the standard handlers make of a reply. The first only notes what the headers tell, the second
ends the work on every reply that is no success, and the third takes the payload.
-/

import SignedRest.Proofs.Reply.Body
import SignedRest.Reply.Chain

namespace SignedRest

theorem Reply.isSuccess_iff (reply : Reply) :
    reply.isSuccess = true ↔ 200 ≤ reply.status ∧ reply.status ≤ 299 := by
  rw [Reply.isSuccess, beq_iff_eq]
  omega

namespace Handler

/-! ### Replies that are no success -/

theorem serviceError_status (reply : Reply) (findings : Findings)
    (contents : Option Body.Contents) :
    (serviceError reply findings contents).status = reply.status := by
  unfold serviceError
  dsimp only
  split
  · rfl
  · rfl

theorem runError_of_success {reply : Reply} (success : reply.isSuccess = true)
    (findings : Findings) : runError ⟨reply, findings⟩ = (⟨reply, findings⟩, .next) :=
  if_pos success

theorem runError_of_failure {reply : Reply} (failure : reply.isSuccess = false)
    (findings : Findings) :
    ∃ released error, runError ⟨reply, findings⟩ = (released, .fail (.service error)) ∧
      error.status = reply.status := by
  have refused : ¬ reply.isSuccess = true := Bool.eq_false_iff.mp failure
  exact ⟨_, _, if_neg refused, serviceError_status _ _ _⟩

/-! ### Payloads -/

/-- The payload of a reply: none if there is no body, or a blank one. -/
def payload (reply : Reply) : Result (Option Json) :=
  match reply.body? with
  | none => .ok none
  | some body =>
      if body.breaksOff then .error (.stream "body failed")
      else if body.content.all isBlankByte then .ok none
      else match Json.ofBytes? body.content with
        | some payload => .ok (some payload)
        | none => .error .json

/-- A reply whose body has been read to its end. -/
def consumed (reply : Reply) : Reply :=
  match reply.body? with
  | none => reply
  | some body => reply.release body.content.length

theorem runJson_eq (reply : Reply) (findings : Findings) :
    runJson ⟨reply, findings⟩ =
      match payload reply with
      | .ok none => (⟨consumed reply, findings⟩, .stop)
      | .ok (some found) => (⟨consumed reply, { findings with payload := some found }⟩, .stop)
      | .error cause => (⟨consumed reply, findings⟩, .fail cause) := by
  cases attached : reply.body? with
  | none => simp only [runJson, payload, consumed, attached]
  | some body =>
      simp only [runJson, payload, consumed, attached, Body.readAll_eq, Bool.not_not]
      by_cases broken : body.breaksOff = true
      · rw [if_pos broken, if_pos broken]
      · rw [if_neg broken, if_neg broken]
        by_cases blank : body.content.all isBlankByte = true
        · rw [if_pos blank, if_pos blank]
        · rw [if_neg blank, if_neg blank]
          cases Json.ofBytes? body.content with
          | none => rfl
          | some found => rfl

end Handler

/-! ### The chain -/

theorem Reply.process_of_failure {reply : Reply} (failure : reply.isSuccess = false) :
    ∃ error, (reply.process Handler.standard).2 = .error (.service error) ∧
      error.status = reply.status := by
  obtain ⟨released, error, run, status⟩ :=
    Handler.runError_of_failure failure { metadata := Metadata.ofReply reply }
  refine ⟨error, ?_, status⟩
  simp only [Reply.process, Handler.standard, Handler.runAll, Handler.run, run]

theorem Reply.process_of_success {reply : Reply} (success : reply.isSuccess = true) :
    (reply.process Handler.standard).2 =
      (Handler.payload reply).map
        (fun payload => { metadata := Metadata.ofReply reply, payload }) := by
  have passed := Handler.runError_of_success success { metadata := Metadata.ofReply reply }
  simp only [Reply.process, Handler.standard, Handler.runAll, Handler.run, passed,
    Handler.runJson_eq]
  cases Handler.payload reply with
  | error cause => rfl
  | ok found =>
      cases found with
      | none => rfl
      | some value => rfl

end SignedRest
