/-
What a caller is told about a reply. The status alone decides between an error of the service and
everything else: no body, however damaged, turns the one into the other.
-/

import SignedRest.Client
import SignedRest.Proofs.Reply.Chain
import SignedRest.Proofs.Signing.Signature
import SignedRest.Ses

namespace SignedRest.Client

variable {Value : Type}

/-- A body that ends as it should. -/
def EndsWell (reply : Reply) : Prop :=
  ∀ body, reply.body? = some body → body.breaksOff = false

/-- Either there is no text to read, or it is a value of the type asked for. -/
def Readable (decode : Json → Option Value) (reply : Reply) : Prop :=
  ∀ body, reply.body? = some body → body.content.all Handler.isBlankByte = true ∨
    ∃ payload, Json.ofBytes? body.content = some payload ∧ (decode payload).isSome

/-- All that an invocation can come to, once a reply is there. -/
structure Classified (decode : Json → Option Value) (reply : Reply)
    (result : Result (Value × Metadata)) : Prop where
  service_iff : (∃ error, result = .error (.service error)) ↔
    ¬ (200 ≤ reply.status ∧ reply.status ≤ 299)
  service_status : ∀ error, result = .error (.service error) →
    error.status = reply.status ∧ (error.isRetryable = true ↔ 500 ≤ reply.status)
  stream_iff : (∃ text, result = .error (.stream text)) ↔
    (200 ≤ reply.status ∧ reply.status ≤ 299) ∧ ¬ EndsWell reply
  json_iff : result = .error .json ↔
    (200 ≤ reply.status ∧ reply.status ≤ 299) ∧ EndsWell reply ∧ ¬ Readable decode reply
  ok_iff : (∃ outcome, result = .ok outcome) ↔
    (200 ≤ reply.status ∧ reply.status ≤ 299) ∧ EndsWell reply ∧ Readable decode reply
  no_other : ∀ cause, result = .error cause →
    (∃ error, cause = .service error) ∨ (∃ text, cause = .stream text) ∨ cause = .json

/-! ### Payloads and their values -/

theorem endsWell_iff {reply : Reply} {body : Body} (attached : reply.body? = some body) :
    EndsWell reply ↔ body.breaksOff = false := by
  constructor
  · intro ends
    exact ends body attached
  · intro ends other same
    rw [attached] at same
    exact Option.some.inj same ▸ ends

theorem readable_iff (decode : Json → Option Value) {reply : Reply} {body : Body}
    (attached : reply.body? = some body) :
    Readable decode reply ↔ body.content.all Handler.isBlankByte = true ∨
      ∃ payload, Json.ofBytes? body.content = some payload ∧ (decode payload).isSome := by
  constructor
  · intro readable
    exact readable body attached
  · intro readable other same
    rw [attached] at same
    exact Option.some.inj same ▸ readable

/-- The value that a reply carries where its status is one of success. -/
def valueOf (decode : Json → Option Value) (default : Value) (reply : Reply) : Result Value :=
  (Handler.payload reply).bind (decodePayload decode default)

theorem valueOf_cases (decode : Json → Option Value) (default : Value) (reply : Reply) :
    (¬ EndsWell reply ∧ ∃ text, valueOf decode default reply = .error (.stream text)) ∨
      (EndsWell reply ∧ ¬ Readable decode reply ∧ valueOf decode default reply = .error .json) ∨
      (EndsWell reply ∧ Readable decode reply ∧
        ∃ value, valueOf decode default reply = .ok value) := by
  unfold valueOf Handler.payload
  cases attached : reply.body? with
  | none =>
      have absent : ∀ body, reply.body? ≠ some body := by
        intro body present
        rw [attached] at present
        cases present
      exact Or.inr (Or.inr ⟨fun body present => absurd present (absent body),
        fun body present => absurd present (absent body), default, rfl⟩)
  | some body =>
      rw [endsWell_iff attached, readable_iff decode attached]
      dsimp only
      by_cases broken : body.breaksOff = true
      · rw [if_pos broken]
        exact Or.inl ⟨Bool.not_eq_false _ ▸ broken, _, rfl⟩
      · have whole := Bool.eq_false_iff.mpr broken
        rw [if_neg broken]
        by_cases blank : body.content.all Handler.isBlankByte = true
        · rw [if_pos blank]
          exact Or.inr (Or.inr ⟨whole, Or.inl blank, default, rfl⟩)
        · rw [if_neg blank]
          cases read : Json.ofBytes? body.content with
          | none =>
              refine Or.inr (Or.inl ⟨whole, ?_, rfl⟩)
              rintro (same | ⟨payload, impossible, _⟩)
              · exact blank same
              · cases impossible
          | some payload =>
              cases decoded : decode payload with
              | none =>
                  refine Or.inr (Or.inl ⟨whole, ?_, ?_⟩)
                  · rintro (same | ⟨other, same, isValue⟩)
                    · exact blank same
                    · rw [← Option.some.inj same, decoded] at isValue
                      cases isValue
                  · simp only [Except.bind, decodePayload, decoded]
              | some value =>
                  refine Or.inr (Or.inr ⟨whole, Or.inr ⟨payload, rfl, ?_⟩, value, ?_⟩)
                  · rw [decoded]
                    rfl
                  · simp only [Except.bind, decodePayload, decoded]

/-! ### The two kinds of status -/

theorem classified_of_failure (decode : Json → Option Value) {reply : Reply} {error : ServiceError}
    (failure : ¬ (200 ≤ reply.status ∧ reply.status ≤ 299)) (status : error.status = reply.status) :
    Classified decode reply (.error (.service error)) where
  service_iff := iff_of_true ⟨error, rfl⟩ failure
  service_status := by
    intro other same
    cases same
    refine ⟨status, ?_⟩
    rw [ServiceError.isRetryable, ServiceError.isServiceFault, decide_eq_true_eq, status]
  stream_iff := iff_of_false (fun ⟨_, impossible⟩ => nomatch impossible)
    (fun both => failure both.1)
  json_iff := iff_of_false (fun impossible => nomatch impossible) (fun all => failure all.1)
  ok_iff := iff_of_false (fun ⟨_, impossible⟩ => nomatch impossible) (fun all => failure all.1)
  no_other := by
    intro cause same
    cases same
    exact Or.inl ⟨error, rfl⟩

theorem classified_of_success (decode : Json → Option Value) (default : Value) {reply : Reply}
    (metadata : Metadata) (success : 200 ≤ reply.status ∧ reply.status ≤ 299) :
    Classified decode reply
      ((valueOf decode default reply).map (fun value => (value, metadata))) := by
  have service : ¬ ¬ (200 ≤ reply.status ∧ reply.status ≤ 299) := not_not_intro success
  rcases valueOf_cases decode default reply with
    ⟨broken, text, same⟩ | ⟨whole, unreadable, same⟩ | ⟨whole, readable, value, same⟩
  · rw [same]
    exact
      { service_iff := iff_of_false (fun ⟨_, impossible⟩ => nomatch impossible) service
        service_status := fun _ impossible => nomatch impossible
        stream_iff := iff_of_true ⟨text, rfl⟩ ⟨success, broken⟩
        json_iff := iff_of_false (fun impossible => nomatch impossible)
          (fun all => broken all.2.1)
        ok_iff := iff_of_false (fun ⟨_, impossible⟩ => nomatch impossible)
          (fun all => broken all.2.1)
        no_other := fun _ equal => Or.inr (Or.inl ⟨text, (Except.error.inj equal).symm⟩) }
  · rw [same]
    exact
      { service_iff := iff_of_false (fun ⟨_, impossible⟩ => nomatch impossible) service
        service_status := fun _ impossible => nomatch impossible
        stream_iff := iff_of_false (fun ⟨_, impossible⟩ => nomatch impossible)
          (fun both => both.2 whole)
        json_iff := iff_of_true rfl ⟨success, whole, unreadable⟩
        ok_iff := iff_of_false (fun ⟨_, impossible⟩ => nomatch impossible)
          (fun all => unreadable all.2.2)
        no_other := fun _ equal => Or.inr (Or.inr (Except.error.inj equal).symm) }
  · rw [same]
    exact
      { service_iff := iff_of_false (fun ⟨_, impossible⟩ => nomatch impossible) service
        service_status := fun _ impossible => nomatch impossible
        stream_iff := iff_of_false (fun ⟨_, impossible⟩ => nomatch impossible)
          (fun both => both.2 whole)
        json_iff := iff_of_false (fun impossible => nomatch impossible)
          (fun all => all.2.2 readable)
        ok_iff := iff_of_true ⟨_, rfl⟩ ⟨success, whole, readable⟩
        no_other := fun _ impossible => nomatch impossible }

/-! ### Invocations -/

theorem prepare_uri (client : Client) (now : Timestamp) (request : Request) :
    (client.prepare now request).uri = request.uri := by
  unfold prepare
  dsimp only
  split
  · split
    · rfl
    · rfl
  · split
    · rfl
    · rfl

theorem signer_standard_of_host (request : Request) (credentials : Credentials)
    (options : SignOptions) (now : Timestamp) {host : String}
    (hosted : Signing.hostHeader request.uri = .ok host) :
    Signer.standard request credentials options now =
      .ok (Signing.signedFor request credentials options now host) := by
  rw [Signer.standard, Signing.sign_of_host request credentials options now hosted]
  rfl

/-- With the signer of the library, a request to an address with a host goes out. -/
theorem outgoing_of_host {client : Client} (standard : client.signer = Signer.standard)
    (clock : Clock) {request : Request} {host : String}
    (hosted : Signing.hostHeader request.uri = .ok host) :
    client.outgoing clock request =
      .ok (Signing.signedFor (client.prepare clock.dating request) client.credentials
        client.options clock.signing host) := by
  rw [← prepare_uri client clock.dating] at hosted
  rw [outgoing, standard]
  exact signer_standard_of_host _ _ _ _ hosted

theorem invoke_classified (client : Client) (decode : Json → Option Value) (default : Value)
    (transport : Transport) (clock : Clock) (request : Request) {signed : Request} {reply : Reply}
    (standard : client.handlers = Handler.standard)
    (signs : client.outgoing clock request = .ok signed)
    (delivered : transport signed = .ok reply) :
    Classified decode reply (client.invoke decode default transport clock request).result := by
  simp only [invoke, signs, delivered, standard]
  cases success : reply.isSuccess with
  | false =>
      obtain ⟨error, processed, status⟩ := Reply.process_of_failure success
      have failure := mt reply.isSuccess_iff.mpr (Bool.eq_false_iff.mp success)
      rw [processed]
      exact classified_of_failure decode failure status
  | true =>
      have classified := classified_of_success decode default (Metadata.ofReply reply)
        (reply.isSuccess_iff.mp success)
      rw [Reply.process_of_success success]
      unfold valueOf at classified
      cases payload : Handler.payload reply with
      | error cause =>
          rw [payload] at classified
          exact classified
      | ok found =>
          rw [payload] at classified
          exact classified

/-- An error body that breaks off after its first byte leaves the status as the service told it. -/
theorem invoke_classified_unavailable :
    let endpoint : Url :=
      ⟨"http", some ⟨"", none, .name "h", none⟩, .segments [""], none, none⟩
    let client : Client :=
      { service := ⟨⟨"ses", by decide⟩, true⟩, endpoint, config := {}
        credentials := ⟨"ak", "sk", none, by decide, by decide, fun _ absent => nomatch absent⟩
        signer := Signer.standard, options := {}, handlers := Handler.standard }
    let request := requestBelow endpoint "GET" ["verifiedDomain", "d"]
    let reply := ((Reply.make 503).withHeader "content-length" "9").withBody
      ⟨[123], [1], true, by decide⟩
    let clock : Clock := ⟨Timestamp.epoch, Timestamp.epoch⟩
    let result := (client.invoke Ses.decodeReply {} (fun _ => .ok reply) clock request).result
    (∃ signed, client.outgoing clock request = .ok signed) ∧
      ∃ error, result = .error (.service error) ∧ error.status = 503 ∧
        error.isRetryable = true := by
  intro endpoint client request reply clock result
  have hosted : Signing.hostHeader request.uri = .ok "h" := rfl
  have signer : client.signer = Signer.standard := rfl
  have signs := outgoing_of_host signer clock hosted
  have classified := invoke_classified client Ses.decodeReply {} (fun _ => .ok reply) clock request
    rfl signs rfl
  obtain ⟨error, told⟩ := classified.service_iff.mpr (by decide)
  obtain ⟨status, retryable⟩ := classified.service_status error told
  exact ⟨⟨_, signs⟩, error, told, status, retryable.mpr (by decide)⟩

end SignedRest.Client
