/-
What an invocation does to the world outside. A request is sent once or not at all, and what is sent
is the request that the caller built, with the headers of the client written into it.
-/

import SignedRest.Proofs.Client.Outcome

namespace SignedRest

/-! ### Transports with a state -/

/-- A transport whose answer may depend on everything that it was sent before. -/
abbrev Carrier (State : Type) := Request → StateM State (Result Reply)

/-- The same transport, with a record of the requests that it was sent. -/
def Carrier.recorded {State : Type} (carrier : Carrier State) : Carrier (State × List Request) :=
  fun signed state =>
    let (answer, after) := (carrier signed).run state.1
    (answer, after, state.2 ++ [signed])

theorem Carrier.recorded_run {State : Type} (carrier : Carrier State) (signed : Request)
    (state : State) (earlier : List Request) :
    (carrier.recorded signed).run (state, earlier) =
      (((carrier signed).run state).1, ((carrier signed).run state).2, earlier ++ [signed]) :=
  rfl

namespace Request

/-- A header that gives way to one of the caller. -/
def withDefault (request : Request) (name value : String) : Request :=
  if (request.header? name).isSome then request else request.setHeader name value

end Request

namespace Client

/-- An invocation over a transport with a state. -/
def invokeOver {Value State : Type} (client : Client) (decode : Json → Option Value)
    (default : Value) (carrier : Carrier State) (clock : Clock) (request : Request) :
    StateM State (Result (Value × Metadata)) := do
  match client.outgoing clock request with
  | .error cause => return .error cause
  | .ok signed =>
      match ← carrier signed with
      | .error cause => return .error cause
      | .ok reply =>
          return do
            let findings ← (reply.process client.handlers).2
            let value ← decodePayload decode default findings.payload
            return (value, findings.metadata)

/-- The headers that the client writes, whatever the caller wrote. -/
def ownNames (client : Client) : List String :=
  [Header.userAgent, Header.host, Header.signingDate, Header.authorization] ++
    (if client.credentials.sessionToken.isSome then [Header.securityToken] else [])

/-- The headers that the client writes where the caller wrote none. -/
def defaultNames : List String :=
  [Header.contentType, Header.date]

/-- A request that differs from the one of the caller in the headers of the client alone. -/
structure Frames (client : Client) (request sent : Request) : Prop where
  method : sent.method = request.method
  uri : sent.uri = request.uri
  parameters : sent.parameters = request.parameters
  body : sent.body = request.body
  kept : ∀ name value, name ∉ client.ownNames → request.headers.get? name = some value →
    sent.headers.get? name = some value
  added : ∀ name ∈ sent.headers.keys, name ∈ request.headers.keys ∨ name ∈ client.ownNames ∨
    (name ∈ defaultNames ∧ ∀ written, written.toLower = name → request.header? written = none)

/-- What comes of an invocation, as its signer and its transport answer. -/
structure Conducts {Value : Type} (client : Client) (request : Request) (signing : Result Request)
    (answer : Request → Result Reply) (sent : List Request)
    (result : Result (Value × Metadata)) : Prop where
  refused : ∀ cause, signing = .error cause → sent = [] ∧ result = .error cause
  delivered : ∀ signed, signing = .ok signed → sent = [signed]
  failed : ∀ signed cause, signing = .ok signed → answer signed = .error cause →
    result = .error cause
  framed : client.signer = Signer.standard → ∀ signed ∈ sent, Frames client request signed

section Steps

variable {client : Client} {request sent : Request}

/-! ### One header after the other -/

theorem Frames.refl (client : Client) (request : Request) : Frames client request request where
  method := rfl
  uri := rfl
  parameters := rfl
  body := rfl
  kept := fun _ _ _ found => found
  added := fun _ member => Or.inl member

theorem Frames.setHeader (frames : Frames client request sent) (name value : String)
    (own : name.toLower ∈ client.ownNames) : Frames client request (sent.setHeader name value) where
  method := frames.method
  uri := frames.uri
  parameters := frames.parameters
  body := frames.body
  kept := by
    intro other stored foreign found
    have apart : other ≠ name.toLower := fun same => foreign (same ▸ own)
    rw [Request.setHeader, Table.get?_insert_of_ne _ _ apart]
    exact frames.kept other stored foreign found
  added := by
    intro other member
    by_cases same : other = name.toLower
    · exact Or.inr (Or.inl (same ▸ own))
    · apply frames.added other
      rw [Table.mem_keys_iff] at member ⊢
      rwa [Request.setHeader, Table.get?_insert_of_ne _ _ same] at member

/-- The caller's header stays where there is one; otherwise the caller wrote none in any case. -/
theorem Frames.withDefault (frames : Frames client request sent) (name value : String)
    (filled : name.toLower ∈ defaultNames) :
    Frames client request (sent.withDefault name value) := by
  unfold Request.withDefault
  split
  · exact frames
  · rename_i absent
    refine
      { method := frames.method
        uri := frames.uri
        parameters := frames.parameters
        body := frames.body
        kept := ?_
        added := ?_ }
    · intro other stored foreign found
      have present := frames.kept other stored foreign found
      have apart : other ≠ name.toLower := by
        intro same
        rw [Request.header?, ← same, present] at absent
        exact absent rfl
      rw [Request.setHeader, Table.get?_insert_of_ne _ _ apart]
      exact present
    · intro other member
      by_cases same : other = name.toLower
      · by_cases written : other ∈ request.headers.keys
        · exact Or.inl written
        · refine Or.inr (Or.inr ⟨same ▸ filled, ?_⟩)
          intro spelling lowered
          rw [Table.mem_keys_iff, Bool.not_eq_true, Option.isSome_eq_false_iff,
            Option.isNone_iff_eq_none] at written
          rw [Request.header?, lowered, written]
      · apply frames.added other
        rw [Table.mem_keys_iff] at member ⊢
        rwa [Request.setHeader, Table.get?_insert_of_ne _ _ same] at member

end Steps

/-! ### Both stages -/

theorem mem_ownNames_of_always (client : Client) {name : String}
    (always : name ∈ [Header.userAgent, Header.host, Header.signingDate, Header.authorization]) :
    name ∈ client.ownNames :=
  List.mem_append_left _ always

theorem prepare_eq (client : Client) (now : Timestamp) (request : Request) :
    client.prepare now request =
      ((request.withDefault Header.contentType defaultContentType).withDefault Header.date
        now.messageText).setHeader Header.userAgent client.config.userAgent :=
  rfl

theorem prepare_frames (client : Client) (now : Timestamp) (request : Request) :
    Frames client request (client.prepare now request) := by
  have typed := (Frames.refl client request).withDefault Header.contentType defaultContentType
    (by decide +kernel)
  have dated := typed.withDefault Header.date now.messageText (by decide +kernel)
  rw [prepare_eq]
  exact dated.setHeader Header.userAgent client.config.userAgent
    (mem_ownNames_of_always client (by decide +kernel))

theorem signedFor_frames {client : Client} {request sent : Request}
    (frames : Frames client request sent) (now : Timestamp) (host : String) :
    Frames client request
      (Signing.signedFor sent client.credentials client.options now host) := by
  have hosted := frames.setHeader Header.host host
    (mem_ownNames_of_always client (by decide +kernel))
  unfold Signing.signedFor Signing.preparedFor Signing.prepare
  refine Frames.setHeader (Frames.setHeader ?_ _ _ ?_) _ _ ?_
  · cases held : client.credentials.sessionToken with
    | none => exact hosted
    | some token =>
        apply hosted.setHeader Header.securityToken token
        rw [Header.toLower_known Header.securityToken, ownNames, held]
        exact List.mem_append_right _ List.mem_cons_self
  · rw [Header.toLower_known Header.signingDate]
    exact mem_ownNames_of_always client (by decide)
  · rw [Header.toLower_known Header.authorization]
    exact mem_ownNames_of_always client (by decide)

theorem standard_frames {client : Client} {request sent signed : Request} {now : Timestamp}
    (frames : Frames client request sent)
    (signs : Signer.standard sent client.credentials client.options now = .ok signed) :
    Frames client request signed := by
  rw [Signer.standard, Result.map_eq_ok_iff] at signs
  obtain ⟨⟨signature, answered⟩, same, rfl⟩ := signs
  obtain ⟨host, _hosted, _signature, rfl⟩ := Signing.sign_eq_ok_iff.mp same
  exact signedFor_frames frames now host

/-! ### Invocations -/

section Invocations

variable {Value : Type} (client : Client) (decode : Json → Option Value) (default : Value)
  (clock : Clock) (request : Request)

theorem invoke_of_refusal (transport : Transport) {cause : Error}
    (refusal : client.outgoing clock request = .error cause) :
    client.invoke decode default transport clock request = ⟨[], none, .error cause⟩ := by
  rw [invoke, refusal]

theorem invoke_sent_of_signed (transport : Transport) {signed : Request}
    (signs : client.outgoing clock request = .ok signed) :
    (client.invoke decode default transport clock request).sent = [signed] := by
  rw [invoke, signs]
  dsimp only
  cases transport signed with
  | error cause => rfl
  | ok reply => rfl

theorem invoke_of_failure (transport : Transport) {signed : Request} {cause : Error}
    (signs : client.outgoing clock request = .ok signed)
    (failure : transport signed = .error cause) :
    client.invoke decode default transport clock request = ⟨[signed], none, .error cause⟩ := by
  rw [invoke, signs]
  dsimp only
  rw [failure]

theorem invoke_conducts (transport : Transport) :
    Conducts client request (client.outgoing clock request) transport
      (client.invoke decode default transport clock request).sent
      (client.invoke decode default transport clock request).result := by
  cases signing : client.outgoing clock request with
  | error refusal =>
      rw [invoke_of_refusal client decode default clock request transport signing]
      exact
        { refused := fun cause same => ⟨rfl, congrArg _ (Except.error.inj same)⟩
          delivered := fun _ impossible => nomatch impossible
          failed := fun _ _ impossible => nomatch impossible
          framed := fun _ _ impossible => nomatch impossible }
  | ok signed =>
      rw [invoke_sent_of_signed client decode default clock request transport signing]
      refine
        { refused := fun _ impossible => nomatch impossible
          delivered := fun other same => congrArg (fun sent => [sent]) (Except.ok.inj same)
          failed := ?_
          framed := ?_ }
      · intro other cause same failure
        rw [← Except.ok.inj same] at failure
        rw [invoke_of_failure client decode default clock request transport signing failure]
      · intro standard other member
        rw [List.mem_singleton.mp member]
        rw [outgoing, standard] at signing
        exact standard_frames (prepare_frames client clock.dating request) signing

/-- Over a transport with a state, an invocation is one over the only answer that it gives. -/
theorem invokeOver_eq {State : Type} (carrier : Carrier State) (state : State) :
    (client.invokeOver decode default carrier clock request).run state =
      match client.outgoing clock request with
      | .error cause => (.error cause, state)
      | .ok signed =>
          ((client.invoke decode default (fun _ => ((carrier signed).run state).1) clock
            request).result, ((carrier signed).run state).2) := by
  unfold invokeOver invoke
  cases client.outgoing clock request with
  | error cause => rfl
  | ok signed =>
      dsimp only
      rw [StateT.run_bind]
      cases (carrier signed).run state with
      | mk answer after =>
          cases answer with
          | error cause => rfl
          | ok reply => rfl

theorem invokeOver_recorded {State : Type} (carrier : Carrier State) (state : State)
    (earlier : List Request) :
    (client.invokeOver decode default carrier.recorded clock request).run (state, earlier) =
      let invocation :=
        client.invoke decode default (fun signed => ((carrier signed).run state).1) clock request
      (invocation.result, ((client.invokeOver decode default carrier clock request).run state).2,
        earlier ++ invocation.sent) := by
  rw [invokeOver_eq, invokeOver_eq]
  cases signing : client.outgoing clock request with
  | error cause =>
      rw [invoke_of_refusal client decode default clock request _ signing]
      dsimp only
      rw [List.append_nil]
  | ok signed =>
      dsimp only
      rw [invoke_sent_of_signed client decode default clock request _ signing, Carrier.recorded_run]
      unfold invoke
      rw [signing]

/-- Whatever the transport does, and whatever it did before, it is called once with the request of
the caller under the headers of the client, or not at all. -/
theorem invoke_frames :
    (∀ transport : Transport,
      Conducts client request (client.outgoing clock request) transport
        (client.invoke decode default transport clock request).sent
        (client.invoke decode default transport clock request).result) ∧
    ∀ {State : Type} (carrier : Carrier State) (state : State),
      let (result, after, sent) :=
        (client.invokeOver decode default carrier.recorded clock request).run (state, [])
      Conducts client request (client.outgoing clock request)
          (fun signed => ((carrier signed).run state).1) sent result ∧
        after = sent.foldl (fun state signed => ((carrier signed).run state).2) state := by
  refine ⟨invoke_conducts client decode default clock request, ?_⟩
  intro State carrier state
  rw [invokeOver_recorded]
  dsimp only
  rw [List.nil_append]
  refine ⟨invoke_conducts client decode default clock request _, ?_⟩
  rw [invokeOver_eq]
  cases signing : client.outgoing clock request with
  | error cause =>
      rw [invoke_of_refusal client decode default clock request _ signing]
      rfl
  | ok signed =>
      rw [invoke_sent_of_signed client decode default clock request _ signing]
      rfl

end Invocations

/-- A caller's content type, in whatever case it was named, goes through a connection that fails. -/
theorem invoke_frames_unanswered :
    let endpoint : Url :=
      ⟨"http", some ⟨"", none, .name "h", none⟩, .segments [""], none, none⟩
    let client : Client :=
      { service := ⟨⟨"ses", by decide⟩, true⟩, endpoint, config := {}
        credentials := ⟨"ak", "sk", some "token", by decide, by decide,
          fun _ same => Option.some.inj same ▸ by decide⟩
        signer := Signer.standard, options := {}, handlers := [] }
    let request := (requestBelow endpoint "PUT" ["d"]).setHeader "Content-Type" "text/plain"
    let cause := Error.network (.unanswered "http://h/v1/d")
    let transport : Transport := fun _ => .error cause
    let clock : Clock := ⟨Timestamp.epoch, Timestamp.epoch⟩
    (client.invoke decodeNothing () transport clock request).result = .error cause ∧
      ∃ signed, (client.invoke decodeNothing () transport clock request).sent = [signed] ∧
        signed.uri = request.uri ∧
        signed.headers.get? Header.contentType = some "text/plain" := by
  intro endpoint client request cause transport clock
  have standard : client.signer = Signer.standard := rfl
  obtain ⟨signed, signs⟩ : ∃ signed, client.outgoing clock request = .ok signed :=
    ⟨_, outgoing_of_host standard clock (show Signing.hostHeader request.uri = .ok "h" from rfl)⟩
  have conducts := (invoke_frames client decodeNothing () clock request).1 transport
  rw [signs] at conducts
  have sent := conducts.delivered signed rfl
  have frames := conducts.framed standard signed (sent ▸ List.mem_singleton_self signed)
  have written : request.headers.get? Header.contentType = some "text/plain" := by
    decide +kernel
  exact ⟨conducts.failed signed cause rfl rfl, signed, sent, frames.uri,
    frames.kept _ _ (by decide +kernel) written⟩

end Client

end SignedRest
