/-
What a reply has to look like to tell the record of a domain, and what it tells. The form is stated
apart from the decoding: a member that is absent has its default, a member that nobody asks for may
be anything, and values may also be given in order, without their names.
-/

import SignedRest.Proofs.Client.Outcome
import SignedRest.Proofs.Reply.Payload
import SignedRest.Ses

namespace SignedRest

/-! ### Successes that carry a value -/

/-- A success comes for a request and carries a JSON value. -/
structure Transport.Brings (transport : Transport) (sent : Request) (reply : Reply)
    (payload : Json) : Prop where
  delivered : transport sent = .ok reply
  success : 200 ≤ reply.status ∧ reply.status ≤ 299
  carried : ∃ body, reply.body? = some body ∧ body.breaksOff = false ∧
    Json.ofBytes? body.content = some payload

namespace Client

variable {client : Client} {transport : Transport} {clock : Clock} {request signed : Request}

theorem invoke_of_success {Value : Type} (decode : Json → Option Value) (default : Value)
    {reply : Reply} (standard : client.handlers = Handler.standard)
    (signs : client.outgoing clock request = .ok signed)
    (delivered : transport signed = .ok reply) (success : 200 ≤ reply.status ∧ reply.status ≤ 299) :
    (client.invoke decode default transport clock request).result =
      (valueOf decode default reply).map (fun value => (value, Metadata.ofReply reply)) := by
  have processed := Reply.process_of_success (reply.isSuccess_iff.mpr success)
  simp only [invoke, signs, delivered, standard, processed, valueOf]
  cases Handler.payload reply with
  | error cause => rfl
  | ok found => rfl

end Client

theorem Metadata.ofReply_congr {reply other : Reply} (same : reply.headers = other.headers) :
    Metadata.ofReply reply = Metadata.ofReply other := by
  simp only [Metadata.ofReply, Reply.header?, same]

namespace Ses

/-! ### The form of a reply -/

/-- A member of some form tells a value, and an absent one tells the default. -/
inductive MemberTold {Value : Type} (Form : Json → Value → Prop) (default : Value) :
    Option Json → Value → Prop where
  | absent : MemberTold Form default none default
  | present {value : Json} {told : Value} (form : Form value told) :
      MemberTold Form default (some value) told

inductive NameForm : Json → String → Prop where
  | text (value : String) : NameForm (.text value) value

inductive TokenForm : Json → Option String → Prop where
  | null : TokenForm .null none
  | text (value : String) : TokenForm (.text value) (some value)

/-- A number is told by its text. -/
inductive StatusForm : Json → Option String → Prop where
  | null : StatusForm .null none
  | text (value : String) : StatusForm (.text value) (some value)
  | number (value : Json.Number) : StatusForm (.number value) (some value.toText)

structure FieldsTold (name status token : Option Json) (record : DomainRecord) : Prop where
  name : MemberTold NameForm "" name record.name
  status : MemberTold StatusForm none status record.status
  token : MemberTold TokenForm none token record.token

inductive RecordForm : Json → DomainRecord → Prop where
  | named {members : List (String × Json)} {record : DomainRecord}
      (fields : FieldsTold ((Json.object members).member? "domainName")
        ((Json.object members).member? "status") ((Json.object members).member? "token") record) :
      RecordForm (.object members) record
  | listed {items : List Json} {record : DomainRecord} (few : items.length ≤ 3)
      (fields : FieldsTold items[0]? items[1]? items[2]? record) : RecordForm (.array items) record

inductive ReplyForm : Json → DomainRecord → Prop where
  | named {members : List (String × Json)} {record : DomainRecord}
      (detail : MemberTold RecordForm {} ((Json.object members).member? "detail") record) :
      ReplyForm (.object members) record
  | empty : ReplyForm (.array []) {}
  | listed {detail : Json} {record : DomainRecord} (form : RecordForm detail record) :
      ReplyForm (.array [detail]) record

/-! ### Decoding accepts this form -/

variable {value : Json} {record : DomainRecord}

theorem text?_eq_some_iff {told : String} : text? value = some told ↔ NameForm value told := by
  constructor
  · intro read
    cases value with
    | text given =>
        cases read
        exact .text _
    | _ => cases read
  · rintro ⟨⟩
    rfl

theorem textOrNone?_eq_some_iff {told : Option String} :
    textOrNone? value = some told ↔ TokenForm value told := by
  constructor
  · intro read
    cases value with
    | null =>
        cases read
        exact .null
    | text given =>
        cases read
        exact .text _
    | _ => cases read
  · rintro (⟨⟩ | ⟨⟩)
    · rfl
    · rfl

theorem numberOrText?_eq_some_iff {told : Option String} :
    numberOrText? value = some told ↔ StatusForm value told := by
  constructor
  · intro read
    cases value with
    | null =>
        cases read
        exact .null
    | number given =>
        cases read
        exact .number _
    | text given =>
        cases read
        exact .text _
    | _ => cases read
  · rintro (⟨⟩ | ⟨⟩ | ⟨⟩)
    · rfl
    · rfl
    · rfl

theorem read?_eq_some_iff {Value : Type} {decode : Json → Option Value}
    {Form : Json → Value → Prop} (decodes : ∀ {value told}, decode value = some told ↔ Form value told)
    {default : Value} {member : Option Json} {told : Value} :
    read? decode default member = some told ↔ MemberTold Form default member told := by
  constructor
  · intro read
    cases member with
    | none =>
        cases read
        exact .absent
    | some value => exact .present (decodes.mp read)
  · intro form
    cases form with
    | absent => rfl
    | present form => exact decodes.mpr form

theorem recordOf?_eq_some_iff {name status token : Option Json} :
    recordOf? name status token = some record ↔ FieldsTold name status token record := by
  constructor
  · intro read
    obtain ⟨nameTold, nameRead, read⟩ := Option.bind_eq_some_iff.mp read
    obtain ⟨statusTold, statusRead, read⟩ := Option.bind_eq_some_iff.mp read
    obtain ⟨tokenTold, tokenRead, same⟩ := Option.bind_eq_some_iff.mp read
    cases same
    exact
      { name := (read?_eq_some_iff text?_eq_some_iff).mp nameRead
        status := (read?_eq_some_iff numberOrText?_eq_some_iff).mp statusRead
        token := (read?_eq_some_iff textOrNone?_eq_some_iff).mp tokenRead }
  · intro told
    rw [recordOf?, (read?_eq_some_iff text?_eq_some_iff).mpr told.name,
      (read?_eq_some_iff numberOrText?_eq_some_iff).mpr told.status,
      (read?_eq_some_iff textOrNone?_eq_some_iff).mpr told.token]
    rfl

theorem decodeRecord_eq_some_iff : decodeRecord value = some record ↔ RecordForm value record := by
  constructor
  · intro read
    cases value with
    | object members => exact .named (recordOf?_eq_some_iff.mp read)
    | array items =>
        rw [decodeRecord] at read
        split at read
        · cases read
        · rename_i few
          exact .listed (Nat.not_lt.mp few) (recordOf?_eq_some_iff.mp read)
    | _ => cases read
  · intro form
    cases form with
    | named fields => exact recordOf?_eq_some_iff.mpr fields
    | listed few fields =>
        rw [decodeRecord, if_neg (Nat.not_lt.mpr few)]
        exact recordOf?_eq_some_iff.mpr fields

theorem decodeReply_eq_some_iff : decodeReply value = some record ↔ ReplyForm value record := by
  constructor
  · intro read
    cases value with
    | object members => exact .named ((read?_eq_some_iff decodeRecord_eq_some_iff).mp read)
    | array items =>
        match items with
        | [] =>
            cases read
            exact .empty
        | [detail] => exact .listed (decodeRecord_eq_some_iff.mp read)
        | _ :: _ :: _ => cases read
    | _ => cases read
  · intro form
    cases form with
    | named detail => exact (read?_eq_some_iff decodeRecord_eq_some_iff).mpr detail
    | empty => rfl
    | listed form => exact decodeRecord_eq_some_iff.mpr form

/-! ### Members that nobody asks for -/

/-- An object without the members of other names. -/
def keepMembers (names : List String) : Json → Json
  | .object members => .object (members.filter (fun member => member.1 ∈ names))
  | value => value

def knownRecord : Json → Json :=
  keepMembers ["domainName", "status", "token"]

/-- A reply with nothing in it but what is asked for. -/
def knownReply (value : Json) : Json :=
  match keepMembers ["detail"] value with
  | .object members => .object (members.map (fun member => (member.1, knownRecord member.2)))
  | .array items => .array (items.map knownRecord)
  | value => value

theorem member?_filter {names : List String} {name : String} (kept : name ∈ names)
    (members : List (String × Json)) :
    (Json.object (members.filter (fun member => member.1 ∈ names))).member? name =
      (Json.object members).member? name := by
  unfold Json.member?
  induction members with
  | nil => rfl
  | cons member rest ih =>
      by_cases same : member.1 = name
      · simp [same, kept]
      · by_cases inside : member.1 ∈ names
        · simpa [same, inside] using ih
        · simpa [same, inside] using ih

theorem member?_map (change : Json → Json) (members : List (String × Json)) (name : String) :
    (Json.object (members.map (fun member => (member.1, change member.2)))).member? name =
      ((Json.object members).member? name).map change := by
  simp [Json.member?, List.find?_map, Function.comp_def]

theorem decodeRecord_known (value : Json) :
    decodeRecord (knownRecord value) = decodeRecord value := by
  cases value with
  | object members =>
      simp only [knownRecord, keepMembers, decodeRecord]
      rw [member?_filter (by simp), member?_filter (by simp), member?_filter (by simp)]
  | _ => rfl

theorem decodeReply_known (value : Json) : decodeReply (knownReply value) = decodeReply value := by
  cases value with
  | object members =>
      simp only [knownReply, keepMembers, decodeReply]
      rw [member?_map, member?_filter (by simp)]
      cases (Json.object members).member? "detail" with
      | none => rfl
      | some detail => exact decodeRecord_known detail
  | array items =>
      match items with
      | [] => rfl
      | [detail] => exact decodeRecord_known detail
      | _ :: _ :: _ => rfl
  | _ => rfl

/-! ### Replies that are decoded -/

variable {client : Client} {clock : Clock} {request signed : Request}

theorem decodePayload_eq_ok_iff {payload : Json} {record : DomainRecord} :
    Client.decodePayload decodeReply {} (some payload) = .ok record ↔ ReplyForm payload record := by
  rw [← decodeReply_eq_some_iff, Client.decodePayload]
  cases decodeReply payload with
  | none => simp
  | some told => simp

theorem decodePayload_of_no_form {payload : Json} (formless : ¬ ∃ record, ReplyForm payload record) :
    Client.decodePayload decodeReply {} (some payload) = .error .json := by
  rw [Client.decodePayload]
  cases read : decodeReply payload with
  | none => rfl
  | some told => exact absurd ⟨told, decodeReply_eq_some_iff.mp read⟩ formless

theorem decodePayload_congr {payload other : Json} (same : knownReply payload = knownReply other) :
    Client.decodePayload decodeReply {} (some payload) =
      Client.decodePayload decodeReply {} (some other) := by
  rw [Client.decodePayload, Client.decodePayload, ← decodeReply_known payload, same,
    decodeReply_known other]

/-- A success that carries a JSON value tells a record exactly if the value has the form of one, and
that record; with any other value it fails. Nothing depends on the members that nobody asks for. A
reply with nothing in it tells the record without anything in it. -/
theorem invoke_tells_record (standard : client.handlers = Handler.standard)
    (signs : client.outgoing clock request = .ok signed) :
    let result (transport : Transport) :=
      (client.invoke decodeReply {} transport clock request).result
    (∀ (transport : Transport) (reply : Reply) (payload : Json),
      transport.Brings signed reply payload →
        (∀ record metadata, result transport = .ok (record, metadata) ↔
          ReplyForm payload record ∧ metadata = Metadata.ofReply reply) ∧
        ((¬ ∃ record, ReplyForm payload record) → result transport = .error .json)) ∧
    (∀ (transport other : Transport) (reply otherReply : Reply) (payload otherPayload : Json),
      transport.Brings signed reply payload → other.Brings signed otherReply otherPayload →
        reply.headers = otherReply.headers → knownReply payload = knownReply otherPayload →
          result transport = result other) ∧
    ∀ (transport : Transport) (reply : Reply), transport signed = .ok reply →
      200 ≤ reply.status ∧ reply.status ≤ 299 → reply.IsEmpty →
        result transport = .ok ({}, Metadata.ofReply reply) := by
  intro result
  have decoded {transport : Transport} {reply : Reply} {payload : Json}
      (brings : transport.Brings signed reply payload) :
      result transport = (Client.decodePayload decodeReply {} (some payload)).map
        (fun record => (record, Metadata.ofReply reply)) := by
    obtain ⟨body, attached, whole, read⟩ := brings.carried
    have told : result transport = _ :=
      Client.invoke_of_success decodeReply {} standard signs brings.delivered brings.success
    rw [told, Client.valueOf, Handler.payload_of_read attached whole read]
    rfl
  refine ⟨?_, ?_, ?_⟩
  · intro transport reply payload brings
    rw [decoded brings]
    constructor
    · intro record metadata
      rw [← decodePayload_eq_ok_iff]
      cases Client.decodePayload decodeReply {} (some payload) with
      | error cause => simp [Except.map]
      | ok told => simp [Except.map, eq_comm]
    · intro formless
      rw [decodePayload_of_no_form formless]
      rfl
  · intro transport other reply otherReply payload otherPayload brings otherBrings headers known
    rw [decoded brings, decoded otherBrings, Metadata.ofReply_congr headers,
      decodePayload_congr known]
  · intro transport reply delivered success empty
    have told : result transport = _ :=
      Client.invoke_of_success decodeReply {} standard signs delivered success
    rw [told, Client.valueOf, Handler.payload_of_empty empty]
    rfl

/-- A numeric status is told by its digits, members called metadata are passed over, and a detail
that is null is refused. -/
theorem invoke_tells_record_numbered :
    let endpoint : Url :=
      ⟨"http", some ⟨"", none, .name "h", none⟩, .segments [""], none, none⟩
    let client : Client :=
      { service := ⟨⟨"ses", by decide⟩, true⟩, endpoint, config := {}
        credentials := ⟨"ak", "sk", none, by decide, by decide, fun _ absent => nomatch absent⟩
        signer := Signer.standard, options := {}, handlers := Handler.standard }
    let request := Client.requestBelow endpoint "GET" ["verifiedDomain", "d"]
    let clock : Clock := ⟨Timestamp.epoch, Timestamp.epoch⟩
    let payload := Json.object
      [("detail", .object [("domainName", .text "d"), ("metadata", .null),
        ("status", .number (.integer 0))]), ("metadata", .bool true)]
    let reply (payload : Json) := ((Reply.make 200).withHeader "content-type" "x").withBody
      ⟨Utf8.encode (Json.write payload), [1, 2, 3], false, by decide⟩
    let result (payload : Json) :=
      (client.invoke decodeReply {} (fun _ => .ok (reply payload)) clock request).result
    (∃ signed, client.outgoing clock request = .ok signed) ∧
      result payload =
        .ok ({ name := "d", status := some "0", token := none }, { contentType := some "x" }) ∧
      result (.object [("detail", .null)]) = .error .json := by
  intro endpoint client request clock payload reply result
  have hosted : Signing.hostHeader request.uri = .ok "h" := rfl
  have signer : client.signer = Signer.standard := rfl
  have signs := Client.outgoing_of_host signer clock hosted
  have standard : client.handlers = Handler.standard := rfl
  obtain ⟨tells, _, _⟩ := invoke_tells_record standard signs
  have brings {payload : Json} (exact : Json.Exact 2 payload) (sent : Request) :
      Transport.Brings (fun _ => .ok (reply payload)) sent (reply payload) payload := by
    have read := Json.ofBytes?_write (exact.mono (by decide)) Json.isBlank_nil Json.isBlank_nil
    exact ⟨rfl, (by decide : 200 ≤ 200 ∧ 200 ≤ 299), _, rfl, rfl, by simpa using read⟩
  refine ⟨⟨_, signs⟩, ?_, ?_⟩
  · have detail : Json.Exact 1 (.object [("domainName", .text "d"), ("metadata", .null),
        ("status", .number (.integer 0))]) := by
      refine .object (by decide) ?_
      simpa using ⟨.text _, .null, .integer (by decide) (by decide)⟩
    have exact : Json.Exact 2 payload := by
      refine .object (by decide) ?_
      simpa using ⟨detail, .bool true⟩
    refine ((tells _ _ payload (brings exact _)).1 _ _).mpr ⟨?_, by decide +kernel⟩
    refine .named (.present (.named ?_))
    exact ⟨.present (.text "d"), .present (.number (.integer 0)), .absent⟩
  · have exact : Json.Exact 2 (.object [("detail", .null)]) :=
      .object (List.pairwise_singleton _ _) (by simpa using Json.Exact.null)
    refine (tells _ _ _ (brings exact _)).2 ?_
    rintro ⟨record, form⟩
    cases form with
    | named detail =>
        cases detail with
        | present form => cases form

end Ses

end SignedRest
