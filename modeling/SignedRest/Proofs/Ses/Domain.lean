/-
Which domain is asked for. A domain that is blank is not asked for at all. For any other one request
is sent; its last segment decodes to that very domain, unless the domain is made of dots alone or
holds tabs or line breaks.
-/

import SignedRest.Proofs.Client.Address
import SignedRest.Proofs.Client.Frame
import SignedRest.Proofs.Service.Endpoint
import SignedRest.Proofs.Signing.Arrival
import SignedRest.Ses

namespace SignedRest

namespace Ses

variable {config : Config} {client : Client}

theorem accepted_of_connect (connected : connect config = .ok client) :
    Service.Accepted client.endpoint ∧ client.signer = Signer.standard := by
  obtain ⟨id, _, made⟩ := Result.ok_of_bind connected
  obtain ⟨found, standard⟩ := Service.endpoint_of_make made
  exact ⟨Service.accepted_of_read found, standard⟩

theorem exists_hostHeader {uri : Url} (hosted : uri.hostText?.isSome = true) :
    ∃ host, Signing.hostHeader uri = .ok host := by
  obtain ⟨name, named⟩ := Option.isSome_iff_exists.mp hosted
  rw [Signing.hostHeader, named]
  exact ⟨_, rfl⟩

/-- The request for the record of a domain, before it is signed. -/
def requestFor (client : Client) (domain : String) : Request :=
  Client.requestBelow client.endpoint "GET" ["verifiedDomain", domain]

/-- A domain that is not blank is asked for once. -/
theorem exists_sent (connected : connect config = .ok client) {domain : String}
    (filled : Text.trim domain ≠ "") (transport : Transport) (clock : Clock) :
    ∃ sent, (verifiedDomain client transport clock domain).sent = [sent] ∧
      Client.Frames client (requestFor client domain) sent := by
  obtain ⟨accepted, standard⟩ := accepted_of_connect connected
  have notBlank : ¬ Text.isBlankText domain = true := mt (Text.isBlankText_iff domain).mp filled
  have hosted : (requestFor client domain).uri.hostText?.isSome := accepted.hosted
  obtain ⟨host, headed⟩ := exists_hostHeader hosted
  have signs := Client.outgoing_of_host standard clock headed
  have frames := Client.prepare_frames client clock.dating (requestFor client domain)
  refine ⟨_, ?_, Client.signedFor_frames frames clock.signing host⟩
  rw [verifiedDomain, if_neg notBlank, Client.createRequest_of_accepted accepted]
  exact Client.invoke_sent_of_signed client decodeReply {} clock _ transport signs

/-! ### Addresses -/

/-- The last segment of the address decodes to the domain, and the two before it name what is asked
about it. -/
def AsksFor (request : Request) (domain : String) : Prop :=
  ∃ front last, Text.splitText '/' request.url.path.toText =
      front ++ ["v1", "verifiedDomain", last] ∧
    Percent.decodeText last = Utf8.encodeText domain

theorem url_of_frames {domain : String} {sent : Request}
    (frames : Client.Frames client (requestFor client domain) sent) :
    sent.url = (requestFor client domain).uri := by
  have none : sent.parameters.isEmpty = true := by
    rw [frames.parameters]
    rfl
  rw [Request.url, if_pos none, frames.uri]

/-- The segments below which a domain is asked for, with no slash in any of them. -/
theorem exists_base (accepted : Service.Accepted client.endpoint) :
    ∃ front, Url.Slashless (front ++ ["v1", "verifiedDomain"]) ∧ ∀ domain,
      (requestFor client domain).uri.path =
        Request.trimmedPath
          ((Url.Path.segments (front ++ ["v1", "verifiedDomain"])).push domain) := by
  obtain ⟨front, clear, _, paths⟩ := Client.requestBelow_path accepted
  have named : ∀ element ∈ ["verifiedDomain"], Url.IsWhole element := by decide
  have added : [Client.apiVersion, "verifiedDomain"].map
      (fun element => Url.segmentFor element.toList) = ["v1", "verifiedDomain"] := by
    decide
  refine ⟨front, ?_, fun domain => ?_⟩
  · rw [← added]
    exact clear.append (Url.slashless_segmentFor _)
  · rw [← added]
    exact paths "GET" ["verifiedDomain"] [domain] named

theorem stem_base (front : List String) :
    Url.stem (front ++ ["v1", "verifiedDomain"]) = front ++ ["v1", "verifiedDomain"] := by
  refine if_neg fun same => ?_
  have sizes := congrArg List.length same
  rw [List.length_append, List.length_cons, List.length_singleton, List.length_singleton] at sizes
  omega

/-- The path to which nothing was added ends in the name of the interface, which is no domain of
dots. -/
theorem not_asked_by_base {front more : List String} {domain last : String}
    (dots : domain = "." ∨ domain = "..")
    (ends : front ++ ["v1", "verifiedDomain"] = more ++ [last]) :
    Percent.decodeText last ≠ Utf8.encodeText domain := by
  have parts : front ++ ["v1"] ++ ["verifiedDomain"] = more ++ [last] := by
    rw [← ends, List.append_assoc]
    rfl
  rw [← List.singleton_inj.mp (List.append_inj_right' parts rfl)]
  rcases dots with rfl | rfl
  · decide
  · decide

theorem asksFor_iff (accepted : Service.Accepted client.endpoint) {domain : String}
    {sent : Request}
    (frames : Client.Frames client (requestFor client domain) sent) :
    AsksFor sent domain ↔ Url.IsWhole domain := by
  obtain ⟨front, clear, paths⟩ := exists_base accepted
  obtain ⟨items, pushed, itemsClear⟩ := Url.exists_push clear domain
  have split : Text.splitText '/' sent.url.path.toText = "" :: items := by
    rw [url_of_frames frames, paths, pushed]
    exact Url.splitText_toText itemsClear
  rw [AsksFor, split]
  constructor
  · rintro ⟨before, last, same, decoded⟩
    cases before with
    | nil => exact absurd (List.cons.inj same).1 (by decide)
    | cons first more =>
        have ending : items = more ++ ["v1", "verifiedDomain"] ++ [last] := by
          rw [(List.cons.inj same).2, List.append_assoc]
          rfl
        rw [ending] at pushed
        rcases Url.whole_of_push pushed decoded with whole | ⟨dots, unchanged⟩
        · exact whole
        · exact absurd decoded (not_asked_by_base dots unchanged)
  · intro whole
    rw [Url.push_whole _ whole, stem_base] at pushed
    refine ⟨"" :: front, Url.segmentFor domain.toList, ?_, Url.decodeText_segmentFor _⟩
    rw [← Url.Path.segments.inj pushed, List.append_assoc]
    rfl

theorem AsksFor.unique {sent other : Request} {domain otherDomain : String}
    (asks : AsksFor sent domain) (otherAsks : AsksFor other otherDomain)
    (same : sent.url.path.toText = other.url.path.toText) : domain = otherDomain := by
  obtain ⟨front, last, split, decoded⟩ := asks
  obtain ⟨otherFront, otherLast, otherSplit, otherDecoded⟩ := otherAsks
  rw [same, otherSplit] at split
  have ending := List.append_inj_right' split rfl
  rw [List.cons.injEq, List.cons.injEq, List.singleton_inj] at ending
  rw [ending.2.2] at otherDecoded
  exact String.toList_inj.mp (Utf8.encode_injective (decoded.symm.trans otherDecoded))

theorem path_of_url (accepted : Service.Accepted client.endpoint) {domain otherDomain : String}
    {sent other : Request}
    (frames : Client.Frames client (requestFor client domain) sent)
    (otherFrames : Client.Frames client (requestFor client otherDomain) other)
    (same : sent.url.toText = other.url.toText) :
    sent.url.path.toText = other.url.path.toText := by
  obtain ⟨authority, placed⟩ := accepted.exists_authority
  have text := congrArg String.toList same
  rw [url_of_frames frames, url_of_frames otherFrames] at text ⊢
  have written : ∀ domain,
      (requestFor client domain).uri.toText.toList =
        client.endpoint.scheme.toList ++ ':' :: '/' :: '/' :: (authority.toText.toList ++
          (requestFor client domain).uri.path.toText.toList) := by
    intro domain
    have below : (requestFor client domain).uri.authority = some authority := placed
    exact (Signing.toList_toText below rfl).trans (List.append_nil _)
  rw [written, written, List.append_cancel_left_eq, List.cons.injEq, List.cons.injEq,
    List.cons.injEq, List.append_cancel_left_eq] at text
  exact String.toList_inj.mp text.2.2.2

/-- A blank domain is refused and nothing is sent. For any other one request asks, without
parameters, at the address below the endpoint; its last segment decodes to the domain exactly if the
domain is whole, and of whole domains no two share an address. -/
theorem verifiedDomain_sent (connected : connect config = .ok client) (transport : Transport)
    (clock : Clock) :
    (∀ domain, Text.trim domain = "" →
      (verifiedDomain client transport clock domain).sent = [] ∧
        (verifiedDomain client transport clock domain).result =
          .error (.request .blankDomain)) ∧
    (∀ domain, Text.trim domain ≠ "" → ∃ request sent,
      client.createRequest "GET" ["verifiedDomain", domain] = .ok request ∧
        (verifiedDomain client transport clock domain).sent = [sent] ∧ sent.method = "GET" ∧
        sent.url = request.uri ∧ (AsksFor sent domain ↔ Url.IsWhole domain)) ∧
    ∀ domain other, Text.trim domain ≠ "" → Text.trim other ≠ "" →
      Url.IsWhole domain → Url.IsWhole other →
        (verifiedDomain client transport clock domain).sent.map (·.url.toText) =
          (verifiedDomain client transport clock other).sent.map (·.url.toText) →
            domain = other := by
  obtain ⟨accepted, _⟩ := accepted_of_connect connected
  refine ⟨?_, ?_, ?_⟩
  · intro domain blank
    have refused := (Text.isBlankText_iff domain).mpr blank
    rw [verifiedDomain, if_pos refused]
    exact ⟨rfl, rfl⟩
  · intro domain filled
    obtain ⟨sent, once, frames⟩ := exists_sent connected filled transport clock
    exact ⟨_, sent, Client.createRequest_of_accepted accepted _ _, once, frames.method,
      url_of_frames frames, asksFor_iff accepted frames⟩
  · intro domain other filled otherFilled whole otherWhole same
    obtain ⟨sent, once, frames⟩ := exists_sent connected filled transport clock
    obtain ⟨otherSent, otherOnce, otherFrames⟩ :=
      exists_sent connected otherFilled transport clock
    rw [once, otherOnce, List.map_singleton, List.map_singleton, List.singleton_inj] at same
    exact ((asksFor_iff accepted frames).mpr whole).unique
      ((asksFor_iff accepted otherFrames).mpr otherWhole)
      (path_of_url accepted frames otherFrames same)

/-! ### A client with nothing but credentials -/

def bareConfig : Config :=
  { credentials := some ⟨"ak", "sk", none, by decide, by decide, fun _ absent => nomatch absent⟩ }

def bareEndpoint : Url :=
  ⟨"http", some ⟨"", none, .name "ses.bj.baidubce.com", none⟩, .segments [""], none, none⟩

theorem exists_bareClient :
    ∃ client, connect bareConfig = .ok client ∧ client.endpoint = bareEndpoint := by
  have found : (Service.endpoint ⟨⟨"ses", by decide⟩, true⟩ bareConfig).toOption =
      some bareEndpoint := by
    decide +kernel
  have placed := Result.ok_of_toOption found
  have made : connect bareConfig = Client.make ⟨⟨"ses", by decide⟩, true⟩ bareConfig := rfl
  rw [made, Client.make, placed]
  exact ⟨_, rfl, rfl⟩

/-- A domain with letters beyond ASCII and a space at its end is asked for as it is. -/
theorem verifiedDomain_sent_letters :
    ∃ client, connect bareConfig = .ok client ∧ ∃ sent,
      (verifiedDomain client (fun _ => .ok (Reply.make 200)) ⟨Timestamp.epoch, Timestamp.epoch⟩
        "bücher.de ").sent = [sent] ∧ AsksFor sent "bücher.de " := by
  obtain ⟨client, connected, _⟩ := exists_bareClient
  obtain ⟨_, asks, _⟩ := verifiedDomain_sent connected (fun _ => .ok (Reply.make 200))
    ⟨Timestamp.epoch, Timestamp.epoch⟩
  obtain ⟨_, sent, _, once, _, _, whole⟩ := asks "bücher.de " (by decide +kernel)
  exact ⟨client, connected, sent, once, whole.mpr (by decide)⟩

/-- Domains that are not asked for, and the addresses to which their requests go. -/
def lostDomains : List (String × String) :=
  [(".", "http://ses.bj.baidubce.com/v1/verifiedDomain"),
    ("..", "http://ses.bj.baidubce.com/v1/verifiedDomain"),
    ("a\tb", "http://ses.bj.baidubce.com/v1/verifiedDomain/ab")]

/-- Dots alone are not added to the path at all, and a tab is left out of it. -/
theorem verifiedDomain_loses_dots_and_breaks :
    ∃ client, connect bareConfig = .ok client ∧ ∀ transport clock, ∀ lost ∈ lostDomains,
      Text.trim lost.1 ≠ "" ∧
        ∃ sent, (verifiedDomain client transport clock lost.1).sent = [sent] ∧
        sent.url.toText = lost.2 ∧ ¬ AsksFor sent lost.1 := by
  obtain ⟨client, connected, placed⟩ := exists_bareClient
  obtain ⟨accepted, _⟩ := accepted_of_connect connected
  have filled : ∀ lost ∈ lostDomains, Text.trim lost.1 ≠ "" ∧ ¬ Url.IsWhole lost.1 := by
    decide +kernel
  have written : ∀ lost ∈ lostDomains,
      (Request.make "GET" { bareEndpoint with
        path := [Client.apiVersion, "verifiedDomain", lost.1].foldl Url.Path.push
          bareEndpoint.path.dropEmptyEnd }).uri.toText = lost.2 := by
    decide +kernel
  refine ⟨client, connected, fun transport clock lost member => ?_⟩
  obtain ⟨notBlank, notWhole⟩ := filled lost member
  obtain ⟨sent, once, frames⟩ := exists_sent connected notBlank transport clock
  refine ⟨notBlank, sent, once, ?_, mt (asksFor_iff accepted frames).mp notWhole⟩
  rw [url_of_frames frames, requestFor, Client.requestBelow, placed]
  exact written lost member

end Ses

end SignedRest
