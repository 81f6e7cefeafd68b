/-
Where requests go. A request below an accepted endpoint keeps what stands before the path, and its
path is that of the endpoint with one segment for each element after it. The canonical form that is
signed reads these segments as the elements themselves.
-/

import SignedRest.Client
import SignedRest.Proofs.Signing.Path
import SignedRest.Proofs.Url.Authority
import Mathlib.Data.List.Forall2

namespace SignedRest

/-! ### Endpoints -/

/-- The path of an address with an authority, in a scheme that is special and has no files. -/
theorem Url.slashless_of_read {text : String} {url : Url} (read : ofText text = .ok url)
    (special : isSpecial url.scheme = true) (fileless : url.scheme ≠ "file") :
    ∃ items, url.path = .segments items ∧ items ≠ [] ∧ Slashless items := by
  unfold ofText at read
  dsimp only at read
  split at read
  · obtain ⟨⟨authority, path, rest⟩, _, read⟩ := Result.ok_of_bind read
    cases read
    exact absurd rfl fileless
  · rename_i scheme rest _ _
    unfold ofScheme at read
    split at read
    · rename_i isSpecial
      obtain ⟨authority, after, _, rfl⟩ := ofAuthority_special isSpecial read
      exact slashless_pathAfter _
    · rename_i plain
      split at read
      · obtain ⟨⟨authority, after⟩, _, read⟩ := Result.ok_of_bind read
        cases read
        exact absurd special plain
      · cases read
        exact absurd special plain
  · cases read

namespace Service

/-- What is known of every endpoint that is accepted. -/
structure Accepted (url : Url) : Prop where
  scheme : url.scheme = "http" ∨ url.scheme = "https"
  hosted : url.hostText?.isSome = true
  path : ∃ items, url.path = .segments items ∧ items ≠ [] ∧ Url.Slashless items

theorem accepted_of_read {text : String} {url : Url} (read : readEndpoint text = .ok url) :
    Accepted url := by
  unfold readEndpoint at read
  split at read
  · cases read
  · rename_i found parsed
    split at read
    · cases read
    · rename_i web
      split at read
      · cases read
      · rename_i hosted
        cases read
        simp only [ne_eq, not_and_or, not_not] at web
        have special : Url.isSpecial url.scheme = true ∧ url.scheme ≠ "file" := by
          rcases web with same | same
          · rw [same]
            decide
          · rw [same]
            decide
        rw [Bool.not_eq_true, Option.isNone_eq_false_iff] at hosted
        exact ⟨web, hosted, Url.slashless_of_read parsed special.1 special.2⟩

theorem Accepted.exists_authority {url : Url} (accepted : Accepted url) :
    ∃ authority, url.authority = some authority := by
  have hosted := accepted.hosted
  cases placed : url.authority with
  | some authority => exact ⟨authority, rfl⟩
  | none =>
      rw [Url.hostText?, placed] at hosted
      cases hosted

end Service

namespace Client

/-! ### Requests below an endpoint -/

variable {client : Client} {endpoint : Url}

/-- Nothing prevents a request below an accepted endpoint. -/
theorem createRequest_of_accepted (accepted : Service.Accepted client.endpoint) (method : String)
    (elements : List String) :
    client.createRequest method elements = .ok (requestBelow client.endpoint method elements) := by
  obtain ⟨items, path, _⟩ := accepted.path
  rw [createRequest, path]

theorem requestBelow_eq (method : String) (elements : List String) {path : Url.Path}
    (same : (requestBelow endpoint method elements).uri.path = path) :
    requestBelow endpoint method elements =
      ⟨method, ⟨endpoint.scheme, endpoint.authority, path, none, none⟩, Table.empty, Table.empty,
        none⟩ := by
  rw [← same]
  rfl

/-- The segments of the endpoint's path, then one for each element. What comes after the elements is
added to that. -/
theorem requestBelow_path (accepted : Service.Accepted endpoint) :
    ∃ front, Url.Slashless front ∧
      (Url.Path.segments front).toText = Url.basePath endpoint.path.toText ∧
      ∀ method elements rest, (∀ element ∈ elements, Url.IsWhole element) →
        (requestBelow endpoint method (elements ++ rest)).uri.path =
          Request.trimmedPath (rest.foldl Url.Path.push (.segments (front ++
            (apiVersion :: elements).map (fun element => Url.segmentFor element.toList)))) := by
  obtain ⟨items, path, filled, clear⟩ := accepted.path
  obtain ⟨base, dropped, slashless, text⟩ := Url.dropEmptyEnd_base filled clear
  refine ⟨Url.stem base, slashless, ?_, ?_⟩
  · rw [text, path]
  · intro method elements rest whole
    have version : Url.IsWhole apiVersion := by decide
    have first : Url.stem base ++ [Url.segmentFor apiVersion.toList] ≠ [] :=
      List.append_ne_nil_of_right_ne_nil _ (List.cons_ne_nil _ _)
    have rooted : Url.stem (Url.stem base ++ [Url.segmentFor apiVersion.toList]) =
        Url.stem base ++ [Url.segmentFor apiVersion.toList] :=
      Url.stem_concat (.inr (by decide))
    change Request.trimmedPath
      ((apiVersion :: (elements ++ rest)).foldl Url.Path.push endpoint.path.dropEmptyEnd) = _
    rw [path, dropped, List.foldl_cons, Url.push_whole base version, List.foldl_append,
      Url.foldl_push_whole whole first rooted, List.append_assoc]
    rfl

/-- The text of the endpoint's path without a slash at its end, then the version, then one part for
each element. -/
theorem toText_below {front : List String} {base : String}
    (same : (Url.Path.segments front).toText = base) (elements : List String) :
    (Url.Path.segments (front ++ apiVersion :: elements)).toText =
      base ++ "/v1" ++ String.join (elements.map ("/" ++ ·)) := by
  rw [Url.toText_append, same, String.append_assoc, Url.Path.toText, List.map_cons,
    String.join_cons]
  rfl

/-- Below an accepted endpoint there is a request for every list of elements. It keeps the scheme,
user, host and port of the endpoint. Each element, whatever it holds, is one segment of the path and
decodes to itself, and the path is signed as that of the endpoint with the elements after it. One
slash at the end of the endpoint's path has no say. -/
theorem createRequest_agrees {text : String}
    (accepted : Service.readEndpoint text = .ok client.endpoint) (method : String)
    {elements : List String} (whole : ∀ element ∈ elements, Url.IsWhole element) :
    let base := Url.basePath client.endpoint.path.toText
    ∃ request, client.createRequest method elements = .ok request ∧
      (request.uri.scheme = client.endpoint.scheme ∧
        request.uri.authority = client.endpoint.authority ∧
        request.uri.query = none ∧ request.uri.fragment = none) ∧
      Canonical.path request.uri.path.toText =
        Canonical.path (base ++ "/v1" ++
          String.join (elements.map (fun element => "/" ++ Canonical.normalize element))) ∧
      (∃ items written, request.uri.path = .segments items ∧
        Text.splitText '/' request.uri.path.toText =
          Text.splitText '/' base ++ "v1" :: written ∧
        List.Forall₂ (fun element segment =>
          Percent.decodeText segment = Utf8.encodeText element) elements written) ∧
      ∀ other : Client, (∃ text, Service.readEndpoint text = .ok other.endpoint) →
        other.endpoint.scheme = client.endpoint.scheme →
        other.endpoint.authority = client.endpoint.authority →
        client.endpoint.path.toText.toList.getLast? ≠ some '/' →
        other.endpoint.path.toText = client.endpoint.path.toText ++ "/" →
          other.createRequest method elements = .ok request := by
  intro base
  have known := Service.accepted_of_read accepted
  obtain ⟨front, clear, text, paths⟩ := requestBelow_path known
  have path := paths method elements [] whole
  rw [List.append_nil] at path
  change (requestBelow client.endpoint method elements).uri.path = .segments _ at path
  have added := Url.slashless_segmentFor (apiVersion :: elements)
  have split := Url.splitText_toText (clear.append added)
  have splitBase : Text.splitText '/' base = "" :: front := by
    rw [← Url.splitText_toText clear, text]
  refine ⟨_, createRequest_of_accepted known method elements, ⟨rfl, rfl, rfl, rfl⟩, ?_, ?_, ?_⟩
  · have version : Canonical.normalize apiVersion = apiVersion := by decide
    have filled : front ++ apiVersion :: elements ≠ [] :=
      List.append_ne_nil_of_right_ne_nil _ (List.cons_ne_nil _ _)
    rw [path, Canonical.path_segmentFor clear filled, List.map_cons, version, toText_below text,
      List.map_map]
    rfl
  · refine ⟨_, elements.map (fun element => Url.segmentFor element.toList), path, ?_, ?_⟩
    · rw [path, split, splitBase]
      rfl
    · rw [List.forall₂_map_right_iff, List.forall₂_same]
      exact fun element _ => Url.decodeText_segmentFor element.toList
  · rintro other ⟨otherText, otherAccepted⟩ scheme authority unended slashed
    have otherKnown := Service.accepted_of_read otherAccepted
    obtain ⟨otherFront, otherClear, sameText, otherPaths⟩ := requestBelow_path otherKnown
    have otherPath := otherPaths method elements [] whole
    rw [slashed, Url.basePath_append_slash unended, ← text] at sameText
    rw [List.append_nil, Url.toText_injective otherClear clear sameText] at otherPath
    rw [createRequest_of_accepted otherKnown, requestBelow_eq method elements otherPath, scheme,
      authority]
    exact congrArg Except.ok (requestBelow_eq method elements path).symm

/-- An empty element, and one of marks and of a letter beyond ASCII, below a path with a slash at
its end. -/
theorem createRequest_agrees_marks :
    let endpoint : Url :=
      ⟨"http", some ⟨"u", none, .name "h", some 8080⟩, .segments ["a%20b", ""], none, none⟩
    let client : Client :=
      { service := ⟨⟨"ses", by decide⟩, true⟩, endpoint, config := {}
        credentials := ⟨"ak", "sk", none, by decide, by decide, fun _ absent => nomatch absent⟩
        signer := Signer.standard, options := {}, handlers := Handler.standard }
    Service.readEndpoint "http://u@h:8080/a%20b/" = .ok client.endpoint ∧
      ∃ request, client.createRequest "GET" ["", "c/d%?é"] = .ok request ∧
        request.uri.toText = "http://u@h:8080/a%20b/v1//c%2Fd%25%3F%C3%A9" ∧
        Canonical.path request.uri.path.toText =
          Canonical.path ("/a%20b" ++ "/v1" ++ "//c%2Fd%25%3F%C3%A9") := by
  intro endpoint client
  have found : (Service.readEndpoint "http://u@h:8080/a%20b/").toOption = some endpoint := by
    decide +kernel
  have accepted : Service.readEndpoint "http://u@h:8080/a%20b/" = .ok client.endpoint :=
    Result.ok_of_toOption found
  have whole : ∀ element ∈ ["", "c/d%?é"], Url.IsWhole element := by decide
  have base : Url.basePath client.endpoint.path.toText = "/a%20b" := by decide +kernel
  have signed : String.join (["", "c/d%?é"].map (fun element =>
      "/" ++ Canonical.normalize element)) = "//c%2Fd%25%3F%C3%A9" := by
    decide +kernel
  have made : client.createRequest "GET" ["", "c/d%?é"] =
      .ok (requestBelow endpoint "GET" ["", "c/d%?é"]) := rfl
  obtain ⟨request, created, _, agrees, _⟩ := createRequest_agrees accepted "GET" whole
  rw [base, signed] at agrees
  rw [made] at created
  cases created
  exact ⟨accepted, _, made, by decide +kernel, agrees⟩

end Client

end SignedRest
