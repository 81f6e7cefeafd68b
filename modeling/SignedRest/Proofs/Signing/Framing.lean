/-
The fields of an authorization. Neither the time nor the names nor the digest has a slash, so what
slashes divide it into are its fields, as long as the access key has none; a key that has some is
divided as well, and takes one field more for each.
-/

import SignedRest.Proofs.Signing.Verification

namespace SignedRest.Signing

/-- The names that a field lists. An empty field lists none. -/
def namesOf (field : String) : List String :=
  if field.isEmpty then [] else Text.splitText ';' field

/-- What slashes divide the authorization of a signed request into. The time is also sent on its own,
and the last field but one lists the signed headers. -/
structure Divides (credentials : Credentials) (options : SignOptions) (signature : Signature)
    (signed : Request) (names : String) : Prop where
  carried : signed.header? Header.authorization = some signature.authorization
  fields : Text.splitText '/' signature.authorization =
    version :: Text.splitText '/' credentials.accessKey ++
      [signature.timestamp, toString options.expiration, names, signature.signature]
  plain : '/' ∉ credentials.accessKey.toList →
    Text.splitText '/' signature.authorization =
      [version, credentials.accessKey, signature.timestamp, toString options.expiration, names,
        signature.signature]
  count : (Text.splitText '/' signature.authorization).length =
    6 + credentials.accessKey.toList.count '/'
  dated : signed.header? Header.signingDate = some signature.timestamp
  listed : namesOf names = signature.signedHeaders
  ordered : signature.signedHeaders.Pairwise (· < ·)
  lowered : ∀ name ∈ signature.signedHeaders, name.toLower = name
  digest : Hmac.IsDigest signature.signature

/-! ### The names -/

/-- Names that are not empty, and do not hold the mark between them, are read back. -/
theorem namesOf_joinText {names : List String} (filled : ∀ name ∈ names, name ≠ "")
    (clear : ∀ name ∈ names, ';' ∉ name.toList) :
    namesOf (Text.joinText ";" names) = names := by
  have single : ";".toList = [';'] := rfl
  have pieces : ∀ piece ∈ names.map String.toList, piece ≠ [] := by
    intro piece member
    obtain ⟨name, present, rfl⟩ := List.mem_map.mp member
    exact mt String.toList_eq_nil_iff.mp (filled name present)
  have empty : (Text.joinText ";" names).isEmpty = true ↔ names = [] := by
    rw [String.isEmpty_iff, ← String.toList_eq_nil_iff, Text.toList_joinText single,
      Text.join_eq_nil_iff pieces, List.map_eq_nil_iff]
  rw [namesOf]
  split
  · rename_i unnamed
    exact (empty.mp unnamed).symm
  · rename_i named
    rw [Text.splitText, Text.split_joinText single clear, if_neg (mt empty.mpr named)]

/-! ### The fields -/

variable {request : Request} (credentials : Credentials) (options : SignOptions) (now : Timestamp)
  (host : String)

theorem slash_not_mem_timeText : '/' ∉ (timeText options now).toList := by
  intro member
  rcases Timestamp.mem_signingText member with digit | mark
  · exact absurd digit (by decide)
  · exact absurd mark (by decide)

theorem split_scopeFor :
    Text.split '/' (scopeFor credentials options now).toList =
      version.toList :: Text.split '/' credentials.accessKey.toList ++
        [(timeText options now).toList, (toString options.expiration).toList] := by
  have prefixed : '/' ∉ version.toList := by decide
  have counted := Url.not_mem_toString (by decide : '/' ∈ Url.delimiters) options.expiration
  rw [toList_scopeFor, Text.split_append_cons prefixed, Text.split_append,
    Text.split_append_cons (slash_not_mem_timeText options now), Text.split_of_not_mem counted,
    List.cons_append]

section Sent

variable (sendable : ∀ field ∈ (signedFor request credentials options now host).headers.entries,
  Wire.isHeaderName field.1 = true)

include sendable

theorem splitText_authorizationFor :
    Text.splitText '/' (authorizationFor request credentials options now host) =
      version :: Text.splitText '/' credentials.accessKey ++
        [timeText options now, toString options.expiration,
          Text.joinText ";" (selectedFor request credentials options now host).keys,
          signatureFor request credentials options now host] := by
  have names := slash_not_mem_names credentials options now host sendable
  have digest : '/' ∉ (signatureFor request credentials options now host).toList :=
    slash_not_mem_hexDigest _ _
  rw [Text.splitText, toList_authorizationFor, Text.split_append, split_scopeFor,
    Text.split_append_cons names, Text.split_of_not_mem digest, Text.splitText]
  simp only [List.map_append, List.map_cons, List.map_nil, String.ofList_toList, List.append_assoc,
    List.cons_append, List.nil_append]

theorem namesOf_selected :
    namesOf (Text.joinText ";" (selectedFor request credentials options now host).keys) =
      (selectedFor request credentials options now host).keys := by
  apply namesOf_joinText
  · intro name member empty
    obtain ⟨stored, token, rfl⟩ := selected_token credentials options now host sendable member
    rw [← String.toList_eq_nil_iff, Text.toList_toLower, List.map_eq_nil_iff,
      String.toList_eq_nil_iff] at empty
    exact Wire.token_ne_empty token empty
  · exact mark_not_mem_selected credentials options now host sendable (by decide) (by decide)

theorem divides_answerFor :
    Divides credentials options (answerFor request credentials options now host)
      (signedFor request credentials options now host)
      (Text.joinText ";" (selectedFor request credentials options now host).keys) := by
  have fields := splitText_authorizationFor credentials options now host sendable
  refine
    { carried := signedFor_header?_authorization request credentials options now host
      fields := fields
      plain := ?_
      count := ?_
      dated := signedFor_header?_signingDate request credentials options now host
      listed := namesOf_selected credentials options now host sendable
      ordered := Table.keys_sorted _
      lowered := ?_
      digest := Hmac.hexDigest_isDigest _ _ }
  · intro clear
    have key : Text.splitText '/' credentials.accessKey = [credentials.accessKey] := by
      rw [Text.splitText, Text.split_of_not_mem clear, List.map_singleton, String.ofList_toList]
    rw [key] at fields
    exact fields
  · have pieces : (Text.splitText '/' credentials.accessKey).length =
        credentials.accessKey.toList.count '/' + 1 := by
      rw [Text.splitText, List.length_map, Text.length_split]
    rw [answerFor, fields, List.length_append, List.length_cons, pieces]
    simp only [List.length_cons, List.length_nil]
    omega
  · intro name member
    obtain ⟨stored, _token, rfl⟩ := selected_token credentials options now host sendable member
    exact Text.toLower_toLower stored

end Sent

/-- Slashes divide the authorization of a request that can be sent into its fields, and the access
key at its own slashes. -/
theorem authorization_fields {request : Request} {credentials : Credentials}
    {options : SignOptions} {now : Timestamp} {signature : Signature} {signed : Request}
    {map : Fields} (signs : sign request credentials options now = .ok (signature, signed))
    (sent : Wire.headerMap signed.headers.entries = some (.ok map)) :
    ∃ names, Divides credentials options signature signed names := by
  obtain ⟨host, _hosted, rfl, rfl⟩ := sign_eq_ok_iff.mp signs
  obtain ⟨_few, valid, _map⟩ := (Wire.headerMap_eq_ok_iff _ _).mp sent
  exact ⟨_, divides_answerFor credentials options now host
    (fun field present => (valid field present).1)⟩

/-- An access key with a slash, and no header signed. -/
theorem authorization_fields_slashed :
    let origin : Url := ⟨"http", some ⟨"", none, .name "h", none⟩, .segments [""], none, none⟩
    let credentials : Credentials :=
      ⟨"a/b", "sk", none, by decide, by decide, fun _ absent => nomatch absent⟩
    let options : SignOptions :=
      { timestamp := some Timestamp.epoch, expiration := 60, selection := .ofNames [] }
    ∃ signature signed map names,
      sign (Request.make "GET" origin) credentials options Timestamp.epoch =
        .ok (signature, signed) ∧
      Wire.headerMap signed.headers.entries = some (.ok map) ∧
      Divides credentials options signature signed names := by
  intro origin credentials options
  have hosted : hostHeader (Request.make "GET" origin).uri = .ok "h" := rfl
  have signs := sign_of_host _ credentials options Timestamp.epoch hosted
  have sent := headerMap_bare (Request.make "GET" origin) rfl credentials rfl
    (Wire.printable_of_all (by decide)) options Timestamp.epoch "h" (by decide)
  obtain ⟨names, divides⟩ := authorization_fields signs sent
  exact ⟨_, _, _, names, signs, sent, divides⟩

/-- Six fields are too few for some access keys. -/
theorem authorization_not_always_six :
    ¬ ∀ (request : Request) (credentials : Credentials) (options : SignOptions) (now : Timestamp)
        (signature : Signature) (signed : Request) (map : Fields),
      sign request credentials options now = .ok (signature, signed) →
      Wire.headerMap signed.headers.entries = some (.ok map) →
        (Text.splitText '/' signature.authorization).length = 6 := by
  intro always
  let origin : Url := ⟨"http", some ⟨"", none, .name "h", none⟩, .segments [""], none, none⟩
  let credentials : Credentials :=
    ⟨"a/b", "sk", none, by decide, by decide, fun _ absent => nomatch absent⟩
  have hosted : hostHeader (Request.make "GET" origin).uri = .ok "h" := rfl
  have signs := sign_of_host _ credentials {} Timestamp.epoch hosted
  have sent := headerMap_bare (Request.make "GET" origin) rfl credentials rfl
    (Wire.printable_of_all (by decide)) {} Timestamp.epoch "h" (by decide)
  have six := always _ credentials {} Timestamp.epoch _ _ _ signs sent
  obtain ⟨_few, valid, _map⟩ := (Wire.headerMap_eq_ok_iff _ _).mp sent
  have count := (divides_answerFor credentials {} Timestamp.epoch "h"
    (fun field present => (valid field present).1)).count
  have single : credentials.accessKey.toList.count '/' = 1 := by decide
  omega

end SignedRest.Signing
