/-
A signed request verifies from what is sent of it. The headers that arrive under the names told by
the authorization are those that were signed, and its scope gives the signing key; so the peer signs
the same text with the same key.
-/

import SignedRest.Proofs.Signing.Arrival
import SignedRest.Proofs.Signing.Signature
import SignedRest.Proofs.Time.Timestamp

namespace SignedRest.Signing

variable {request : Request} {authority : Url.Authority}

/-! ### The signed headers -/

variable (credentials : Credentials) (options : SignOptions) (now : Timestamp) (host : String)

theorem preparedFor_sound (sound : request.Sound) :
    (preparedFor request credentials options now host).Sound := by
  unfold preparedFor prepare
  cases credentials.sessionToken with
  | none => exact (sound.setHeader _ _).setHeader _ _
  | some token => exact ((sound.setHeader _ _).setHeader _ _).setHeader _ _

theorem signedFor_sound (sound : request.Sound) :
    (signedFor request credentials options now host).Sound :=
  (preparedFor_sound credentials options now host sound).setHeader _ _

theorem mem_keys_signedFor {name : String}
    (member : name ∈ (preparedFor request credentials options now host).headers.keys) :
    name ∈ (signedFor request credentials options now host).headers.keys := by
  rw [Table.mem_keys_iff] at member ⊢
  rw [signedFor_eq]
  dsimp only
  rw [Table.get?_insert]
  split
  · rfl
  · exact member

variable (request) in
/-- The signed request as its peer sees it. -/
def arrivalFor : Arrival :=
  ⟨(signedFor request credentials options now host).method,
    (signedFor request credentials options now host).url.toText,
    (signedFor request credentials options now host).headers.entries⟩

variable (request) in
/-- What the authorization of the signed request says. -/
def partsFor : Authorization :=
  ⟨(scopeFor credentials options now).toList,
    (Text.joinText ";" (selectedFor request credentials options now host).keys).toList,
    (signatureFor request credentials options now host).toList⟩

theorem names_partsFor :
    String.ofList (partsFor request credentials options now host).names =
      Text.joinText ";" (selectedFor request credentials options now host).keys := by
  rw [partsFor, String.ofList_toList]

theorem signature_partsFor :
    String.ofList (partsFor request credentials options now host).signature =
      signatureFor request credentials options now host := by
  rw [partsFor, String.ofList_toList]

theorem toList_authorizationFor :
    (authorizationFor request credentials options now host).toList =
      (scopeFor credentials options now).toList ++ '/' ::
        ((Text.joinText ";" (selectedFor request credentials options now host).keys).toList ++
          '/' :: (signatureFor request credentials options now host).toList) := by
  have slash : "/".toList = ['/'] := rfl
  simp only [authorizationFor, String.toList_append, List.append_assoc, slash, List.cons_append,
    List.nil_append]

theorem url_signedFor : (signedFor request credentials options now host).url = request.url := by
  rw [Request.url, Request.url, signedFor_uri, signedFor_parameters]

/-! ### Names that are sent -/

section Sendable

variable (sendable : ∀ field ∈ (signedFor request credentials options now host).headers.entries,
  Wire.isHeaderName field.1 = true)

include sendable

theorem selected_token {name : String}
    (member : name ∈ (selectedFor request credentials options now host).keys) :
    ∃ stored, Wire.isToken (Utf8.encodeText stored) = true ∧ name = stored.toLower := by
  obtain ⟨field, present, folds⟩ := Header.exists_of_mem_select member
  obtain ⟨other, sent, same⟩ := List.mem_map.mp
    (mem_keys_signedFor credentials options now host (List.mem_map_of_mem present))
  have token := Wire.isToken_of_isHeaderName (sendable other sent)
  rw [same] at token
  exact ⟨field.1, token, folds.symm.trans (Header.foldedName_token token)⟩

theorem mark_not_mem_selected {mark : Char} (low : mark.toNat < 65)
    (refused : Wire.isTokenByte (UInt8.ofNat mark.toNat) = false) :
    ∀ name ∈ (selectedFor request credentials options now host).keys, mark ∉ name.toList := by
  intro name member inside
  obtain ⟨stored, token, rfl⟩ := selected_token credentials options now host sendable member
  exact Wire.not_mem_token token refused (Text.mem_toLower low inside)

theorem selected_range {name : String}
    (member : name ∈ (selectedFor request credentials options now host).keys) :
    ∀ c ∈ name.toList, 0x20 ≤ c.toNat ∧ c.toNat < 0x7F := by
  intro c inside
  obtain ⟨stored, token, rfl⟩ := selected_token credentials options now host sendable member
  rw [Text.toList_toLower] at inside
  obtain ⟨written, present, rfl⟩ := List.mem_map.mp inside
  obtain ⟨least, most⟩ := Wire.token_range token present
  rw [Text.toNat_toLower]
  split <;> omega

theorem isHeaderValue_authorizationFor
    (printable : ∀ c ∈ (scopeFor credentials options now).toList,
      0x20 ≤ c.toNat ∧ c.toNat < 0x7F) :
    Wire.isHeaderValue (authorizationFor request credentials options now host) = true := by
  have single : ";".toList = [';'] := rfl
  apply Wire.isHeaderValue_of_range
  intro c member
  rw [toList_authorizationFor, Text.toList_joinText single] at member
  simp only [List.mem_append, List.mem_cons] at member
  rcases member with inScope | slash | inNames | slash | inSignature
  · exact printable c inScope
  · rw [slash]
    decide
  · rcases Text.mem_join inNames with mark | ⟨piece, present, inside⟩
    · rw [mark]
      decide
    · obtain ⟨name, selected, rfl⟩ := List.mem_map.mp present
      exact selected_range credentials options now host sendable selected c inside
  · rw [slash]
    decide
  · obtain ⟨least, most⟩ := hexDigest_range inSignature
    exact ⟨Nat.le_trans (by decide) least, most⟩

theorem slash_not_mem_names :
    '/' ∉ (Text.joinText ";" (selectedFor request credentials options now host).keys).toList := by
  have single : ";".toList = [';'] := rfl
  rw [Text.toList_joinText single]
  intro member
  rcases Text.mem_join member with same | ⟨piece, present, inside⟩
  · exact absurd same (by decide)
  · obtain ⟨name, selected, rfl⟩ := List.mem_map.mp present
    exact mark_not_mem_selected credentials options now host sendable (by decide) (by decide)
      name selected inside

theorem ofChars_authorizationFor :
    Authorization.ofChars (authorizationFor request credentials options now host).toList =
      partsFor request credentials options now host := by
  rw [toList_authorizationFor]
  exact ofChars_of_parts (slash_not_mem_names credentials options now host sendable)
    (slash_not_mem_hexDigest _ _)

theorem arrivalFor_authorization? :
    (arrivalFor request credentials options now host).authorization? =
      some (partsFor request credentials options now host) := by
  have stored := signedFor_header?_authorization request credentials options now host
  rw [Request.header?, Header.toLower_known Header.authorization] at stored
  obtain ⟨field, found, value⟩ := Option.map_eq_some_iff.mp stored
  unfold Arrival.authorization? arrivalFor
  dsimp only
  rw [found, Option.map_some, value,
    ofChars_authorizationFor credentials options now host sendable]

end Sendable

section Arriving

variable (sound : request.Sound)
  (sendable : ∀ field ∈ (signedFor request credentials options now host).headers.entries,
    Wire.isHeaderName field.1 = true)

include sound sendable

theorem sent_name {name : String}
    (member : name ∈ (signedFor request credentials options now host).headers.keys) :
    Wire.isToken (Utf8.encodeText name) = true ∧ Header.foldedName name = name := by
  obtain ⟨field, present, rfl⟩ := List.mem_map.mp member
  have token := Wire.isToken_of_isHeaderName (sendable field present)
  have lowered := (signedFor_sound credentials options now host sound).lowered field.1 member
  exact ⟨token, Header.foldedName_of_token token lowered⟩

/-- A header is selected under the very name that it has in the request. -/
theorem selected_name {name : String}
    (member : name ∈ (selectedFor request credentials options now host).keys) :
    name ∈ (preparedFor request credentials options now host).headers.keys ∧
      Wire.isToken (Utf8.encodeText name) = true ∧ Header.foldedName name = name := by
  obtain ⟨field, present, folds⟩ := Header.exists_of_mem_select member
  have stored : field.1 ∈ (preparedFor request credentials options now host).headers.keys :=
    List.mem_map_of_mem present
  have sent := sent_name credentials options now host sound sendable
    (mem_keys_signedFor credentials options now host stored)
  have same : field.1 = name := sent.2.symm.trans folds
  subst same
  exact ⟨stored, sent⟩

theorem authorization_not_selected (unauthorized : request.header? Header.authorization = none) :
    Header.authorization ∉ (selectedFor request credentials options now host).keys := by
  intro member
  have stored := (selected_name credentials options now host sound sendable member).1
  rw [Table.mem_keys_iff, preparedFor_get?_of_ne request credentials options now host
    (by decide) (by decide) (by decide)] at stored
  rw [Request.header?, Header.toLower_known Header.authorization] at unauthorized
  rw [unauthorized] at stored
  cases stored

theorem lastSigned?_empty :
    Header.lastSigned? "" (signedFor request credentials options now host).headers.entries =
      none := by
  rw [Option.eq_none_iff_forall_ne_some]
  intro value found
  obtain ⟨field, present, folds, _value⟩ := Header.lastSigned?_eq_some found
  have sent := sent_name credentials options now host sound sendable (List.mem_map_of_mem present)
  exact Wire.token_ne_empty sent.1 (sent.2.symm.trans folds)

/-- The names read back from an authorization choose the headers that were signed. No names at all
read back as one empty name, and no header has that. -/
theorem arrivalFor_selected (unauthorized : request.header? Header.authorization = none) :
    (arrivalFor request credentials options now host).selected
        (partsFor request credentials options now host) =
      selectedFor request credentials options now host := by
  have single : ";".toList = [';'] := rfl
  have clear : ∀ name ∈ (selectedFor request credentials options now host).keys,
      ';' ∉ name.toList :=
    mark_not_mem_selected credentials options now host sendable (by decide) (by decide)
  unfold Arrival.selected arrivalFor partsFor
  dsimp only
  rw [Text.split_joinText single clear]
  apply Table.ext_get?
  intro name
  rw [Header.select_get?]
  by_cases member : name ∈ (selectedFor request credentials options now host).keys
  · have folded := (selected_name credentials options now host sound sendable member).2.2
    have other : name ≠ Header.authorization := by
      intro same
      exact authorization_not_selected credentials options now host sound sendable unauthorized
        (same ▸ member)
    rw [if_neg (List.ne_nil_of_mem member), if_pos ((Header.wants_ofNames _ name).mpr
      ⟨name, member, folded⟩), selectedFor_get? request credentials options now host member other]
  · have absent : (selectedFor request credentials options now host).get? name = none := by
      rw [Table.mem_keys_iff, Bool.not_eq_true, Option.isSome_eq_false_iff,
        Option.isNone_iff_eq_none] at member
      exact member
    rw [absent, ite_eq_right_iff, Header.wants_ofNames]
    rintro ⟨given, listed, folds⟩
    split at listed
    · rw [List.mem_singleton.mp listed] at folds
      have empty : name = "" :=
        folds.symm.trans (Header.foldedName_eq_self (by decide) (Text.toLower_eq_self (by decide)))
      rw [empty]
      exact lastSigned?_empty credentials options now host sound sendable
    · have folded := (selected_name credentials options now host sound sendable listed).2.2
      exact absurd (folds.symm.trans folded ▸ listed) member

/-! ### What the peer signs -/

theorem arrivalFor_canonicalRequest (unauthorized : request.header? Header.authorization = none)
    (placed : request.uri.authority = some authority) :
    (arrivalFor request credentials options now host).canonicalRequest
        (partsFor request credentials options now host) =
      canonicalFor request credentials options now host := by
  have path : (arrivalFor request credentials options now host).path =
      request.uri.path.toText := by
    rw [arrivalFor, url_signedFor]
    exact arrival_path _ _ sound placed
  have parameters : (arrivalFor request credentials options now host).parameters.Perm
      request.parameters.entries := by
    rw [arrivalFor, url_signedFor]
    exact arrival_parameters _ _ sound placed
  rw [canonicalFor_eq, canonicalRequest, signedFor_uri, signedFor_parameters,
    Arrival.canonicalRequest, path, Canonical.signedQuery_of_perm parameters,
    arrivalFor_selected credentials options now host sound sendable unauthorized]
  rfl

theorem arrivalFor_expected (unauthorized : request.header? Header.authorization = none)
    (placed : request.uri.authority = some authority) :
    (arrivalFor request credentials options now host).expected credentials.secretKey
        (partsFor request credentials options now host) =
      signatureFor request credentials options now host := by
  rw [Arrival.expected, arrivalFor_canonicalRequest credentials options now host sound sendable
    unauthorized placed, signatureFor, compute, partsFor, String.ofList_toList]

end Arriving

theorem exists_authority (hosted : hostHeader request.uri = .ok host) :
    ∃ authority, request.uri.authority = some authority := by
  cases placed : request.uri.authority with
  | some authority => exact ⟨authority, rfl⟩
  | none =>
      rw [hostHeader, Url.hostText?, placed] at hosted
      cases hosted

/-! ### Requests without headers of their own -/

/-- With a printable access key, all of the scope is printable. -/
theorem printable_scopeFor
    (printable : ∀ c ∈ credentials.accessKey.toList, 0x20 ≤ c.toNat ∧ c.toNat < 0x7F) :
    ∀ c ∈ (scopeFor credentials options now).toList, 0x20 ≤ c.toNat ∧ c.toNat < 0x7F := by
  have dated : ∀ c ∈ (timeText options now).toList, 0x20 ≤ c.toNat ∧ c.toNat < 0x7F :=
    fun _ member => (Timestamp.mem_signingText member).printable
  have counted : ∀ c ∈ (toString options.expiration).toList, 0x20 ≤ c.toNat ∧ c.toNat < 0x7F := by
    intro c member
    rw [Nat.toString_eq_ofList_toDigits, String.toList_ofList] at member
    have digit := Number.isDigit_of_mem_toDigits member
    omega
  rw [toList_scopeFor]
  simp only [List.forall_mem_append, List.forall_mem_cons]
  exact ⟨Wire.printable_of_all (by decide), by decide, printable, by decide, dated, by decide,
    counted⟩

/-- Where the request brought no headers, all that is sent is what signing wrote. -/
theorem headerMap_bare (request : Request) (bare : request.headers = Table.empty)
    (credentials : Credentials) (tokenless : credentials.sessionToken = none)
    (printable : ∀ c ∈ credentials.accessKey.toList, 0x20 ≤ c.toNat ∧ c.toNat < 0x7F)
    (options : SignOptions) (now : Timestamp) (host : String)
    (named : Wire.isHeaderValue host = true) :
    Wire.headerMap (signedFor request credentials options now host).headers.entries =
      some (.ok (signedFor request credentials options now host).headers) := by
  have entries : (signedFor request credentials options now host).headers.entries =
      [(Header.authorization, authorizationFor request credentials options now host),
        (Header.host, host), (Header.signingDate, timeText options now)] := by
    rw [signedFor_eq, preparedFor_eq, tokenless, bare]
    rfl
  have lowered : ∀ name ∈ (signedFor request credentials options now host).headers.keys,
      name.toLower = name := by
    rw [Table.keys, entries]
    simp only [List.map_cons, List.map_nil, List.forall_mem_cons]
    exact ⟨Header.toLower_known _, Header.toLower_known _, Header.toLower_known _,
      List.forall_mem_nil _⟩
  have sendable : ∀ field ∈ (signedFor request credentials options now host).headers.entries,
      Wire.isHeaderName field.1 = true := by
    rw [entries]
    simp only [List.forall_mem_cons]
    exact ⟨by decide, by decide, by decide, List.forall_mem_nil _⟩
  have authorized := isHeaderValue_authorizationFor credentials options now host sendable
    (printable_scopeFor credentials options now printable)
  have dated : Wire.isHeaderValue (timeText options now) = true :=
    Wire.isHeaderValue_of_range (fun _ member => (Timestamp.mem_signingText member).printable)
  refine (Wire.headerMap_entries_eq_ok_iff lowered _).mpr ⟨?_, ?_, rfl⟩
  · rw [entries]
    exact (by decide : 3 ≤ Wire.greatestHeaderCount)
  · intro field present
    refine ⟨sendable field present, ?_⟩
    rw [entries] at present
    simp only [List.mem_cons, List.not_mem_nil, or_false] at present
    rcases present with rfl | rfl | rfl
    · exact authorized
    · exact named
    · exact dated

/-! ### Verification -/

/-- A peer sees the method, the address and the headers that were handed over, and holds the secret
key. The authorization tells it the scope, the names of the signed headers and the signature. From
these it comes to the text that was signed, and the code of that text, under the code of the scope,
is the signature. -/
theorem arrival_verifies {request : Request} (built : request.Built)
    (unauthorized : request.header? Header.authorization = none) (credentials : Credentials)
    (options : SignOptions) (now : Timestamp) {signature : Signature} {signed : Request}
    {map : Fields}
    (signs : sign request credentials options now = .ok (signature, signed))
    (sent : Wire.headerMap signed.headers.entries = some (.ok map)) :
    let arrival : Arrival := ⟨signed.method, signed.url.toText, map.entries⟩
    ∃ authorization,
      arrival.authorization? = some authorization ∧
      String.ofList authorization.names = Text.joinText ";" signature.signedHeaders ∧
      String.ofList authorization.signature = signature.signature ∧
      arrival.canonicalRequest authorization = signature.canonicalRequest ∧
      Hmac.hexDigest (Hmac.hexDigest credentials.secretKey (String.ofList authorization.scope))
        (arrival.canonicalRequest authorization) = signature.signature ∧
      arrival.verifies credentials.secretKey = true := by
  intro arrival
  obtain ⟨host, hosted, rfl, rfl⟩ := sign_eq_ok_iff.mp signs
  obtain ⟨_few, valid, rfl⟩ := (Wire.headerMap_entries_eq_ok_iff
    (signedFor_sound credentials options now host built.sound).lowered map).mp sent
  obtain ⟨authority, placed⟩ := exists_authority host hosted
  have sendable : ∀ field ∈ (signedFor request credentials options now host).headers.entries,
      Wire.isHeaderName field.1 = true := fun field present => (valid field present).1
  have told := arrivalFor_authorization? credentials options now host sendable
  have canonical := arrivalFor_canonicalRequest credentials options now host built.sound sendable
    unauthorized placed
  have expected := arrivalFor_expected credentials options now host built.sound sendable
    unauthorized placed
  have seen : arrival = arrivalFor request credentials options now host := rfl
  rw [seen]
  refine ⟨partsFor request credentials options now host, told, names_partsFor _ _ _ _,
    signature_partsFor _ _ _ _, canonical, expected, ?_⟩
  rw [Arrival.verifies, told, Option.any_some, decide_eq_true_eq, expected, signature_partsFor]

/-- A parameter whose key and value hold the marks of a query. -/
def queried (uri : Url) : Request :=
  (Request.make "get" uri).addParameter "a b" "1&2=/%"

theorem arrival_verifies_queried :
    let credentials : Credentials :=
      ⟨"ak", "sk", none, by decide, by decide, fun _ absent => nomatch absent⟩
    ∃ uri, Url.ofText "http://h/a%20b" = .ok uri ∧ (queried uri).Built ∧
      (queried uri).header? Header.authorization = none ∧
      ∃ signature signed map,
        sign (queried uri) credentials {} Timestamp.epoch = .ok (signature, signed) ∧
        Wire.headerMap signed.headers.entries = some (.ok map) ∧
        Arrival.verifies ⟨signed.method, signed.url.toText, map.entries⟩ credentials.secretKey =
          true := by
  intro credentials
  let uri : Url := ⟨"http", some ⟨"", none, .name "h", none⟩, .segments ["a%20b"], none, none⟩
  have read : Url.ofText "http://h/a%20b" = .ok uri := Result.ok_of_toOption (by decide +kernel)
  have built : (queried uri).Built := (Request.Built.make "get" (.read read)).addParameter _ _
  have unauthorized : (queried uri).header? Header.authorization = none := by
    rw [Request.header?, Header.toLower_known Header.authorization]
    rfl
  have hosted : hostHeader (queried uri).uri = .ok "h" := rfl
  have signs := sign_of_host (queried uri) credentials {} Timestamp.epoch hosted
  have printable : ∀ c ∈ credentials.accessKey.toList, 0x20 ≤ c.toNat ∧ c.toNat < 0x7F :=
    Wire.printable_of_all (by decide)
  have sent := headerMap_bare (queried uri) rfl credentials rfl printable {} Timestamp.epoch "h"
    (by decide)
  obtain ⟨_authorization, _told, _names, _signature, _canonical, _expected, verified⟩ :=
    arrival_verifies built unauthorized credentials {} Timestamp.epoch signs sent
  exact ⟨uri, read, built, unauthorized, _, _, _, signs, sent, verified⟩

end SignedRest.Signing
