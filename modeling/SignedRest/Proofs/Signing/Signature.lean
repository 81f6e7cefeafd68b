/-
What signing answers, once the host is known. Beside the headers that it writes, signing leaves the
request as it is.
-/

import SignedRest.Proofs.Header
import SignedRest.Proofs.Result
import SignedRest.Signing.Signature

namespace SignedRest.Signing

variable (request : Request) (credentials : Credentials) (options : SignOptions) (now : Timestamp)
  (host : String)

def timeText : String :=
  (options.timestamp.getD now).signingText

/-- The request whose headers are selected. -/
def preparedFor : Request :=
  prepare request credentials host (timeText options now)

def selectedFor : Fields :=
  Header.select options.selection (preparedFor request credentials options now host).headers.entries

def canonicalFor : String :=
  canonicalRequest (preparedFor request credentials options now host)
    (selectedFor request credentials options now host)

def scopeFor : String :=
  scope credentials (timeText options now) options.expiration

def signatureFor : String :=
  compute credentials.secretKey (scopeFor credentials options now)
    (canonicalFor request credentials options now host)

def authorizationFor : String :=
  scopeFor credentials options now ++ "/" ++
    Text.joinText ";" (selectedFor request credentials options now host).keys ++ "/" ++
    signatureFor request credentials options now host

def signedFor : Request :=
  (preparedFor request credentials options now host).setHeader Header.authorization
    (authorizationFor request credentials options now host)

def answerFor : Signature :=
  { authorization := authorizationFor request credentials options now host
    signature := signatureFor request credentials options now host
    signedHeaders := (selectedFor request credentials options now host).keys
    timestamp := timeText options now
    expiration := options.expiration
    canonicalRequest := canonicalFor request credentials options now host }

theorem sign_eq :
    sign request credentials options now =
      (hostHeader request.uri).map (fun host =>
        (answerFor request credentials options now host,
          signedFor request credentials options now host)) := by
  unfold sign
  cases hostHeader request.uri with
  | error cause => rfl
  | ok host => rfl

variable {request credentials options now} in
theorem sign_eq_ok_iff {signature : Signature} {signed : Request} :
    sign request credentials options now = .ok (signature, signed) ↔
      ∃ host, hostHeader request.uri = .ok host ∧
        signature = answerFor request credentials options now host ∧
        signed = signedFor request credentials options now host := by
  rw [sign_eq, Result.map_eq_ok_iff]
  simp only [Prod.mk.injEq, eq_comm]

theorem sign_of_host {host : String} (hosted : hostHeader request.uri = .ok host) :
    sign request credentials options now =
      .ok (answerFor request credentials options now host,
        signedFor request credentials options now host) :=
  sign_eq_ok_iff.mpr ⟨host, hosted, rfl, rfl⟩

theorem toList_scopeFor :
    (scopeFor credentials options now).toList =
      version.toList ++ '/' :: (credentials.accessKey.toList ++ '/' ::
        ((timeText options now).toList ++ '/' :: (toString options.expiration).toList)) := by
  have slash : "/".toList = ['/'] := rfl
  simp only [scopeFor, scope, String.toList_append, List.append_assoc, slash, List.cons_append,
    List.nil_append]

/-! ### The headers that are written -/

theorem signedFor_eq :
    signedFor request credentials options now host =
      { preparedFor request credentials options now host with
        headers := (preparedFor request credentials options now host).headers.insert
          Header.authorization (authorizationFor request credentials options now host) } := by
  rw [signedFor, Request.setHeader, Header.toLower_known Header.authorization]

/-- The authorization is no part of the text that is signed. -/
theorem canonicalFor_eq :
    canonicalFor request credentials options now host =
      canonicalRequest (signedFor request credentials options now host)
        (selectedFor request credentials options now host) := by
  rw [signedFor_eq, canonicalFor, canonicalRequest, canonicalRequest]

/-- Nothing but headers is written before the selection. -/
theorem preparedFor_eq :
    preparedFor request credentials options now host =
      { request with
        headers := (match credentials.sessionToken with
          | none => request.headers.insert Header.host host
          | some token =>
              (request.headers.insert Header.host host).insert Header.securityToken token).insert
          Header.signingDate (timeText options now) } := by
  unfold preparedFor prepare
  cases credentials.sessionToken with
  | none =>
      simp only [Request.setHeader, Header.toLower_known Header.host,
        Header.toLower_known Header.signingDate]
  | some token =>
      simp only [Request.setHeader, Header.toLower_known Header.host,
        Header.toLower_known Header.securityToken, Header.toLower_known Header.signingDate]

/-- Signing leaves all but the headers alone. -/
theorem signedFor_headers :
    signedFor request credentials options now host =
      { request with
        headers := (preparedFor request credentials options now host).headers.insert
          Header.authorization (authorizationFor request credentials options now host) } := by
  rw [signedFor_eq, preparedFor_eq]

theorem signedFor_uri :
    (signedFor request credentials options now host).uri = request.uri := by
  rw [signedFor_headers]

theorem signedFor_parameters :
    (signedFor request credentials options now host).parameters = request.parameters := by
  rw [signedFor_headers]

/-- The value that a header gets before the headers are selected. -/
def written? (credentials : Credentials) (host timestamp name : String) : Option String :=
  if name = Header.signingDate then some timestamp
  else if name = Header.securityToken then credentials.sessionToken
  else if name = Header.host then some host
  else none

theorem preparedFor_get? (name : String) :
    (preparedFor request credentials options now host).headers.get? name =
      (written? credentials host (timeText options now) name).or (request.headers.get? name) := by
  have apart : Header.host ≠ Header.securityToken := by decide
  rw [preparedFor_eq, written?]
  dsimp only
  rw [Table.get?_insert]
  by_cases dated : name = Header.signingDate
  · rw [if_pos dated, if_pos dated, Option.some_or]
  rw [if_neg dated, if_neg dated]
  cases credentials.sessionToken with
  | none =>
      dsimp only
      rw [Table.get?_insert]
      by_cases hosted : name = Header.host
      · rw [if_pos hosted, if_pos hosted, if_neg (hosted ▸ apart), Option.some_or]
      · rw [if_neg hosted, if_neg hosted, ite_self, Option.none_or]
  | some token =>
      dsimp only
      rw [Table.get?_insert, Table.get?_insert]
      by_cases tokened : name = Header.securityToken
      · rw [if_pos tokened, if_pos tokened, Option.some_or]
      rw [if_neg tokened, if_neg tokened]
      by_cases hosted : name = Header.host
      · rw [if_pos hosted, if_pos hosted, Option.some_or]
      · rw [if_neg hosted, if_neg hosted, Option.none_or]

theorem preparedFor_get?_of_ne {name : String} (notHost : name ≠ Header.host)
    (notToken : name ≠ Header.securityToken) (notDate : name ≠ Header.signingDate) :
    (preparedFor request credentials options now host).headers.get? name =
      request.headers.get? name := by
  rw [preparedFor_get?, written?, if_neg notDate, if_neg notToken, if_neg notHost, Option.none_or]

theorem signedFor_get?_of_ne {name : String} (other : name ≠ Header.authorization) :
    (signedFor request credentials options now host).headers.get? name =
      (written? credentials host (timeText options now) name).or (request.headers.get? name) := by
  rw [signedFor_eq, ← preparedFor_get?]
  exact Table.get?_insert_of_ne _ _ other

/-- The header of the host is the one that signing wrote. -/
theorem signedFor_header?_host :
    (signedFor request credentials options now host).header? Header.host = some host := by
  rw [Request.header?, Header.toLower_known Header.host,
    signedFor_get?_of_ne _ _ _ _ _ (by decide), written?, if_neg (by decide), if_neg (by decide),
    if_pos rfl, Option.some_or]

theorem signedFor_header?_signingDate :
    (signedFor request credentials options now host).header? Header.signingDate =
      some (timeText options now) := by
  rw [Request.header?, Header.toLower_known Header.signingDate,
    signedFor_get?_of_ne _ _ _ _ _ (by decide), written?, if_pos rfl, Option.some_or]

theorem signedFor_header?_authorization :
    (signedFor request credentials options now host).header? Header.authorization =
      some (authorizationFor request credentials options now host) := by
  rw [Request.header?, Header.toLower_known Header.authorization, signedFor_eq]
  exact Table.get?_insert_self _ _ _

/-! ### An authorization among the signed headers -/

theorem ne_of_folds_to_authorization {name written : String} (known : written ∈ Header.knownNames)
    (apart : written ≠ Header.authorization)
    (folds : Header.foldedName name = Header.authorization) : name ≠ written := by
  intro same
  rw [same, Header.foldedName_known written known] at folds
  exact apart folds

theorem exists_of_authorization_selected (host : String)
    (member : Header.authorization ∈ (selectedFor request credentials options now host).keys) :
    ∃ field ∈ request.headers.entries, Header.foldedName field.1 = Header.authorization := by
  obtain ⟨field, present, folds⟩ := Header.exists_of_mem_select member
  refine ⟨field, ?_, folds⟩
  have stored := (Table.get?_eq_some_iff _ field.1 field.2).mpr present
  rw [preparedFor_get?_of_ne request credentials options now host
    (ne_of_folds_to_authorization (by decide) (by decide) folds)
    (ne_of_folds_to_authorization (by decide) (by decide) folds)
    (ne_of_folds_to_authorization (by decide) (by decide) folds)] at stored
  exact (Table.get?_eq_some_iff _ field.1 field.2).mp stored

/-! ### Selected values -/

theorem lastSigned?_signedFor (host : String) {name : String}
    (other : name ≠ Header.authorization) :
    Header.lastSigned? name (signedFor request credentials options now host).headers.entries =
      Header.lastSigned? name
        (preparedFor request credentials options now host).headers.entries := by
  rw [signedFor_eq]
  apply Header.lastSigned?_insert
  rw [Header.foldedName_known Header.authorization]
  exact Ne.symm other

theorem selectedFor_get? (host : String) {name : String}
    (member : name ∈ (selectedFor request credentials options now host).keys)
    (other : name ≠ Header.authorization) :
    (selectedFor request credentials options now host).get? name =
      Header.lastSigned? name
        (signedFor request credentials options now host).headers.entries := by
  rw [lastSigned?_signedFor request credentials options now host other]
  exact Header.select_get?_of_mem member

end SignedRest.Signing
