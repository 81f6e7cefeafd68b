/-
What a secret key makes a difference to. Two signatures of one request under the same access key and
token differ in their digests alone: the text that is signed, the scope of the key and every header
but the authorization are made without the secret.
-/

import SignedRest.Proofs.Digest.Hmac
import SignedRest.Proofs.Signing.Signature

namespace SignedRest.Signing

/-- Two outcomes of signing that only a digest tells apart. -/
structure Alike (first second : Signature × Request) : Prop where
  text : first.1.canonicalRequest = second.1.canonicalRequest
  answers : second.1 = { first.1 with
    authorization := second.1.authorization
    signature := second.1.signature }
  digests : Hmac.IsDigest first.1.signature ∧ Hmac.IsDigest second.1.signature
  authorizations : ∃ front, first.1.authorization = front ++ "/" ++ first.1.signature ∧
    second.1.authorization = front ++ "/" ++ second.1.signature
  carried : first.2.header? Header.authorization = some first.1.authorization ∧
    second.2.header? Header.authorization = some second.1.authorization
  requests : second.2 = first.2.setHeader Header.authorization second.1.authorization

section TwoSecrets

variable (request : Request) (options : SignOptions) (now later : Timestamp) (host : String)
  {first second : Credentials} {time : Timestamp}

theorem signatureFor_isDigest (credentials : Credentials) :
    Hmac.IsDigest (signatureFor request credentials options now host) :=
  Hmac.hexDigest_isDigest _ _

theorem timeText_fixed (fixed : options.timestamp = some time) :
    timeText options now = time.signingText := by
  rw [timeText, fixed, Option.getD_some]

/-! ### What is made without the secret -/

theorem preparedFor_congr (token : first.sessionToken = second.sessionToken)
    (fixed : options.timestamp = some time) :
    preparedFor request first options now host = preparedFor request second options later host := by
  rw [preparedFor_eq, preparedFor_eq, token, timeText_fixed options now fixed,
    timeText_fixed options later fixed]

theorem selectedFor_congr (token : first.sessionToken = second.sessionToken)
    (fixed : options.timestamp = some time) :
    selectedFor request first options now host = selectedFor request second options later host := by
  rw [selectedFor, selectedFor, preparedFor_congr request options now later host token fixed]

theorem canonicalFor_congr (token : first.sessionToken = second.sessionToken)
    (fixed : options.timestamp = some time) :
    canonicalFor request first options now host =
      canonicalFor request second options later host := by
  rw [canonicalFor, canonicalFor, preparedFor_congr request options now later host token fixed,
    selectedFor_congr request options now later host token fixed]

theorem scopeFor_fixed (credentials : Credentials) (fixed : options.timestamp = some time) :
    scopeFor credentials options now =
      scope credentials time.signingText options.expiration := by
  rw [scopeFor, timeText_fixed options now fixed]

theorem scopeFor_congr (access : first.accessKey = second.accessKey)
    (fixed : options.timestamp = some time) :
    scopeFor first options now = scopeFor second options later := by
  rw [scopeFor_fixed options now first fixed, scopeFor_fixed options later second fixed, scope,
    scope, access]

/-! ### The two outcomes -/

theorem answers_alike (access : first.accessKey = second.accessKey)
    (token : first.sessionToken = second.sessionToken) (fixed : options.timestamp = some time) :
    Alike
      (answerFor request first options now host, signedFor request first options now host)
      (answerFor request second options later host,
        signedFor request second options later host) := by
  have prepared := preparedFor_congr request options now later host token fixed
  have selected := selectedFor_congr request options now later host token fixed
  have canonical := canonicalFor_congr request options now later host token fixed
  have scopes := scopeFor_congr options now later access fixed
  have timed : timeText options now = timeText options later := by
    rw [timeText_fixed options now fixed, timeText_fixed options later fixed]
  refine
    { text := canonical
      answers := ?_
      digests := ⟨signatureFor_isDigest request options now host first,
        signatureFor_isDigest request options later host second⟩
      authorizations := ?_
      carried := ⟨signedFor_header?_authorization request first options now host,
        signedFor_header?_authorization request second options later host⟩
      requests := ?_ }
  · simp only [answerFor, selected, canonical, timed]
  · refine ⟨scopeFor first options now ++ "/" ++
      Text.joinText ";" (selectedFor request first options now host).keys, rfl, ?_⟩
    rw [scopes, selected]
    rfl
  · simp only [Request.setHeader, Header.toLower_known Header.authorization, signedFor_eq, prepared,
      answerFor, Table.insert_insert]

/-- Behind the signing key nothing is made of the secret. -/
theorem answers_eq_of_key (access : first.accessKey = second.accessKey)
    (token : first.sessionToken = second.sessionToken) (fixed : options.timestamp = some time)
    (keyed : Hmac.hexDigest first.secretKey (scope first time.signingText options.expiration) =
      Hmac.hexDigest second.secretKey (scope second time.signingText options.expiration)) :
    answerFor request first options now host = answerFor request second options later host ∧
      signedFor request first options now host =
        signedFor request second options later host := by
  have alike := answers_alike request options now later host access token fixed
  have digest : signatureFor request first options now host =
      signatureFor request second options later host := by
    rw [signatureFor, signatureFor, compute, compute, scopeFor_fixed options now first fixed,
      scopeFor_fixed options later second fixed, keyed,
      canonicalFor_congr request options now later host token fixed]
  have authorization : authorizationFor request first options now host =
      authorizationFor request second options later host := by
    rw [authorizationFor, authorizationFor, digest, scopeFor_congr options now later access fixed,
      selectedFor_congr request options now later host token fixed]
  constructor
  · have answers := alike.answers
    dsimp only at answers
    rw [answers]
    simp only [answerFor, digest, authorization]
  · rw [signedFor, signedFor, authorization,
      preparedFor_congr request options now later host token fixed]

end TwoSecrets

theorem describe_congr {first second : Credentials} (access : first.accessKey = second.accessKey)
    (present : first.sessionToken.isSome = second.sessionToken.isSome) :
    first.describe = second.describe := by
  unfold Credentials.describe
  rw [access]
  cases one : first.sessionToken with
  | none =>
      cases other : second.sessionToken with
      | none => rfl
      | some token =>
          rw [one, other] at present
          cases present
  | some token =>
      cases other : second.sessionToken with
      | none =>
          rw [one, other] at present
          cases present
      | some otherToken => rfl

/-- Whatever the request and the options, secrets show in nothing but the digest, and two of them
that make one signing key do not show at all. Logs do not tell them either. -/
theorem secret_only_in_digest :
    (∀ (request : Request) (first second : Credentials) (options : SignOptions)
        (time now later : Timestamp), first.accessKey = second.accessKey →
      first.sessionToken = second.sessionToken → options.timestamp = some time →
        (∃ cause, sign request first options now = .error cause ∧
          sign request second options later = .error cause) ∨
        ∃ one two, sign request first options now = .ok one ∧
          sign request second options later = .ok two ∧ Alike one two ∧
          (Hmac.hexDigest first.secretKey (scope first time.signingText options.expiration) =
              Hmac.hexDigest second.secretKey (scope second time.signingText options.expiration) →
            one = two)) ∧
    ∀ first second : Credentials, first.accessKey = second.accessKey →
      first.sessionToken.isSome = second.sessionToken.isSome →
        first.describe = second.describe := by
  constructor
  · intro request first second options time now later access token fixed
    cases hosted : hostHeader request.uri with
    | error cause =>
        left
        refine ⟨cause, ?_, ?_⟩
        · rw [sign_eq, hosted]
          rfl
        · rw [sign_eq, hosted]
          rfl
    | ok host =>
        right
        refine ⟨_, _, sign_of_host request first options now hosted,
          sign_of_host request second options later hosted,
          answers_alike request options now later host access token fixed, ?_⟩
        intro keyed
        obtain ⟨answer, signed⟩ :=
          answers_eq_of_key request options now later host access token fixed keyed
        rw [answer, signed]
  · intro first second access present
    exact describe_congr access present

/-- A request that already has an authorization, which the allow-list asks to be signed. -/
theorem secret_only_in_digest_authorized :
    let origin : Url := ⟨"http", some ⟨"", none, .name "h", none⟩, .segments [""], none, none⟩
    let request := (Request.make "GET" origin).setHeader "Authorization" "old"
    let first : Credentials :=
      ⟨"ak", "sk", some "token", by decide, by decide,
        fun _ same => Option.some.inj same ▸ by decide⟩
    let second : Credentials :=
      ⟨"ak", "other", some "token", by decide, by decide,
        fun _ same => Option.some.inj same ▸ by decide⟩
    let options : SignOptions :=
      { timestamp := some Timestamp.epoch, selection := .ofNames ["authorization", "host"] }
    (∃ one two, sign request first options Timestamp.epoch = .ok one ∧
      sign request second options Timestamp.epoch = .ok two ∧ Alike one two) ∧
      first.describe = second.describe := by
  intro origin request first second options
  obtain ⟨outcomes, described⟩ := secret_only_in_digest
  have hosted : hostHeader request.uri = .ok "h" := rfl
  refine ⟨?_, described first second rfl rfl⟩
  rcases outcomes request first second options Timestamp.epoch Timestamp.epoch Timestamp.epoch rfl
    rfl rfl with ⟨cause, failed, _⟩ | ⟨one, two, signed, other, alike, _⟩
  · rw [sign_of_host request first options Timestamp.epoch hosted] at failed
    cases failed
  · exact ⟨one, two, signed, other, alike⟩

end SignedRest.Signing
