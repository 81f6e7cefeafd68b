/-
Signing again. A signing writes every header that an earlier one has written, as long as it has a
token where the earlier one had, and it does not read the authorization; so nothing of the earlier
signature is left, and a request that is signed many times ends as if it had been signed once.
-/

import SignedRest.Proofs.Signing.Signature

namespace SignedRest.Signing

/-! ### What is left of an earlier signature -/

/-- What is not written with a token is not written without one either. -/
theorem written?_eq_none {first second : Credentials}
    (kept : first.sessionToken.isSome = true → second.sessionToken.isSome = true)
    {host earlier timestamp name : String} (absent : written? second host timestamp name = none) :
    written? first host earlier name = none := by
  unfold written? at absent ⊢
  by_cases dated : name = Header.signingDate
  · rw [if_pos dated] at absent
    cases absent
  rw [if_neg dated] at absent ⊢
  by_cases tokened : name = Header.securityToken
  · rw [if_pos tokened] at absent ⊢
    cases held : first.sessionToken with
    | none => rfl
    | some token =>
        rw [held, absent] at kept
        exact absurd (kept rfl) Bool.false_ne_true
  rw [if_neg tokened] at absent ⊢
  by_cases hosted : name = Header.host
  · rw [if_pos hosted] at absent
    cases absent
  · exact if_neg hosted

section Again

variable (request : Request) (earlier options : SignOptions) (before now : Timestamp)
  (host : String) {first second : Credentials}
  (kept : first.sessionToken.isSome = true → second.sessionToken.isSome = true)

include kept

/-- The authorization apart, a request is prepared as if it had not been signed before. -/
theorem preparedFor_signedFor_get? {name : String} (other : name ≠ Header.authorization) :
    (preparedFor (signedFor request first earlier before host) second options now host).headers.get?
        name =
      (preparedFor request second options now host).headers.get? name := by
  rw [preparedFor_get?, preparedFor_get?, signedFor_get?_of_ne _ _ _ _ _ other]
  cases rewritten : written? second host (timeText options now) name with
  | some value => rw [Option.some_or, Option.some_or]
  | none => rw [written?_eq_none kept rewritten, Option.none_or]

/-- An authorization that is written next makes up for the one difference. -/
theorem preparedFor_signedFor (authorization : String) :
    (preparedFor (signedFor request first earlier before host) second options now
        host).headers.insert Header.authorization authorization =
      (preparedFor request second options now host).headers.insert Header.authorization
        authorization := by
  apply Table.ext_get?
  intro name
  rw [Table.get?_insert, Table.get?_insert]
  split
  · rfl
  · rename_i other
    exact preparedFor_signedFor_get? request earlier options before now host kept other

variable (unnamed : options.selection.wants Header.authorization = false)

include unnamed

theorem selectedFor_signedFor :
    selectedFor (signedFor request first earlier before host) second options now host =
      selectedFor request second options now host := by
  have ignored := Header.select_insert_of_unwanted
    (Header.foldedName_known Header.authorization) unnamed
  rw [selectedFor, ← ignored _ "", preparedFor_signedFor request earlier options before now host kept,
    ignored, selectedFor]

theorem canonicalFor_signedFor :
    canonicalFor (signedFor request first earlier before host) second options now host =
      canonicalFor request second options now host := by
  rw [canonicalFor, canonicalFor,
    selectedFor_signedFor request earlier options before now host kept unnamed]
  simp only [canonicalRequest, preparedFor_eq, signedFor_eq]

theorem authorizationFor_signedFor :
    authorizationFor (signedFor request first earlier before host) second options now host =
      authorizationFor request second options now host := by
  rw [authorizationFor, authorizationFor, signatureFor, signatureFor,
    selectedFor_signedFor request earlier options before now host kept unnamed,
    canonicalFor_signedFor request earlier options before now host kept unnamed]

theorem answerFor_signedFor :
    answerFor (signedFor request first earlier before host) second options now host =
      answerFor request second options now host := by
  rw [answerFor, answerFor, signatureFor, signatureFor,
    selectedFor_signedFor request earlier options before now host kept unnamed,
    canonicalFor_signedFor request earlier options before now host kept unnamed,
    authorizationFor_signedFor request earlier options before now host kept unnamed]

theorem signedFor_signedFor :
    signedFor (signedFor request first earlier before host) second options now host =
      signedFor request second options now host := by
  rw [signedFor_headers, signedFor_headers request second,
    authorizationFor_signedFor request earlier options before now host kept unnamed,
    preparedFor_signedFor request earlier options before now host kept,
    signedFor_headers request first]

/-- A signed request is signed as it would have been before. -/
theorem sign_signedFor (hosted : hostHeader request.uri = .ok host) :
    sign (signedFor request first earlier before host) second options now =
      sign request second options now := by
  have rehosted : hostHeader (signedFor request first earlier before host).uri = .ok host := by
    rw [signedFor_uri, hosted]
  rw [sign_of_host _ second options now rehosted, sign_of_host _ second options now hosted,
    answerFor_signedFor request earlier options before now host kept unnamed,
    signedFor_signedFor request earlier options before now host kept unnamed]

end Again

/-- Options that name a time tell all that is needed of the present. -/
theorem sign_fixed (request : Request) (credentials : Credentials) {options : SignOptions}
    {time : Timestamp} (fixed : options.timestamp = some time) (now later : Timestamp) :
    sign request credentials options now = sign request credentials options later := by
  unfold sign
  rw [fixed, Option.getD_some, Option.getD_some]

theorem sign_sign {first second : Credentials}
    (kept : first.sessionToken.isSome = true → second.sessionToken.isSome = true)
    (request : Request) (earlier : SignOptions) {options : SignOptions}
    (unnamed : options.selection.wants Header.authorization = false) (before now : Timestamp) :
    (sign request first earlier before >>= fun answer => sign answer.2 second options now) =
      sign request second options now := by
  cases hosted : hostHeader request.uri with
  | error cause =>
      rw [sign_eq, sign_eq, hosted]
      rfl
  | ok host =>
      rw [sign_of_host request first earlier before hosted]
      exact sign_signedFor request earlier options before now host kept unnamed hosted

/-! ### Signing many times -/

/-- By whom, how and when a request is signed. -/
structure Occasion where
  credentials : Credentials
  options : SignOptions
  now : Timestamp

/-- The signatures of one request that is signed again and again, and what the last one leaves. -/
def signInTurn (request : Request) : List Occasion → Result (List Signature × Request)
  | [] => .ok ([], request)
  | occasion :: later => do
      let (signature, signed) ←
        sign request occasion.credentials occasion.options occasion.now
      let (signatures, final) ← signInTurn signed later
      return (signature :: signatures, final)

/-- The first time counts, and each time after it finds what the first has left. -/
theorem signInTurn_same {credentials : Credentials} {options : SignOptions} {time : Timestamp}
    (unnamed : options.selection.wants Header.authorization = false)
    (fixed : options.timestamp = some time) (now : Timestamp) {nows : List Timestamp}
    (filled : nows ≠ []) (request : Request) :
    signInTurn request (nows.map (Occasion.mk credentials options)) =
      (sign request credentials options now).map (fun answer =>
        (List.replicate nows.length answer.1, answer.2)) := by
  induction nows generalizing request with
  | nil => exact absurd rfl filled
  | cons first rest ih =>
      rw [List.map_cons, signInTurn]
      dsimp only
      rw [sign_fixed request credentials fixed first now]
      have again := sign_sign (fun held : credentials.sessionToken.isSome = true => held) request
        options unnamed now now
      cases signs : sign request credentials options now with
      | error cause => rfl
      | ok answer =>
          rw [signs] at again
          replace again : sign answer.2 credentials options now = .ok answer := again
          cases rest with
          | nil => rfl
          | cons second others =>
              have later := ih (List.cons_ne_nil second others) answer.2
              rw [again] at later
              change (signInTurn answer.2 _ >>= _) = _
              rw [later]
              rfl

/-- An allow-list that does not name the authorization leaves it unsigned, and so does the default. -/
theorem authorization_unwanted {selection : Header.Selection}
    (unnamed : ∀ names, selection = .only names → names.contains Header.authorization = false) :
    selection.wants Header.authorization = false := by
  cases selection with
  | default => decide
  | only names => exact unnamed names rfl

/-- Whoever signed before and whatever was signed, a later signature and the request that it leaves
are those of signing once; so signing on and on tells the same signature each time. -/
theorem signing_replaces :
    (∀ (request : Request) (first second : Credentials) (earlier options : SignOptions)
        (time before now later : Timestamp),
      (first.sessionToken.isSome = true → second.sessionToken.isSome = true) →
      (∀ names, options.selection = .only names →
        names.contains Header.authorization = false) →
      options.timestamp = some time →
        (sign request first earlier before >>= fun answer => sign answer.2 second options now) =
          sign request second options later) ∧
    ∀ (request : Request) (credentials : Credentials) (options : SignOptions)
        (time now : Timestamp) (nows : List Timestamp),
      (∀ names, options.selection = .only names →
        names.contains Header.authorization = false) →
      options.timestamp = some time → nows ≠ [] →
        signInTurn request (nows.map (Occasion.mk credentials options)) =
          (sign request credentials options now).map (fun answer =>
            (List.replicate nows.length answer.1, answer.2)) := by
  constructor
  · intro request first second earlier options time before now later kept unnamed fixed
    rw [sign_fixed request second fixed later now]
    exact sign_sign kept request earlier (authorization_unwanted unnamed) before now
  · intro request credentials options time now nows unnamed fixed filled
    exact signInTurn_same (authorization_unwanted unnamed) fixed now filled request

/-- A request that has an authorization under two spellings, signed by someone without a token who
covers both, and then thrice by someone with a token. -/
theorem signing_replaces_spelled :
    let origin : Url := ⟨"http", some ⟨"", none, .name "h", none⟩, .segments [""], none, none⟩
    let request := ((Request.make "GET" origin).setHeader "Authorization" "old").setHeader
      "authorization " "older"
    let first : Credentials :=
      ⟨"ak", "sk", none, by decide, by decide, fun _ absent => nomatch absent⟩
    let second : Credentials :=
      ⟨"other", "key", some "token", by decide, by decide,
        fun _ same => Option.some.inj same ▸ by decide⟩
    let earlier : SignOptions :=
      { timestamp := some Timestamp.epoch, selection := .ofNames ["authorization", "host"] }
    let options : SignOptions :=
      { timestamp := some Timestamp.epoch, expiration := 60, selection := .ofNames [Header.host] }
    ∃ signature final, sign request second options Timestamp.epoch = .ok (signature, final) ∧
      (sign request first earlier Timestamp.epoch >>= fun answer =>
        sign answer.2 second options Timestamp.epoch) = .ok (signature, final) ∧
      signInTurn request ((List.replicate 3 Timestamp.epoch).map (Occasion.mk second options)) =
        .ok (List.replicate 3 signature, final) := by
  intro origin request first second earlier options
  obtain ⟨replaces, repeats⟩ := signing_replaces
  have hosted : hostHeader request.uri = .ok "h" := rfl
  have signs := sign_of_host request second options Timestamp.epoch hosted
  have unnamed : ∀ names, options.selection = .only names →
      names.contains Header.authorization = false := by
    intro names same
    have unwanted : options.selection.wants Header.authorization = false := by
      rw [← Bool.not_eq_true, Header.wants_ofNames]
      rintro ⟨given, listed, folds⟩
      rw [List.mem_singleton.mp listed, Header.foldedName_known Header.host] at folds
      exact absurd folds (by decide)
    rw [same] at unwanted
    exact unwanted
  have twice := replaces request first second earlier options Timestamp.epoch Timestamp.epoch
    Timestamp.epoch Timestamp.epoch (fun _ => rfl) unnamed rfl
  have thrice := repeats request second options Timestamp.epoch Timestamp.epoch
    (List.replicate 3 Timestamp.epoch) unnamed rfl (by decide)
  rw [signs] at twice thrice
  exact ⟨_, _, signs, twice, thrice⟩

end SignedRest.Signing
