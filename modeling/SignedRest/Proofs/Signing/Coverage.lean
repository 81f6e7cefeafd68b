/-
What a signature covers. The value that is signed under a name is the one of the last header whose
name folds to it; that is the header of this very name unless another spelling, with white space
around it, comes later.
-/

import SignedRest.Proofs.Signing.Signature

namespace SignedRest.Signing

variable (request : Request) (credentials : Credentials) (options : SignOptions) (now : Timestamp)

/-- The fields whose values were signed, as the signed request carries them. An authorization is
written after the selection. -/
structure Covers (signature : Signature) (signed : Request) (selected : Fields) : Prop where
  digest : signature.signature = compute credentials.secretKey
    (scope credentials signature.timestamp signature.expiration) signature.canonicalRequest
  text : signature.canonicalRequest = canonicalRequest signed selected
  names : signature.signedHeaders = selected.keys
  values : ∀ name ∈ signature.signedHeaders, name ≠ Header.authorization →
    selected.get? name = Header.lastSigned? name signed.headers.entries
  own : ∀ name ∈ signature.signedHeaders, name ≠ Header.authorization →
    (∀ field ∈ signed.headers.entries, Header.foldedName field.1 = name → field.1 = name) →
      selected.get? name = (signed.header? name).map Text.trim
  authorized : Header.authorization ∈ signature.signedHeaders →
    ∃ field ∈ request.headers.entries, Header.foldedName field.1 = Header.authorization

/-! ### Headers of one spelling -/

/-- A name that was selected has a value, so that the header of its one spelling is not blank. -/
theorem lastSigned?_eq_header? {signed : Request} {name : String}
    (found : (Header.lastSigned? name signed.headers.entries).isSome = true)
    (spelled : ∀ field ∈ signed.headers.entries, Header.foldedName field.1 = name →
      field.1 = name) :
    Header.lastSigned? name signed.headers.entries = (signed.header? name).map Text.trim := by
  obtain ⟨value, last⟩ := Option.isSome_iff_exists.mp found
  obtain ⟨field, member, folds, _⟩ := Header.lastSigned?_eq_some last
  have fixed : Header.foldedName name = name := by
    have spelling := spelled field member folds
    rwa [spelling] at folds
  have lower : name.toLower = name := by
    rw [← folds]
    exact Header.toLower_foldedName field.1
  have own : Header.lastSigned? name signed.headers.entries =
      (signed.headers.get? name).bind Header.signedValue? := by
    apply Header.lastSigned?_of_spelled
    intro other present
    constructor
    · exact spelled other present
    · intro same
      rw [same]
      exact fixed
  rw [own] at last ⊢
  rw [Request.header?, lower]
  cases stored : signed.headers.get? name with
  | none => rfl
  | some text =>
      rw [stored, Option.bind_some, Header.signedValue?] at last
      rw [Option.bind_some, Header.signedValue?, Option.map_some]
      split at last
      · cases last
      · rename_i filled
        rw [if_neg filled]

/-! ### Signing -/

theorem signed_values {signature : Signature} {signed : Request}
    (signs : sign request credentials options now = .ok (signature, signed)) :
    ∃ selected, Covers request credentials signature signed selected := by
  obtain ⟨host, _hosted, rfl, rfl⟩ := sign_eq_ok_iff.mp signs
  refine ⟨selectedFor request credentials options now host, ?_,
    canonicalFor_eq request credentials options now host, rfl, ?_, ?_, ?_⟩
  · rw [answerFor, signatureFor, scopeFor]
  · intro name member other
    exact selectedFor_get? request credentials options now host member other
  · intro name member other spelled
    have value := selectedFor_get? request credentials options now host member other
    have chosen := (Table.mem_keys_iff _ name).mp member
    rw [value] at chosen ⊢
    exact lastSigned?_eq_header? chosen spelled
  · exact exists_of_authorization_selected request credentials options now host

/-! ### Two spellings of one name -/

/-- A request whose host also stands under a name with a space after it. -/
def twiceHosted : Request :=
  let origin : Url := ⟨"http", some ⟨"", none, .name "h", none⟩, .segments [""], none, none⟩
  (Request.make "GET" origin).setHeader "host " "x"

theorem signed_values_twiceHosted :
    let credentials : Credentials :=
      ⟨"ak", "sk", none, by decide, by decide, fun _ absent => nomatch absent⟩
    ∃ signature signed,
      sign twiceHosted credentials {} Timestamp.epoch = .ok (signature, signed) ∧
      ∃ selected, Covers twiceHosted credentials signature signed selected := by
  intro credentials
  have hosted : hostHeader twiceHosted.uri = .ok "h" := rfl
  have signs := sign_of_host twiceHosted credentials {} Timestamp.epoch hosted
  exact ⟨_, _, signs, signed_values twiceHosted credentials {} Timestamp.epoch signs⟩

theorem twiceHosted_headers : twiceHosted.headers = Table.empty.insert "host " "x" := by
  have lower : "host ".toLower = "host " := Text.toLower_eq_self (by decide)
  rw [twiceHosted, Request.setHeader, lower]
  rfl

theorem twiceHosted_lastSigned? (credentials : Credentials) (options : SignOptions)
    (now : Timestamp) (tokenless : credentials.sessionToken = none) :
    Header.lastSigned? Header.host
      (preparedFor twiceHosted credentials options now "h").headers.entries = some "x" := by
  have entries : (preparedFor twiceHosted credentials options now "h").headers.entries =
      [("host", "h"), ("host ", "x"), ("x-bce-date", timeText options now)] := by
    rw [preparedFor_eq, tokenless, twiceHosted_headers]
    rfl
  have dated : Header.foldedName "x-bce-date" = "x-bce-date" :=
    Header.foldedName_known Header.signingDate
  have padded : Header.foldedName "host " = Header.host := by
    have trimmed : Text.trim "host " = Header.host := by decide
    rw [Header.foldedName, trimmed, Header.toLower_known Header.host]
  rw [entries, Header.lastSigned?_cons, Header.lastSigned?_cons, Header.lastSigned?_cons,
    Header.signedAs?, Header.signedAs?, dated, padded]
  rfl

/-- The value that is signed for the host is the one of the longer name, which comes later. -/
theorem twiceHosted_signs_other_value :
    ¬ ∀ (credentials : Credentials) (signature : Signature) (signed : Request) (selected : Fields),
      sign twiceHosted credentials {} Timestamp.epoch = .ok (signature, signed) →
        signature.canonicalRequest = canonicalRequest signed selected →
        signature.signedHeaders = selected.keys →
          ∀ name ∈ signature.signedHeaders,
            selected.get? name = (signed.header? name).map Text.trim := by
  intro all
  let credentials : Credentials :=
    ⟨"ak", "sk", none, by decide, by decide, fun _ absent => nomatch absent⟩
  have hosted : hostHeader twiceHosted.uri = .ok "h" := rfl
  have signs := sign_of_host twiceHosted credentials {} Timestamp.epoch hosted
  have value : (selectedFor twiceHosted credentials {} Timestamp.epoch "h").get? Header.host =
      some "x" := by
    rw [selectedFor, Header.select_get?, twiceHosted_lastSigned? credentials {} _ rfl]
    exact if_pos (by decide)
  have chosen : Header.host ∈
      (selectedFor twiceHosted credentials {} Timestamp.epoch "h").keys := by
    rw [Table.mem_keys_iff, value]
    rfl
  have own := all credentials _ _ _ signs
    (canonicalFor_eq twiceHosted credentials {} Timestamp.epoch "h") rfl Header.host chosen
  rw [value, signedFor_header?_host] at own
  exact absurd own (by decide)

end SignedRest.Signing
