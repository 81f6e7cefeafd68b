/-
What a canonical path denotes. Segment by segment it stands for the same bytes as the path that it
is made from, as far as these are UTF-8; any other sequence of bytes is replaced, so that paths
which differ in nothing else have one canonical form.
-/

import SignedRest.Proofs.Signing.Canonical
import SignedRest.Proofs.Signing.Verification

namespace SignedRest.Canonical

/-! ### Bytes that are text -/

/-- Bytes in which no sequence is damaged. -/
def IsText (bytes : Bytes) : Prop :=
  ∃ chars, Utf8.encode chars = bytes

/-- The bytes with a replacement character in the place of each damaged sequence. -/
def readable (bytes : Bytes) : Bytes :=
  Utf8.encode (Utf8.decodeLossy bytes)

theorem readable_eq_self_iff (bytes : Bytes) : readable bytes = bytes ↔ IsText bytes := by
  constructor
  · intro same
    exact ⟨Utf8.decodeLossy bytes, same⟩
  · rintro ⟨chars, rfl⟩
    rw [readable, Utf8.decodeLossy_encode]

/-! ### Segments and their bytes -/

/-- The bytes that the segments of a path stand for, one by one. -/
def resource (raw : String) : List Bytes :=
  (Text.split '/' raw.toList).map (fun segment => Percent.decode (Utf8.encode segment))

/-- A path whose segments stand for text. -/
def IsReadable (raw : String) : Prop :=
  ∀ bytes ∈ resource raw, IsText bytes

theorem decode_encodeSegment (text : List Char) :
    Percent.decode (Utf8.encode (encodeSegment text)) = Utf8.encode text := by
  have read := Percent.decode_encode isUnreserved_safe (Utf8.encode text) []
  rwa [List.append_nil, Percent.decode, List.append_nil] at read

theorem split_path {raw : String} (rooted : raw.toList.head? = some '/') :
    Text.split '/' (path raw).toList = (segmentTexts raw).map encodeSegment := by
  rw [toList_path rooted, Text.split_join]
  · exact mt List.map_eq_nil_iff.mp (segmentTexts_ne_nil raw)
  · intro piece member
    obtain ⟨text, _present, rfl⟩ := List.mem_map.mp member
    exact separator_not_mem (by decide) _

theorem resource_path {raw : String} (rooted : raw.toList.head? = some '/') :
    resource (path raw) = (resource raw).map readable := by
  rw [resource, split_path rooted, segmentTexts, resource, List.map_map, List.map_map, List.map_map]
  apply List.map_congr_left
  intro segment _present
  exact decode_encodeSegment (segmentText segment)

theorem map_readable_eq_self_iff (raw : String) :
    (resource raw).map readable = resource raw ↔ IsReadable raw := by
  constructor
  · intro same bytes member
    rw [← readable_eq_self_iff]
    exact List.map_inj_left.mp (same.trans (List.map_id' _).symm) bytes member
  · intro text
    exact (List.map_congr_left
      (fun bytes member => (readable_eq_self_iff bytes).mpr (text bytes member))).trans
        (List.map_id' _)

/-- Paths have one canonical form exactly when they stand for the same readable bytes. -/
theorem path_eq_iff_resource {left right : String} (leftRooted : left.toList.head? = some '/')
    (rightRooted : right.toList.head? = some '/') :
    path left = path right ↔ (resource left).map readable = (resource right).map readable := by
  have encoded : ∀ raw, (resource raw).map readable = (segmentTexts raw).map Utf8.encode := by
    intro raw
    rw [resource, segmentTexts, List.map_map, List.map_map]
    rfl
  rw [path_eq_iff leftRooted rightRooted, encoded, encoded,
    List.map_inj_right (fun _ _ => Utf8.encode_injective)]

/-! ### The path that is signed -/

/-- What is signed has the canonical form of the path that its peer finds in the address. -/
theorem exists_canonicalRequest {request : Request} (built : request.Built)
    {credentials : Credentials} {options : SignOptions} {now : Timestamp} {signature : Signature}
    {signed : Request}
    (signs : Signing.sign request credentials options now = .ok (signature, signed))
    (block : List (String × String)) :
    ∃ headers, signature.canonicalRequest = Canonical.request signed.method
      (path (Signing.Arrival.path ⟨signed.method, signed.url.toText, block⟩))
      (signedQuery signed.parameters.entries) headers := by
  obtain ⟨host, hosted, rfl, rfl⟩ := Signing.sign_eq_ok_iff.mp signs
  obtain ⟨authority, placed⟩ := Signing.exists_authority host hosted
  refine ⟨Canonical.headers (Signing.selectedFor request credentials options now host), ?_⟩
  rw [Signing.url_signedFor, Signing.arrival_path _ block built.sound placed,
    Signing.answerFor, Signing.canonicalFor_eq, Signing.canonicalRequest, Signing.signedFor_uri]

/-- The canonical path stands for the bytes of the path, with what is no UTF-8 replaced: so for the
same bytes exactly if they are text, and for different ones where texts differ. The path that is
signed is the canonical one of the path that is sent. -/
theorem path_keeps_resource :
    (∀ raw : String, raw.toList.head? = some '/' →
      resource (path raw) = (resource raw).map readable ∧
      (resource (path raw) = resource raw ↔ IsReadable raw)) ∧
    (∀ left right : String, left.toList.head? = some '/' → right.toList.head? = some '/' →
      (path left = path right ↔ (resource left).map readable = (resource right).map readable) ∧
      (IsReadable left → IsReadable right → path left = path right →
        resource left = resource right)) ∧
    ∀ (request : Request) (credentials : Credentials) (options : SignOptions) (now : Timestamp)
      (signature : Signature) (signed : Request) (block : List (String × String)),
      request.Built → Signing.sign request credentials options now = .ok (signature, signed) →
        let sent := Signing.Arrival.path ⟨signed.method, signed.url.toText, block⟩
        sent.toList.head? = some '/' →
          (∃ headers, signature.canonicalRequest = Canonical.request signed.method (path sent)
            (signedQuery signed.parameters.entries) headers) ∧
          resource (path sent) = (resource sent).map readable ∧
          (resource (path sent) = resource sent ↔ IsReadable sent) := by
  have kept : ∀ raw : String, raw.toList.head? = some '/' →
      resource (path raw) = (resource raw).map readable ∧
      (resource (path raw) = resource raw ↔ IsReadable raw) := by
    intro raw rooted
    rw [resource_path rooted]
    exact ⟨rfl, map_readable_eq_self_iff raw⟩
  refine ⟨kept, ?_, ?_⟩
  · intro left right leftRooted rightRooted
    have alike := path_eq_iff_resource leftRooted rightRooted
    refine ⟨alike, fun leftText rightText same => ?_⟩
    rw [← (map_readable_eq_self_iff left).mpr leftText,
      ← (map_readable_eq_self_iff right).mpr rightText]
    exact alike.mp same
  · intro request credentials options now signature signed block built signs sent rooted
    exact ⟨exists_canonicalRequest built signs block, kept sent rooted⟩

/-- An accented letter that is written in lower-case escapes. -/
theorem path_keeps_resource_accented :
    let credentials : Credentials :=
      ⟨"ak", "sk", none, by decide, by decide, fun _ absent => nomatch absent⟩
    ∃ uri, Url.ofText "http://h/%c3%a9" = .ok uri ∧ (Request.make "GET" uri).Built ∧
      IsReadable "/%c3%a9" ∧ IsReadable "/é" ∧ resource "/%c3%a9" = resource "/é" ∧
      ∃ signature signed headers,
        Signing.sign (Request.make "GET" uri) credentials {} Timestamp.epoch =
          .ok (signature, signed) ∧
        signature.canonicalRequest = Canonical.request signed.method (path "/%c3%a9")
          (Canonical.signedQuery signed.parameters.entries) headers ∧
        resource (path "/%c3%a9") = resource "/%c3%a9" := by
  intro credentials
  let uri : Url := ⟨"http", some ⟨"", none, .name "h", none⟩, .segments ["%c3%a9"], none, none⟩
  have read : Url.ofText "http://h/%c3%a9" = .ok uri := Result.ok_of_toOption (by decide +kernel)
  have built : (Request.make "GET" uri).Built := .make "GET" (.read read)
  have readable : ∀ raw, resource raw = [Utf8.encode [], Utf8.encode ['é']] → IsReadable raw := by
    intro raw bytes
    rw [IsReadable, bytes]
    simp only [List.forall_mem_cons]
    exact ⟨⟨_, rfl⟩, ⟨_, rfl⟩, fun _ absent => nomatch absent⟩
  have escaped : IsReadable "/%c3%a9" := readable "/%c3%a9" (by decide)
  have literal : IsReadable "/é" := readable "/é" (by decide)
  have bytes := (path_keeps_resource.2.1 "/%c3%a9" "/é" (by decide) (by decide)).2 escaped literal
    (by decide)
  have hosted : Signing.hostHeader (Request.make "GET" uri).uri = .ok "h" := rfl
  have signs := Signing.sign_of_host (Request.make "GET" uri) credentials {} Timestamp.epoch hosted
  have sent : Signing.Arrival.path ⟨(Signing.signedFor (Request.make "GET" uri) credentials {}
      Timestamp.epoch "h").method, (Signing.signedFor (Request.make "GET" uri) credentials {}
        Timestamp.epoch "h").url.toText, []⟩ = "/%c3%a9" := by
    rw [Signing.url_signedFor]
    exact Signing.arrival_path _ [] built.sound rfl
  obtain ⟨⟨headers, signedText⟩, _replaced, kept⟩ :=
    path_keeps_resource.2.2 _ credentials {} Timestamp.epoch _ _ [] built signs (by rw [sent]; rfl)
  rw [sent] at signedText kept
  exact ⟨uri, read, built, escaped, literal, bytes, _, _, headers, signs, signedText,
    kept.mpr escaped⟩

/-- Bytes that are no text are signed as if they were replacement characters, whichever they are. -/
theorem path_loses_bytes :
    (¬ ∀ raw : String, raw.toList.head? = some '/' → resource (path raw) = resource raw) ∧
    ¬ ∀ left right : String, left.toList.head? = some '/' → right.toList.head? = some '/' →
      path left = path right → resource left = resource right := by
  constructor
  · intro all
    exact absurd (all "/%FF" (by decide)) (by decide)
  · intro all
    exact absurd (all "/%FE" "/%FF" (by decide) (by decide) (by decide)) (by decide)

end SignedRest.Canonical
