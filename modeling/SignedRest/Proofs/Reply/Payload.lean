/-
Payloads of replies. What is read as a JSON value is never blank, so a body that holds a value has
that value as its payload; and a value that a request sends is the payload of a reply that carries
the same bytes back.
-/

import SignedRest.Proofs.Header
import SignedRest.Proofs.Json.Extension
import SignedRest.Proofs.Json.RoundTrip
import SignedRest.Proofs.Reply.Delivery
import SignedRest.Request

namespace SignedRest

open Json (Document)
open Json.Grammar (IsBlank)

/-! ### Bodies that hold a value -/

/-- Blank bodies may hold form feeds, which stand between no parts of a JSON text. -/
theorem Handler.isBlankByte_of_opensScalar {byte : UInt8} {tail rest : Bytes} {document : Document}
    (opens : Document.opensScalar byte = true)
    (read : Document.scalar? (byte :: tail) = some (document, rest)) :
    isBlankByte byte = false := by
  have notFeed : byte ≠ 0x0C := by
    rintro rfl
    cases read
  have notBlank := Document.notBlank_of_opensScalar opens
  simp_all [isBlankByte, Document.isBlank]

theorem Handler.notBlank_of_readValue {fuel : Nat} {input rest : Bytes} {document : Document}
    (view : Document.ReadValue fuel input document rest) :
    ∃ byte ∈ input, isBlankByte byte = false := by
  cases view with
  | emptyArray closed => exact ⟨0x5B, List.mem_cons_self, by decide⟩
  | array filled read => exact ⟨0x5B, List.mem_cons_self, by decide⟩
  | emptyObject closed => exact ⟨0x7B, List.mem_cons_self, by decide⟩
  | object filled read => exact ⟨0x7B, List.mem_cons_self, by decide⟩
  | scalar opens read => exact ⟨_, List.mem_cons_self, isBlankByte_of_opensScalar opens read⟩

theorem Handler.notBlank_of_read {content : Bytes} {value : Json}
    (read : Json.ofBytes? content = some value) : ¬ content.all isBlankByte = true := by
  obtain ⟨document, found, _⟩ := Option.bind_eq_some_iff.mp read
  obtain ⟨rest, whole, _⟩ := Document.ofBytes?_cases found
  obtain ⟨less, _, view⟩ := Document.value?_cases whole
  obtain ⟨byte, inside, notBlank⟩ := notBlank_of_readValue view
  intro blank
  have within : byte ∈ content := (List.dropWhile_suffix Document.isBlank).subset inside
  rw [List.all_eq_true.mp blank byte within] at notBlank
  cases notBlank

theorem Handler.payload_of_read {reply : Reply} {body : Body} {value : Json}
    (attached : reply.body? = some body) (whole : body.breaksOff = false)
    (read : Json.ofBytes? body.content = some value) : payload reply = .ok (some value) := by
  have ends : ¬ body.breaksOff = true := Bool.eq_false_iff.mp whole
  simp only [payload, attached, if_neg ends, if_neg (notBlank_of_read read), read]

/-- There is no body, or nothing but blanks in it. -/
def Reply.IsEmpty (reply : Reply) : Prop :=
  ∀ body, reply.body? = some body →
    body.breaksOff = false ∧ body.content.all Handler.isBlankByte = true

theorem Handler.payload_of_empty {reply : Reply} (empty : reply.IsEmpty) :
    payload reply = .ok none := by
  cases attached : reply.body? with
  | none => simp only [payload, attached]
  | some body =>
      obtain ⟨whole, blank⟩ := empty body attached
      have ends : ¬ body.breaksOff = true := Bool.eq_false_iff.mp whole
      simp only [payload, attached, if_neg ends, if_pos blank]

/-! ### Values that come back -/

namespace Request

variable {value : Json}

theorem setJson_eq (request : Request) (value : Json) :
    request.setJson value = request.setBody (Utf8.encode (Json.write value)) := by
  rw [setJson, Json.toText, Utf8.encodeText, String.toList_ofList]

theorem setBody_contentLength (request : Request) (content : Bytes) :
    (request.setBody content).header? Header.contentLength = some (toString content.length) := by
  simp [setBody, setHeader, header?, Table.get?_insert]

/-- A JSON value is sent as bytes whose number stands in the headers. A success that brings these
bytes, in whatever pieces and with blanks before and behind them, is read to its end and has the
value as its payload. -/
theorem setJson_returns (request : Request) {depth : Nat} (shallow : depth < 128)
    (exact : Json.Exact depth value) :
    ∃ content, (request.setJson value).body = some content ∧
      (request.setJson value).header? Header.contentLength = some (toString content.length) ∧
      ∀ (reply : Reply) (body : Body) (before after : List Char),
        200 ≤ reply.status ∧ reply.status ≤ 299 → IsBlank before → IsBlank after →
        body.content = Utf8.encode before ++ content ++ Utf8.encode after →
        body.breaksOff = false →
          ((reply.withBody body).process Handler.standard).1.content =
              .released body.content.length ∧
            ((reply.withBody body).process Handler.standard).2 =
              .ok { metadata := Metadata.ofReply reply, payload := some value } := by
  rw [setJson_eq]
  refine ⟨_, rfl, request.setBody_contentLength _, ?_⟩
  intro reply body before after accepted blankBefore blankAfter content whole
  have success : (reply.withBody body).isSuccess = true := reply.isSuccess_iff.mpr accepted
  have read : Json.ofBytes? body.content = some value := by
    rw [content, ← Utf8.encode_append, ← Utf8.encode_append]
    exact Json.ofBytes?_write (exact.mono (Nat.le_of_lt_succ shallow)) blankBefore blankAfter
  have payload : Handler.payload (reply.withBody body) = .ok (some value) :=
    Handler.payload_of_read rfl whole read
  constructor
  · rw [Reply.process_released_of_success success]
    rfl
  · rw [Reply.process_of_success success, payload]
    rfl

/-- A value comes back in pieces between blanks that holds the least and the greatest integer, a
quote, control characters and a letter beyond sixteen bits. -/
theorem setJson_returns_nested :
    let value := Json.object
      [("\"\x01😀", .object [("", .text "\x1f\\")]),
        ("a", .array [.number (.integer (-2 ^ 63)), .number (.integer (2 ^ 64 - 1)), .null])]
    let request := Request.make "PUT" ⟨"http", none, .segments [""], none, none⟩
    Json.Exact 2 value ∧ ∃ content, (request.setJson value).body = some content ∧
      let body : Body := ⟨0x20 :: 0x0D :: 0x0A :: content ++ [0x09], [1, 2, 5], false, by decide⟩
      let processed := ((Reply.make 200).withBody body).process Handler.standard
      processed.1.content = .released (content.length + 4) ∧
        processed.2 = .ok { payload := some value } := by
  intro value request
  have inner : Json.Exact 1 (.object [("", .text "\x1f\\")]) :=
    .object (List.pairwise_singleton _ _) (by simpa using Json.Exact.text _)
  have items : Json.Exact 1
      (.array [.number (.integer (-2 ^ 63)), .number (.integer (2 ^ 64 - 1)), .null]) := by
    refine .array ?_
    simpa using ⟨.integer (by decide) (by decide), .integer (by decide) (by decide), .null⟩
  have exact : Json.Exact 2 value := by
    refine .object (by decide) ?_
    simpa using ⟨inner, items⟩
  obtain ⟨content, sent, _, returns⟩ := request.setJson_returns (by decide) exact
  refine ⟨exact, content, sent, ?_⟩
  have blankBefore : IsBlank [' ', '\r', '\n'] := by simp [IsBlank, Json.Grammar.blanks]
  have blankAfter : IsBlank ['\t'] := by simp [IsBlank, Json.Grammar.blanks]
  obtain ⟨released, told⟩ := returns (Reply.make 200)
    ⟨0x20 :: 0x0D :: 0x0A :: content ++ [0x09], [1, 2, 5], false, by decide⟩ _ _ (by decide)
    blankBefore blankAfter rfl rfl
  exact ⟨by simpa using released, told⟩

end Request

end SignedRest
