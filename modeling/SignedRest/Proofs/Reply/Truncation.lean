/-
Error documents that do not come whole. The error of a reply is never told by a part of an object,
and what follows the object has no part in it.
-/

import SignedRest.Proofs.Json.Extension
import SignedRest.Proofs.Reply.Delivery

namespace SignedRest

open Json (Document)
open Json.Grammar (IsBlank SpellsText Writes WritesWhole)

/-- The text of an object, as it may be written, or as it is admitted. -/
inductive Json.ObjectText : Bytes → Prop where
  | written {members : List (String × Tree)} {chars : List Char}
      (writes : WritesWhole (.object members) chars) : ObjectText (Utf8.encode chars)
  | read {bytes : Bytes} {members : List (List Piece × Document)}
      (reads : Document.ofBytes? bytes = some (.object members)) : ObjectText bytes

theorem Json.ObjectText.reads {bytes : Bytes} (object : ObjectText bytes) :
    ∃ members, Document.ofBytes? bytes = some (.object members) := by
  cases object with
  | written writes =>
      obtain ⟨whole, reads, means⟩ := Document.ofBytes?_written writes
      cases means with
      | object means => exact ⟨_, reads⟩
  | read reads => exact ⟨_, reads⟩

theorem ErrorDocument.ofBytes?_cut {document : Bytes} (object : Json.ObjectText document)
    (closed : document.getLast? = some 0x7D) {length : Nat} (short : length < document.length) :
    ofBytes? (document.take length) = none := by
  obtain ⟨members, reads⟩ := object.reads
  have cut : document.drop length ≠ [] := by
    rw [Ne, List.drop_eq_nil_iff]
    exact Nat.not_le_of_lt short
  rw [← List.take_append_drop length document] at reads closed
  rw [ofBytes?, Document.ofBytes?_cut reads cut closed]
  rfl

namespace Reply

variable {reply : Reply}

/-- The headers declare a length: it is read from them, or they hold its decimal digits. -/
def Declares (reply : Reply) (length : Nat) : Prop :=
  reply.declaredLength = some length ∨
    reply.header? Header.contentLength = some (toString length)

theorem Declares.read {length other : Nat} (declares : reply.Declares length)
    (read : reply.declaredLength = some other) : other = length := by
  rcases declares with known | spelled
  · exact Option.some.inj (read.symm.trans known)
  · rw [declaredLength, spelled, Option.bind_some, Metadata.length?_toString] at read
    split at read
    · exact (Option.some.inj read).symm
    · cases read

theorem process_of_cut (failure : reply.isSuccess = false) {document trailing : Bytes}
    (object : Json.ObjectText document) (closed : document.getLast? = some 0x7D) {length : Nat}
    (short : length < document.length) (declares : reply.Declares length) {body : Body}
    (content : body.content = document ++ trailing) :
    ((reply.withBody body).process Handler.standard).2 =
      .error (.service reply.statusError) := by
  have failed : (reply.withBody body).isSuccess = false := failure
  refine process_of_untold failed ?_
  rintro bytes ⟨attached, limit, same, declared, -, -, rfl⟩ told found
  cases same
  cases declares.read declared
  rw [content, List.take_append_of_le_length (Nat.le_of_lt short),
    ErrorDocument.ofBytes?_cut object closed short] at found
  cases found

/-- An object that is declared to its end is read as it is, whatever follows it. -/
theorem process_of_declared (failure : reply.isSuccess = false) {document trailing : Bytes}
    (filled : 0 < document.length) (declared : reply.declaredLength = some document.length)
    {code requestId : Option String} {message : String}
    (told : ErrorDocument.ofBytes? document = some { code, message := some message, requestId })
    {body : Body} (content : body.content = document ++ trailing) :
    ((reply.withBody body).process Handler.standard).2 =
      .error (.service { code, message, requestId, status := reply.status }) := by
  have failed : (reply.withBody body).isSuccess = false := failure
  have reaches : document.length ≤ body.content.length := by
    rw [content, List.length_append]
    exact Nat.le_add_right _ _
  have delivers : (reply.withBody body).Delivers document :=
    ⟨body, document.length, rfl, declared, filled, fun _ => reaches,
      by rw [content, List.take_left]⟩
  exact process_of_told failed delivers told

/-- A declared length that cuts an object off before its closing brace leaves nothing that would be
told, wherever it falls. One that ends with the object makes what follows it irrelevant, and the
error is told by the object alone. -/
theorem process_truncated (failure : reply.isSuccess = false) {document : Bytes}
    (object : Json.ObjectText document) (closed : document.getLast? = some 0x7D)
    (trailing : Bytes) :
    (∀ length < document.length, reply.Declares length →
      ∀ body : Body, body.content = document ++ trailing →
        ((reply.withBody body).process Handler.standard).2 =
          .error (.service reply.statusError)) ∧
    (reply.Declares document.length →
      ∀ body other : Body, body.content = document ++ trailing → other.content = document →
        (reply.withBody body).process Handler.standard =
          (reply.withBody other).process Handler.standard) ∧
    ∀ code message requestId, reply.declaredLength = some document.length →
      ErrorDocument.ofBytes? document = some { code, message := some message, requestId } →
        ∀ body : Body, body.content = document ++ trailing →
          ((reply.withBody body).process Handler.standard).2 =
            .error (.service { code, message, requestId, status := reply.status }) := by
  refine ⟨?_, ?_, ?_⟩
  · intro length short declares body content
    exact process_of_cut failure object closed short declares content
  · intro declares body other content otherContent
    refine process_of_reached failure fun limit declared => ?_
    rw [declares.read declared, content, otherContent, List.length_append, List.take_left,
      List.take_length]
    exact ⟨Nat.le_add_right _ _, Nat.le_refl _, rfl⟩
  · intro code message requestId declared told body content
    have filled : 0 < document.length := List.length_pos_of_mem (List.mem_of_getLast? closed)
    exact process_of_declared failure filled declared told content

/-- The declared length falls between the two bytes of a character. -/
theorem process_truncated_inside_character :
    let reply := ((make 400).withHeader Header.contentLength (toString 13)).withHeader
      Header.requestId "r"
    let document := Utf8.encode "\x7b\"message\":\"é\"\x7d".toList
    13 < document.length ∧
      ((reply.withBody (Body.whole (document ++ document))).process Handler.standard).2 =
        .error (.service
          { code := none, message := "Bad Request", requestId := some "r", status := 400 }) := by
  intro reply document
  have blank : IsBlank [] := fun _ member => nomatch member
  have message : SpellsText "message".toList "message".toList :=
    Json.Grammar.spellsText_self (by decide)
  have accented : SpellsText "é".toList "é".toList := Json.Grammar.spellsText_self (by decide)
  have members : Writes (.members [("message", .text "é")]) "\"message\":\"é\"".toList :=
    .lastMember blank message blank blank (.text accented) blank
  have object : Json.ObjectText document :=
    .written ⟨[], _, [], blank, .object members, blank, rfl⟩
  have declares : reply.Declares 13 := .inr (by decide +kernel)
  have short : 13 < document.length := by decide
  have fallback : reply.statusError =
      { code := none, message := "Bad Request", requestId := some "r", status := 400 } := by
    decide +kernel
  have failure : reply.isSuccess = false := by decide
  rw [← fallback]
  exact ⟨short,
    (process_truncated failure object (by decide) document).1 13 short declares _ rfl⟩

end Reply

end SignedRest
