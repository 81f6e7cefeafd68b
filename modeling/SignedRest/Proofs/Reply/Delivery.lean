/-
Replies and the way in which their bodies come. The pieces make no difference to what is told, nor
to how much is read: all of it for a success, and for an error no more than was declared.
-/

import SignedRest.Proofs.Header
import SignedRest.Proofs.Reply.ErrorDocument
import SignedRest.Proofs.Reply.Release

namespace SignedRest

/-! ### Declared lengths -/

namespace Metadata

/-- A length is read from its decimal digits, if it is below 2^64. -/
theorem length?_toString (length : Nat) :
    length? (toString length) = if length < UInt64.size then some length else none := by
  have decimal : ∀ c ∈ Nat.toDigits 10 length, c.isDigit = true :=
    fun c member => Nat.isDigit_of_mem_toDigits (by decide) (by decide) member
  have chars : (toString length).toList = Nat.toDigits 10 length := by
    rw [Nat.toString_eq_repr, Nat.toList_repr]
  have trimmed : Text.trim (toString length) = toString length := by
    refine Text.trim_of_clear fun c member => ?_
    rw [chars] at member
    have range := Number.isDigit_of_mem_toDigits member
    exact Text.isBlank_of_range (by omega) (by omega)
  have value : (Nat.toDigits 10 length).foldl
      (fun total digit => total * 10 + (digit.toNat - 48)) 0 = length := by
    have spelled : Nat.ofDigitChars 10 (Nat.toDigits 10 length) 0 = length :=
      Nat.ofDigitChars_toDigits (by decide) (by decide)
    rw [Nat.ofDigitChars_eq_foldl] at spelled
    simpa only [Nat.mul_comm 10, Char.reduceToNat] using spelled
  have filled : (Nat.toDigits 10 length).isEmpty = false :=
    List.isEmpty_eq_false_iff.mpr Nat.toDigits_ne_nil
  rw [length?, trimmed, chars]
  split
  · rename_i plus rest same
    have sign := decimal '+' (same ▸ List.mem_cons_self)
    cases sign
  · rw [if_neg, value]
    rw [filled, List.all_eq_true.mpr decimal]
    rintro (empty | other)
    · cases empty
    · exact other rfl

end Metadata

/-! ### The end of a body -/

namespace Reply

open Handler (errorContents)

theorem release_release (reply : Reply) (read later : Nat) :
    (reply.release read).release later = reply.release read := by
  rcases reply with ⟨status, statusText, headers, content⟩
  cases content <;> rfl

/-- What an error reads of its body. -/
def readForError (reply : Reply) : Option Body.Contents :=
  errorContents reply { metadata := Metadata.ofReply reply }

def countForError (reply : Reply) : Nat :=
  (reply.readForError.map (·.bytes.length)).getD 0

theorem process_released_of_failure {reply : Reply} (failure : reply.isSuccess = false) :
    (reply.process Handler.standard).1 = reply.release reply.countForError := by
  have refused : ¬ reply.isSuccess = true := Bool.eq_false_iff.mp failure
  rw [process_reply]
  simp only [Handler.standard, Handler.runAll, Handler.run, Handler.runError, if_neg refused]
  exact release_release reply reply.countForError 0

theorem process_released_of_success {reply : Reply} (success : reply.isSuccess = true) :
    (reply.process Handler.standard).1 = (Handler.consumed reply).release 0 := by
  have passed := Handler.runError_of_success success { metadata := Metadata.ofReply reply }
  rw [process_reply]
  simp only [Handler.standard, Handler.runAll, Handler.run, passed, Handler.runJson_eq]
  cases Handler.payload reply with
  | error cause => rfl
  | ok found =>
      cases found with
      | none => rfl
      | some value => rfl

/-! ### The pieces of a body -/

variable {reply : Reply}

/-- An error reads the bytes of a body as far as the declared length goes. -/
theorem readForError_withBody (reply : Reply) (body : Body) :
    (reply.withBody body).readForError =
      reply.declaredLength.bind (fun length =>
        if length = 0 then none
        else some ⟨body.content.take length,
          decide (length ≤ body.content.length) || !body.breaksOff⟩) := by
  have known : (Metadata.ofReply (reply.withBody body)).contentLength = reply.declaredLength := rfl
  have attached : (reply.withBody body).body? = some body := rfl
  rw [readForError, errorContents, known, attached]
  cases reply.declaredLength with
  | none => rfl
  | some length =>
      dsimp only
      rw [Option.bind_some, Body.readUpTo_eq]

/-- Two bodies of which an error reads the same make no difference. -/
theorem process_withBody_congr (failure : reply.isSuccess = false) {body other : Body}
    (same : (reply.withBody body).readForError = (reply.withBody other).readForError) :
    (reply.withBody body).process Handler.standard =
      (reply.withBody other).process Handler.standard := by
  have failed : ∀ body, (reply.withBody body).isSuccess = false := fun _ => failure
  refine Prod.ext ?_ ?_
  · rw [process_released_of_failure (failed body), process_released_of_failure (failed other),
      countForError, same]
    rfl
  · unfold readForError at same
    rw [process_error (failed body), process_error (failed other), same]
    rfl

/-- Two bodies that reach the declared length and agree up to there make no difference, whatever
comes after it. -/
theorem process_of_reached (failure : reply.isSuccess = false) {body other : Body}
    (reached : ∀ length, reply.declaredLength = some length →
      length ≤ body.content.length ∧ length ≤ other.content.length ∧
        body.content.take length = other.content.take length) :
    (reply.withBody body).process Handler.standard =
      (reply.withBody other).process Handler.standard := by
  apply process_withBody_congr failure
  rw [readForError_withBody, readForError_withBody]
  cases declared : reply.declaredLength with
  | none => rfl
  | some length =>
      obtain ⟨within, otherWithin, same⟩ := reached length declared
      rw [Option.bind_some, Option.bind_some, same, decide_eq_true within,
        decide_eq_true otherWithin, Bool.true_or, Bool.true_or]

theorem process_of_pieces {body other : Body} (sameContent : body.content = other.content)
    (sameEnd : body.breaksOff = other.breaksOff) :
    (reply.withBody body).process Handler.standard =
      (reply.withBody other).process Handler.standard := by
  cases success : reply.isSuccess with
  | false =>
      apply process_withBody_congr success
      rw [readForError_withBody, readForError_withBody, sameContent, sameEnd]
  | true =>
      have succeeded : ∀ body, (reply.withBody body).isSuccess = true := fun _ => success
      refine Prod.ext ?_ ?_
      · rw [process_released_of_success (succeeded body),
          process_released_of_success (succeeded other)]
        have amount : body.content.length = other.content.length := by rw [sameContent]
        exact congrArg (fun read => { reply with content := .released read }) amount
      · rw [process_of_success (succeeded body), process_of_success (succeeded other)]
        have payload : Handler.payload (reply.withBody body) =
            Handler.payload (reply.withBody other) := by
          simp only [Handler.payload, body?, withBody, sameContent, sameEnd]
        rw [payload]
        rfl

theorem process_of_absent (absent : reply.content = .none) :
    (reply.process Handler.standard).1.content = .none := by
  have leaves := process_leaves reply Handler.standard
  rw [absent] at leaves
  generalize (reply.process Handler.standard).1.content = left at leaves
  cases leaves with
  | kept => rfl

theorem countForError_withBody (reply : Reply) (body : Body) :
    (reply.withBody body).countForError =
      min (reply.declaredLength.getD 0) body.content.length := by
  rw [countForError, readForError_withBody]
  cases reply.declaredLength with
  | none => exact (Nat.zero_min _).symm
  | some length =>
      rw [Option.bind_some, Option.getD_some]
      by_cases zero : length = 0
      · rw [if_pos zero, zero, Nat.zero_min]
        rfl
      · rw [if_neg zero, Option.map_some, Option.getD_some, List.length_take]

theorem declaredLength_withHeader (reply : Reply) {length : Nat} (small : length < UInt64.size) :
    (reply.withHeader Header.contentLength (toString length)).declaredLength = some length := by
  rw [declaredLength, header?, withHeader, Table.get?_insert, if_pos rfl, Option.bind_some,
    Metadata.length?_toString, if_pos small]

/-- The pieces in which a body comes change nothing of what is told, and nothing of how much is
read. A success is read to its end, whatever length is declared. An error is read as far as its
declared length, not at all without one, and a failure behind that goes unnoticed. -/
theorem process_delivery (reply : Reply) :
    (∀ body other : Body, body.content = other.content → body.breaksOff = other.breaksOff →
      (reply.withBody body).process Handler.standard =
        (reply.withBody other).process Handler.standard) ∧
    (∀ body, 200 ≤ reply.status ∧ reply.status ≤ 299 →
      ((reply.withBody body).process Handler.standard).1.content =
        .released body.content.length) ∧
    (∀ body, ¬ (200 ≤ reply.status ∧ reply.status ≤ 299) →
      ((reply.withBody body).process Handler.standard).1.content =
        .released (min (reply.declaredLength.getD 0) body.content.length)) ∧
    (reply.content = .none → (reply.process Handler.standard).1.content = .none) ∧
    (∀ length, ∀ body other : Body, ¬ (200 ≤ reply.status ∧ reply.status ≤ 299) →
      reply.declaredLength = some length → length ≤ body.content.length →
        body.content = other.content →
          (reply.withBody body).process Handler.standard =
            (reply.withBody other).process Handler.standard) ∧
    ∀ length < UInt64.size,
      (reply.withHeader Header.contentLength (toString length)).declaredLength = some length := by
  have failure (refused : ¬ (200 ≤ reply.status ∧ reply.status ≤ 299)) :
      reply.isSuccess = false := by
    rwa [← reply.isSuccess_iff, Bool.not_eq_true] at refused
  refine ⟨fun body other => process_of_pieces, ?_, ?_, ?_, ?_, ?_⟩
  · intro body accepted
    have success : (reply.withBody body).isSuccess = true := reply.isSuccess_iff.mpr accepted
    rw [process_released_of_success success]
    rfl
  · intro body refused
    have failed : (reply.withBody body).isSuccess = false := failure refused
    rw [process_released_of_failure failed, countForError_withBody]
    rfl
  · exact process_of_absent
  · intro length body other refused declared reached same
    refine process_of_reached (failure refused) fun limit declares => ?_
    cases declared.symm.trans declares
    exact ⟨reached, same ▸ reached, by rw [same]⟩
  · exact fun length small => declaredLength_withHeader reply small

/-- An error document comes in pieces of different sizes and breaks off behind its end, or comes as
a whole. -/
theorem process_delivery_broken :
    let reply := (make 400).withHeader Header.contentLength (toString 15)
    let content := Utf8.encode "\x7b\"message\":\"x\"\x7d ".toList
    let broken : Body := ⟨content, [1, 2, 3], true, by decide⟩
    ((reply.withBody broken).process Handler.standard).1.content = .released 15 ∧
      (reply.withBody broken).process Handler.standard =
        (reply.withBody (Body.whole content)).process Handler.standard := by
  intro reply content broken
  obtain ⟨_, _, released, _, unnoticed, _⟩ := process_delivery reply
  have declared : reply.declaredLength = some 15 :=
    declaredLength_withHeader (make 400) (by decide)
  have refused : ¬ (200 ≤ reply.status ∧ reply.status ≤ 299) := by decide
  have reached : 15 ≤ content.length := by decide
  refine ⟨?_, unnoticed 15 broken (Body.whole content) refused declared reached rfl⟩
  rw [released broken refused, declared]
  decide

end Reply

end SignedRest
