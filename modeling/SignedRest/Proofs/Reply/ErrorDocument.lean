/-
The error of a reply that is no success comes from its body as a whole or not at all. An object that
tells a message gives the message, the code and the request id, and what it leaves out is absent; in
every other case the status text and the request id of the headers take their place.
-/

import SignedRest.Proofs.Json.Document
import SignedRest.Proofs.Json.Literal
import SignedRest.Proofs.Reply.Chain

namespace SignedRest

open Json (Document Tree Piece Literal piecesText?)
open Json.Grammar (IsBlank SpellsDigits SpellsNumber SpellsText Writes WritesWhole)

namespace ErrorDocument

/-! ### What members tell -/

inductive TellsText : Option Tree → Option String → Prop where
  | absent : TellsText none none
  | null : TellsText (some .null) none
  | text (value : String) : TellsText (some (.text value)) (some value)

/-- A code may also be a number, which has to be a number that is not too large. -/
inductive TellsCode : Option Tree → Option String → Prop where
  | text {member : Option Tree} {code : Option String} (tells : TellsText member code) :
      TellsCode member code
  | number {literal : Literal} {value : Json.Number} (inRange : literal.number? = some value) :
      TellsCode (some (.number literal)) (some value.toText)

/-- An object that tells a message, and once at most what else belongs to an error. -/
structure Told (members : List (String × Tree)) (code : Option String) (message : String)
    (requestId : Option String) : Prop where
  single : ∀ name ∈ ["code", "message", "requestId"], (members.map Prod.fst).count name ≤ 1
  code : TellsCode (members.lookup "code") code
  message : members.lookup "message" = some (.text message)
  requestId : TellsText (members.lookup "requestId") requestId

/-! ### Members by name -/

/-- A member as it is read stands for a member as it is written. -/
def Alike (read : String × Document) (written : String × Tree) : Prop :=
  read.1 = written.1 ∧ Document.Means read.2 written.2

theorem named_of_means {found : List (List Piece × Document)} {members : List (String × Tree)}
    (means : Document.MembersMean found members) :
    ∃ named, found.mapM (fun member => (piecesText? member.1).map (·, member.2)) = some named ∧
      List.Forall₂ Alike named members := by
  induction found generalizing members with
  | nil =>
      cases means
      exact ⟨[], rfl, .nil⟩
  | cons member rest ih =>
      cases means with
      | cons read first others =>
          obtain ⟨named, mapped, alike⟩ := ih others
          refine ⟨(_, _) :: named, ?_, .cons ⟨rfl, first⟩ alike⟩
          rw [List.mapM_cons, read, mapped]
          rfl

theorem filter_of_absent {named : List (String × Document)} {members : List (String × Tree)}
    (alike : List.Forall₂ Alike named members) {name : String}
    (absent : (members.map Prod.fst).count name = 0) :
    named.filter (fun member => member.1 = name) = [] := by
  induction alike with
  | nil => rfl
  | cons first others ih =>
      rename_i read written laterRead laterWritten
      rw [List.map_cons, List.count_cons, ← first.1] at absent
      have differs : ¬ decide (read.1 = name) = true := by
        intro same
        rw [if_pos (beq_iff_eq.mpr (of_decide_eq_true same))] at absent
        omega
      exact (List.filter_cons_of_neg (by exact differs)).trans (ih (by omega))

theorem member?_alike {named : List (String × Document)} {members : List (String × Tree)}
    (alike : List.Forall₂ Alike named members) {name : String}
    (single : (members.map Prod.fst).count name ≤ 1) :
    ∃ value, member? named name = some value ∧
      Option.Rel Document.Means value (members.lookup name) := by
  induction alike with
  | nil => exact ⟨none, rfl, .none⟩
  | cons first others ih =>
      rename_i read written named members
      obtain ⟨readName, value⟩ := read
      obtain ⟨writtenName, tree⟩ := written
      obtain ⟨same, means⟩ := first
      dsimp only at same means
      subst same
      rw [List.map_cons, List.count_cons] at single
      by_cases here : readName = name
      · subst here
        rw [if_pos (beq_self_eq_true readName)] at single
        have alone : ((readName, value) :: named).filter (fun member => member.1 = readName) =
            [(readName, value)] := by
          rw [← filter_of_absent others (Nat.le_zero.mp (Nat.le_of_succ_le_succ single))]
          exact List.filter_cons_of_pos (decide_eq_true rfl)
        refine ⟨some value, ?_, ?_⟩
        · rw [member?, alone]
        · rw [List.lookup_cons_self]
          exact .some means
      · obtain ⟨found, sought, alike⟩ := ih (by omega)
        refine ⟨found, ?_, ?_⟩
        · rw [member?, List.filter_cons_of_neg (by rw [decide_eq_true_eq]; exact here)]
          exact sought
        · rw [List.lookup_cons, beq_eq_false_iff_ne.mpr (Ne.symm here)]
          exact alike

/-! ### Reading what members tell -/

theorem read?_text {value : Option Document} {member : Option Tree} {text : Option String}
    (alike : Option.Rel Document.Means value member) (tells : TellsText member text) :
    read? Document.text? value = some text := by
  cases tells with
  | absent =>
      cases alike
      rfl
  | null =>
      cases alike with
      | some means =>
          cases means
          rfl
  | text told =>
      cases alike with
      | some means =>
          cases means with
          | string read => exact congrArg (Option.map some) read

/-- What is read as a text is read as the same code. -/
theorem read?_code_of_text {value : Option Document} {text : Option String}
    (read : read? Document.text? value = some text) :
    read? Document.numberOrText? value = some text := by
  cases value with
  | none => exact read
  | some value =>
      cases value with
      | null => exact read
      | string pieces => exact read
      | bool _ => cases read
      | number _ => cases read
      | array _ => cases read
      | object _ => cases read

theorem read?_code {value : Option Document} {member : Option Tree} {code : Option String}
    (alike : Option.Rel Document.Means value member) (tells : TellsCode member code) :
    read? Document.numberOrText? value = some code := by
  cases tells with
  | text tells => exact read?_code_of_text (read?_text alike tells)
  | number inRange =>
      cases alike with
      | some means =>
          cases means
          exact congrArg (Option.map _) inRange

theorem ofBytes?_told {chars : List Char} {members : List (String × Tree)} {code : Option String}
    {message : String} {requestId : Option String} (writes : WritesWhole (.object members) chars)
    (told : Told members code message requestId) :
    ofBytes? (Utf8.encode chars) = some { code, message := some message, requestId } := by
  obtain ⟨document, read, means⟩ := Document.ofBytes?_written writes
  cases means with
  | object means =>
      obtain ⟨named, mapped, alike⟩ := named_of_means means
      obtain ⟨codeValue, foundCode, codeAlike⟩ :=
        member?_alike alike (told.single "code" (by decide))
      obtain ⟨messageValue, foundMessage, messageAlike⟩ :=
        member?_alike alike (told.single "message" (by decide))
      obtain ⟨idValue, foundId, idAlike⟩ :=
        member?_alike alike (told.single "requestId" (by decide))
      have tellsMessage : TellsText (members.lookup "message") (some message) := by
        rw [told.message]
        exact .text message
      rw [ofBytes?, read, Option.bind_some, ofDocument?, mapped]
      dsimp only [Option.bind_eq_bind, Option.bind_some]
      rw [foundCode, Option.bind_some, read?_code codeAlike told.code, Option.bind_some,
        foundMessage, Option.bind_some, read?_text messageAlike tellsMessage, Option.bind_some,
        foundId, Option.bind_some, read?_text idAlike told.requestId]
      rfl

/-! ### Objects without a message -/

def HasMessage (found : List (List Piece × Document)) : Prop :=
  ∃ name pieces message, (name, Document.string pieces) ∈ found ∧
    piecesText? name = some "message" ∧ piecesText? pieces = some message

theorem mem_of_named {found : List (List Piece × Document)} {named : List (String × Document)}
    (mapped : found.mapM (fun member => (piecesText? member.1).map (·, member.2)) = some named)
    {name : String} {value : Document} (member : (name, value) ∈ named) :
    ∃ pieces, (pieces, value) ∈ found ∧ piecesText? pieces = some name := by
  induction found generalizing named with
  | nil =>
      rw [List.mapM_nil] at mapped
      cases mapped
      cases member
  | cons first rest ih =>
      rw [List.mapM_cons] at mapped
      obtain ⟨read, here, mapped⟩ := Option.bind_eq_some_iff.mp mapped
      obtain ⟨others, later, same⟩ := Option.bind_eq_some_iff.mp mapped
      cases same
      rcases List.mem_cons.mp member with rfl | inner
      · obtain ⟨text, known, same⟩ := Option.map_eq_some_iff.mp here
        cases same
        exact ⟨first.1, List.mem_cons_self, known⟩
      · obtain ⟨pieces, present, known⟩ := ih later inner
        exact ⟨pieces, List.mem_cons_of_mem _ present, known⟩

theorem mem_of_member? {named : List (String × Document)} {name : String} {value : Document}
    (found : member? named name = some (some value)) : (name, value) ∈ named := by
  rw [member?] at found
  split at found
  · cases found
  · rename_i entry other alone
    have kept : (entry, value) ∈ named.filter (fun member => member.1 = name) := by
      rw [alone, Option.some.inj (Option.some.inj found)]
      exact List.mem_singleton_self _
    obtain ⟨present, same⟩ := List.mem_filter.mp kept
    rwa [← of_decide_eq_true same]
  · cases found

theorem hasMessage_of_read {found : List (List Piece × Document)} {document : ErrorDocument}
    (read : ofDocument? (.object found) = some document) {message : String}
    (tells : document.message = some message) : HasMessage found := by
  rw [ofDocument?] at read
  obtain ⟨named, mapped, read⟩ := Option.bind_eq_some_iff.mp read
  obtain ⟨_, _, read⟩ := Option.bind_eq_some_iff.mp read
  obtain ⟨_, _, read⟩ := Option.bind_eq_some_iff.mp read
  obtain ⟨value?, sought, read⟩ := Option.bind_eq_some_iff.mp read
  obtain ⟨text?, told, read⟩ := Option.bind_eq_some_iff.mp read
  obtain ⟨_, _, read⟩ := Option.bind_eq_some_iff.mp read
  obtain ⟨_, _, same⟩ := Option.bind_eq_some_iff.mp read
  cases same
  dsimp only at tells
  rw [tells] at told
  cases value? with
  | none => cases told
  | some value =>
      cases value with
      | string pieces =>
          obtain ⟨name, present, known⟩ := mem_of_named mapped (mem_of_member? sought)
          obtain ⟨text, meant, -⟩ := Option.map_eq_some_iff.mp told
          exact ⟨name, pieces, text, present, known, meant⟩
      | null => cases told
      | bool _ => cases told
      | number _ => cases told
      | array _ => cases told
      | object _ => cases told

/-- An object that tells no message: one that is written so, or one that is read so though the
units of some string in it are no text. -/
inductive Silent : Bytes → Prop where
  | written {chars : List Char} {members : List (String × Tree)}
      (writes : WritesWhole (.object members) chars)
      (silent : ∀ message, ("message", Tree.text message) ∉ members) : Silent (Utf8.encode chars)
  | read {bytes : Bytes} {found : List (List Piece × Document)}
      (reads : Document.ofBytes? bytes = some (.object found)) (silent : ¬ HasMessage found) :
      Silent bytes

theorem not_hasMessage_of_means {found : List (List Piece × Document)}
    {members : List (String × Tree)} (means : Document.MembersMean found members)
    (silent : ∀ message, ("message", Tree.text message) ∉ members) : ¬ HasMessage found := by
  rintro ⟨name, pieces, message, present, known, meant⟩
  induction found generalizing members with
  | nil => cases present
  | cons first rest ih =>
      cases means with
      | cons read means others =>
          rcases List.mem_cons.mp present with same | inner
          · cases same
            cases means with
            | string reads =>
                rw [known] at read
                rw [Option.some.inj read] at silent
                exact silent _ List.mem_cons_self
          · exact ih others (fun message member => silent message (List.mem_cons_of_mem _ member))
              inner

theorem message_of_silent {bytes : Bytes} (silent : Silent bytes) {document : ErrorDocument}
    (read : ofBytes? bytes = some document) : document.message = none := by
  have found : ∃ found, Document.ofBytes? bytes = some (.object found) ∧ ¬ HasMessage found := by
    cases silent with
    | written writes silent =>
        obtain ⟨whole, reads, means⟩ := Document.ofBytes?_written writes
        cases means with
        | object means => exact ⟨_, reads, not_hasMessage_of_means means silent⟩
    | read reads silent => exact ⟨_, reads, silent⟩
  obtain ⟨found, reads, mute⟩ := found
  rw [ofBytes?, reads, Option.bind_some] at read
  cases tells : document.message with
  | none => rfl
  | some message => exact absurd (hasMessage_of_read read tells) mute

end ErrorDocument

/-! ### Error bodies -/

namespace Handler

theorem serviceError_told {reply : Reply} {findings : Findings} {bytes : Bytes}
    {code requestId : Option String} {message : String}
    (told : ErrorDocument.ofBytes? bytes = some { code, message := some message, requestId }) :
    serviceError reply findings (some ⟨bytes, true⟩) =
      { code, message, requestId, status := reply.status } := by
  rw [serviceError, Option.bind_some, if_pos rfl, told]

theorem serviceError_silent {reply : Reply} {findings : Findings}
    {contents : Option Body.Contents}
    (silent : ∀ bytes, contents = some ⟨bytes, true⟩ → ∀ document,
      ErrorDocument.ofBytes? bytes = some document → document.message = none) :
    serviceError reply findings contents = fallbackError reply findings := by
  rw [serviceError]
  split
  · rename_i code message requestId found
    obtain ⟨⟨bytes, complete⟩, same, found⟩ := Option.bind_eq_some_iff.mp found
    cases complete with
    | false => cases found
    | true =>
        have mute := silent bytes same _ found
        cases mute
  · rfl

end Handler

namespace Reply

open Handler (serviceError errorContents)

/-- The length that the headers declare, if it can be read. -/
def declaredLength (reply : Reply) : Option Nat :=
  (reply.header? Header.contentLength).bind Metadata.length?

/-- The bytes of the body, as far as its declared length goes, which come without a failure. -/
def Delivers (reply : Reply) (bytes : Bytes) : Prop :=
  ∃ body length, reply.body? = some body ∧ reply.declaredLength = some length ∧ 0 < length ∧
    (body.breaksOff = true → length ≤ body.content.length) ∧ bytes = body.content.take length

/-- There is no body, or no positive length is declared, or the body breaks off before that. -/
def Withholds (reply : Reply) : Prop :=
  reply.body? = none ∨ reply.declaredLength = none ∨ reply.declaredLength = some 0 ∨
    ∃ body length, reply.body? = some body ∧ reply.declaredLength = some length ∧
      body.breaksOff = true ∧ body.content.length < length

theorem readUpTo_complete_iff {body : Body} {length : Nat} {bytes : Bytes} :
    body.readUpTo length = ⟨bytes, true⟩ ↔
      (body.breaksOff = true → length ≤ body.content.length) ∧
        bytes = body.content.take length := by
  rw [Body.readUpTo_eq, Body.Contents.mk.injEq, Bool.or_eq_true, decide_eq_true_eq,
    Bool.not_eq_true']
  constructor
  · rintro ⟨same, lasts | whole⟩
    · exact ⟨fun _ => lasts, same.symm⟩
    · refine ⟨fun breaks => ?_, same.symm⟩
      rw [whole] at breaks
      cases breaks
  · rintro ⟨lasts, same⟩
    refine ⟨same.symm, ?_⟩
    cases breaks : body.breaksOff with
    | false => exact .inr rfl
    | true => exact .inl (lasts breaks)

theorem delivers_iff {reply : Reply} {bytes : Bytes} :
    errorContents reply { metadata := Metadata.ofReply reply } = some ⟨bytes, true⟩ ↔
      reply.Delivers bytes := by
  have known : (Metadata.ofReply reply).contentLength = reply.declaredLength := rfl
  rw [errorContents, known]
  constructor
  · intro read
    split at read
    · rename_i body length attached declared
      split at read
      · cases read
      · rename_i positive
        obtain ⟨lasts, same⟩ := readUpTo_complete_iff.mp (Option.some.inj read)
        exact ⟨body, length, attached, declared, Nat.pos_of_ne_zero positive, lasts, same⟩
    · cases read
  · rintro ⟨body, length, attached, declared, positive, lasts, same⟩
    rw [attached, declared]
    dsimp only
    rw [if_neg (Nat.ne_of_gt positive), readUpTo_complete_iff.mpr ⟨lasts, same⟩]

theorem not_delivers_of_withholds {reply : Reply} (withholds : reply.Withholds) (bytes : Bytes) :
    ¬ reply.Delivers bytes := by
  rintro ⟨body, length, attached, declared, positive, lasts, -⟩
  rcases withholds with
    absent | unknown | nothing | ⟨other, limit, sameBody, sameLength, breaks, short⟩
  · rw [absent] at attached
    cases attached
  · rw [unknown] at declared
    cases declared
  · rw [nothing] at declared
    cases declared
    exact Nat.lt_irrefl 0 positive
  · rw [attached] at sameBody
    rw [declared] at sameLength
    cases sameBody
    cases sameLength
    exact Nat.not_le_of_lt short (lasts breaks)

/-- The error of a reply whose body tells nothing. -/
def statusError (reply : Reply) : ServiceError :=
  { code := none, message := reply.statusText, requestId := reply.header? Header.requestId
    status := reply.status }

variable {reply : Reply}

theorem process_error (failure : reply.isSuccess = false) :
    (reply.process Handler.standard).2 = .error (.service
      (serviceError reply { metadata := Metadata.ofReply reply }
        (errorContents reply { metadata := Metadata.ofReply reply }))) := by
  have refused : ¬ reply.isSuccess = true := Bool.eq_false_iff.mp failure
  simp only [process, Handler.standard, Handler.runAll, Handler.run, Handler.runError,
    if_neg refused]

theorem process_of_told (failure : reply.isSuccess = false) {bytes : Bytes}
    {code requestId : Option String} {message : String} (delivers : reply.Delivers bytes)
    (told : ErrorDocument.ofBytes? bytes = some { code, message := some message, requestId }) :
    (reply.process Handler.standard).2 =
      .error (.service { code, message, requestId, status := reply.status }) := by
  rw [process_error failure, delivers_iff.mpr delivers, Handler.serviceError_told told]

theorem process_of_untold (failure : reply.isSuccess = false)
    (silent : ∀ bytes, reply.Delivers bytes → ∀ document,
      ErrorDocument.ofBytes? bytes = some document → document.message = none) :
    (reply.process Handler.standard).2 = .error (.service reply.statusError) := by
  rw [process_error failure, Handler.serviceError_silent]
  · rfl
  · exact fun bytes read => silent bytes (delivers_iff.mp read)

theorem Delivers.unique {bytes others : Bytes} (delivers : reply.Delivers bytes)
    (again : reply.Delivers others) : bytes = others := by
  cases (delivers_iff.mpr delivers).symm.trans (delivers_iff.mpr again)
  rfl

/-- The error of a reply that is no success is told by its body as a whole, or else has the status
text for a message, no code, and the request id of the headers. It is told by every way to write an
object with a message, whatever else stands in it; an object without a message tells nothing, nor
does a body that does not come. An integer of sixty-four bits is told by the digits with which it is
written, and no number up to 10^308 is too large. -/
theorem error_told_or_fallback (failure : reply.isSuccess = false) :
    (∀ chars members code message requestId, reply.Delivers (Utf8.encode chars) →
      WritesWhole (.object members) chars →
      ErrorDocument.Told members code message requestId →
        (reply.process Handler.standard).2 =
          .error (.service { code, message, requestId, status := reply.status })) ∧
    ((reply.Withholds ∨ ∃ bytes, reply.Delivers bytes ∧ ErrorDocument.Silent bytes) →
      (reply.process Handler.standard).2 = .error (.service reply.statusError)) ∧
    ((reply.process Handler.standard).2 = .error (.service reply.statusError) ∨
      ∃ bytes code message requestId, reply.Delivers bytes ∧
        ErrorDocument.ofBytes? bytes = some { code, message := some message, requestId } ∧
        (reply.process Handler.standard).2 =
          .error (.service { code, message, requestId, status := reply.status })) ∧
    (∀ literal chars value, SpellsNumber literal chars → literal.IsInteger value →
      -2 ^ 63 ≤ value → value < 2 ^ 64 →
        ErrorDocument.TellsCode (some (.number literal)) (some (String.ofList chars))) ∧
    ∀ literal : Literal, literal.magnitude ≤ 10 ^ 308 →
      ∃ code, ErrorDocument.TellsCode (some (.number literal)) (some code) := by
  refine ⟨?_, ?_, ?_, ?_, ?_⟩
  · intro chars members code message requestId delivers writes told
    exact process_of_told failure delivers (ErrorDocument.ofBytes?_told writes told)
  · rintro (withholds | ⟨others, delivers, silent⟩)
    · refine process_of_untold failure fun bytes delivered => ?_
      exact absurd delivered (not_delivers_of_withholds withholds bytes)
    · refine process_of_untold failure fun bytes delivered document found => ?_
      rw [← delivers.unique delivered] at found
      exact ErrorDocument.message_of_silent silent found
  · by_cases told : ∃ bytes code message requestId, reply.Delivers bytes ∧
        ErrorDocument.ofBytes? bytes = some { code, message := some message, requestId }
    · obtain ⟨bytes, code, message, requestId, delivers, found⟩ := told
      exact .inr ⟨bytes, code, message, requestId, delivers, found,
        process_of_told failure delivers found⟩
    · refine .inl (process_of_untold failure ?_)
      rintro bytes delivers ⟨code, message, requestId⟩ found
      cases message with
      | none => rfl
      | some message => exact absurd ⟨bytes, code, message, requestId, delivers, found⟩ told
  · intro literal chars value spells integer low high
    obtain ⟨number, found, same⟩ :=
      Option.map_eq_some_iff.mp (Literal.text_of_isInteger spells integer low high)
    rw [← same]
    exact .number found
  · intro literal small
    obtain ⟨value, found⟩ := Literal.exists_number small
    exact ⟨value.toText, .number found⟩

/-- A bad request's reply with a text for its body. -/
def refusal (text : String) : Reply :=
  (((make 400).withHeader Header.contentLength (toString text.length)).withHeader
    Header.requestId "r").withBody (Body.whole (Utf8.encode text.toList))

theorem error_told_or_fallback_refusal :
    (refusal "\x7b\"code\":7,\"message\":\"no\"\x7d").isSuccess = false ∧
      ((refusal "\x7b\"code\":7,\"message\":\"no\"\x7d").process Handler.standard).2 =
        .error (.service
          { code := some "7", message := "no", requestId := none, status := 400 }) := by
  have failure : (refusal "\x7b\"code\":7,\"message\":\"no\"\x7d").isSuccess = false := by
    decide
  have delivers : (refusal "\x7b\"code\":7,\"message\":\"no\"\x7d").Delivers
      (Utf8.encode "\x7b\"code\":7,\"message\":\"no\"\x7d".toList) :=
    ⟨_, 25, rfl, by decide +kernel, by decide, (fun impossible => nomatch impossible),
      by decide +kernel⟩
  have blank : IsBlank [] := fun _ member => nomatch member
  have code : SpellsText "code".toList "code".toList := Json.Grammar.spellsText_self (by decide)
  have digit : SpellsNumber ⟨false, [7], none, none⟩ ['7'] :=
    .parts ⟨List.cons_ne_nil _ _, by decide, rfl⟩ (by decide) .absent .absent
  have message : SpellsText "message".toList "message".toList :=
    Json.Grammar.spellsText_self (by decide)
  have no : SpellsText "no".toList "no".toList := Json.Grammar.spellsText_self (by decide)
  have members : Writes
      (.members [("code", .number ⟨false, [7], none, none⟩), ("message", .text "no")])
      "\"code\":7,\"message\":\"no\"".toList :=
    .moreMembers blank code blank blank (.number digit) blank
      (.lastMember blank message blank blank (.text no) blank)
  have writes : WritesWhole
      (.object [("code", .number ⟨false, [7], none, none⟩), ("message", .text "no")])
      "\x7b\"code\":7,\"message\":\"no\"\x7d".toList :=
    ⟨[], _, [], blank, .object members, blank, rfl⟩
  have seven : Literal.number? ⟨false, [7], none, none⟩ = some (.integer 7) := by decide +kernel
  have told : ErrorDocument.Told
      [("code", .number ⟨false, [7], none, none⟩), ("message", .text "no")] (some "7") "no" none :=
    ⟨by decide, .number seven, rfl, .absent⟩
  exact ⟨failure, (error_told_or_fallback failure).1 _ _ _ _ _ delivers writes told⟩

/-- A number a little below the greatest double, whose leading digits are rounded up. -/
def steepCode : Literal :=
  ⟨false, [1, 7, 9, 7, 6, 9, 3, 1, 3, 4, 8, 6, 2, 3, 1, 5, 7, 0, 0], none, some (false, [2, 9, 0])⟩

def steepText : String :=
  "\x7b\"code\":1797693134862315700e290,\"message\":\"x\"\x7d"

/-- The digits and the power of ten are rounded one after the other, so a code in the range of a
double can be lost, and the message is lost with it. -/
theorem error_fallback_of_overflow :
    steepCode.magnitude ≤ Double.greatest ∧
      WritesWhole (.object [("code", .number steepCode), ("message", .text "x")])
        steepText.toList ∧
      (refusal steepText).isSuccess = false ∧
      (refusal steepText).Delivers (Utf8.encode steepText.toList) ∧
      ((refusal steepText).process Handler.standard).2 = .error (.service
        { code := none, message := "Bad Request", requestId := some "r", status := 400 }) := by
  have failure : (refusal steepText).isSuccess = false := by decide
  have delivers : (refusal steepText).Delivers (Utf8.encode steepText.toList) :=
    ⟨_, 46, rfl, by decide +kernel, by decide, (fun impossible => nomatch impossible),
      by decide +kernel⟩
  have blank : IsBlank [] := fun _ member => nomatch member
  have code : SpellsText "code".toList "code".toList := Json.Grammar.spellsText_self (by decide)
  have whole : SpellsDigits steepCode.whole "1797693134862315700".toList :=
    ⟨List.cons_ne_nil _ _, by decide, rfl⟩
  have power : SpellsDigits [2, 9, 0] "290".toList := ⟨List.cons_ne_nil _ _, by decide, rfl⟩
  have number : SpellsNumber steepCode "1797693134862315700e290".toList :=
    .parts whole (by decide) .absent (.unsigned (.inl rfl) power)
  have message : SpellsText "message".toList "message".toList :=
    Json.Grammar.spellsText_self (by decide)
  have x : SpellsText "x".toList "x".toList := Json.Grammar.spellsText_self (by decide)
  have members : Writes (.members [("code", .number steepCode), ("message", .text "x")])
      "\"code\":1797693134862315700e290,\"message\":\"x\"".toList :=
    .moreMembers blank code blank blank (.number number) blank
      (.lastMember blank message blank blank (.text x) blank)
  refine ⟨?_, ⟨[], _, [], blank, .object members, blank, rfl⟩, failure, delivers, ?_⟩
  · have room := Double.natCast_le_greatest
      (show 1797693134862315700 * 10 ^ 290 ≤ _ by decide +kernel)
    rwa [Nat.cast_mul, Nat.cast_pow, ← zpow_natCast] at room
  · have unread : ErrorDocument.ofBytes? (Utf8.encode steepText.toList) = none := by decide +kernel
    have fallback : (refusal steepText).statusError =
        { code := none, message := "Bad Request", requestId := some "r", status := 400 } := by
      decide +kernel
    rw [process_of_untold failure, fallback]
    intro bytes delivered document found
    rw [← delivers.unique delivered, unread] at found
    cases found

end Reply

end SignedRest
