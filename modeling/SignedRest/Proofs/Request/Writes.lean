/-
Requests that are built write by write. Of all that was written under a header name, a parameter key
or as the body, the last is what the request holds; so two runs of writes with the same last ones
give the same request, whatever came before and in whatever order.
-/

import SignedRest.Proofs.Request
import SignedRest.Proofs.Signing.Renewal

namespace SignedRest.Request

/-- What can be written into a request. A value that has no JSON text is not written. -/
inductive Write where
  | header (name value : String)
  | parameter (key value : String)
  | body (bytes : Bytes)
  | json (text : Option Bytes)

def perform (request : Request) : Write → Request
  | .header name value => request.setHeader name value
  | .parameter key value => request.addParameter key value
  | .body bytes => request.setBody bytes
  | .json (some text) => request.setBody text
  | .json none => request

theorem perform_json (request : Request) (value : Json) :
    request.perform (.json (some (Utf8.encodeText value.toText))) = request.setJson value :=
  rfl

def performAll (request : Request) (writes : List Write) : Request :=
  writes.foldl perform request

/-! ### What a write gives -/

namespace Write

def body? : Write → Option Bytes
  | body bytes => some bytes
  | json text => text
  | _ => none

/-- A body gives its length as a header. -/
def field? : Write → Option (String × String)
  | header name value => some (name.toLower, value)
  | write => write.body?.map (fun bytes => (Header.contentLength, toString bytes.length))

def parameter? : Write → Option (String × String)
  | parameter key value => some (key, value)
  | _ => none

end Write

theorem Write.field?_lowered {write : Write} {field : String × String}
    (gives : write.field? = some field) : field.1.toLower = field.1 := by
  have measured : ∀ body : Option Bytes,
      body.map (fun bytes => (Header.contentLength, toString bytes.length)) = some field →
        field.1.toLower = field.1 := by
    intro body given
    obtain ⟨bytes, _present, rfl⟩ := Option.map_eq_some_iff.mp given
    exact Header.toLower_known Header.contentLength
  cases write with
  | header name value =>
      cases gives
      exact Text.toLower_toLower name
  | parameter key value => exact measured none gives
  | body bytes => exact measured (some bytes) gives
  | json text => exact measured text gives

theorem setBody_eq (request : Request) (bytes : Bytes) :
    request.setBody bytes =
      { request with
        headers := request.headers.insert Header.contentLength (toString bytes.length)
        body := some bytes } := by
  rw [setBody, setHeader, Header.toLower_known Header.contentLength]

theorem perform_eq (request : Request) (write : Write) :
    request.perform write =
      { request with
        headers := request.headers.insertMany write.field?.toList
        parameters := request.parameters.insertMany write.parameter?.toList
        body := write.body?.or request.body } := by
  cases write with
  | header name value => rfl
  | parameter key value => rfl
  | body bytes => exact setBody_eq request bytes
  | json text =>
      cases text with
      | none => rfl
      | some bytes => exact setBody_eq request bytes

/-- Each part of a request goes its own way through the writes. -/
theorem performAll_eq (request : Request) (writes : List Write) :
    request.performAll writes =
      { request with
        headers := request.headers.insertMany (writes.filterMap Write.field?)
        parameters := request.parameters.insertMany (writes.filterMap Write.parameter?)
        body := (writes.filterMap Write.body?).getLast?.or request.body } := by
  induction writes generalizing request with
  | nil => rfl
  | cons write rest ih =>
      have divided : ∀ {Given : Type} (given : Write → Option Given),
          (write :: rest).filterMap given = (given write).toList ++ rest.filterMap given := by
        intro Given given
        rw [List.filterMap_cons]
        cases given write with
        | none => rfl
        | some value => rfl
      have last : write.body?.toList.getLast? = write.body? := by
        cases write.body? with
        | none => rfl
        | some bytes => rfl
      change (request.perform write).performAll rest = _
      rw [ih, perform_eq, divided, divided, divided, Table.insertMany_append,
        Table.insertMany_append, List.getLast?_append, last, Option.or_assoc]

/-! ### Last writes -/

/-- The last value of a name among those that are given. -/
def lastOf? (name : String) (pairs : List (String × String)) : Option String :=
  (pairs.filter (fun pair => pair.1 = name)).getLast?.map Prod.snd

def lastHeader? (name : String) (writes : List Write) : Option String :=
  lastOf? name (writes.filterMap Write.field?)

def lastParameter? (key : String) (writes : List Write) : Option String :=
  lastOf? key (writes.filterMap Write.parameter?)

def lastBody? (writes : List Write) : Option Bytes :=
  (writes.filterMap Write.body?).getLast?

/-- Two runs of writes that end alike, name by name. -/
structure EndAlike (left right : List Write) : Prop where
  headers : ∀ name : String, name.toLower = name → lastHeader? name left = lastHeader? name right
  parameters : ∀ key, lastParameter? key left = lastParameter? key right
  body : lastBody? left = lastBody? right

/-! ### New requests -/

section New

variable (method : String) (uri : Url)

def ofWrites (writes : List Write) : Request :=
  (make method uri).performAll writes

theorem ofWrites_eq (writes : List Write) :
    ofWrites method uri writes =
      { make method uri with
        headers := Table.ofList (writes.filterMap Write.field?)
        parameters := Table.ofList (writes.filterMap Write.parameter?)
        body := lastBody? writes } := by
  have unset : (make method uri).body = none := rfl
  rw [ofWrites, performAll_eq, unset, Option.or_none]
  rfl

theorem ofWrites_headers (writes : List Write) (name : String) :
    (ofWrites method uri writes).headers.get? name = lastHeader? name writes := by
  rw [ofWrites_eq]
  exact Table.get?_ofList _ name

theorem ofWrites_parameters (writes : List Write) (key : String) :
    (ofWrites method uri writes).parameters.get? key = lastParameter? key writes := by
  rw [ofWrites_eq]
  exact Table.get?_ofList _ key

theorem ofWrites_body (writes : List Write) :
    (ofWrites method uri writes).body = lastBody? writes := by
  rw [ofWrites_eq]

theorem ofWrites_header? (writes : List Write) (name : String) :
    (ofWrites method uri writes).header? name = lastHeader? name.toLower writes :=
  ofWrites_headers method uri writes name.toLower

theorem ofWrites_lowered (writes : List Write) :
    ∀ name ∈ (ofWrites method uri writes).headers.keys, name.toLower = name := by
  intro name member
  rw [ofWrites_eq, Table.mem_keys_iff] at member
  obtain ⟨pair, given, rfl⟩ := List.mem_map.mp ((Table.contains_ofList _ name).mp member)
  obtain ⟨write, _present, gives⟩ := List.mem_filterMap.mp given
  exact Write.field?_lowered gives

/-- A name that is not in lower case is never written, so nothing is asked of it. -/
theorem ofWrites_congr {left right : List Write} (alike : EndAlike left right) :
    ofWrites method uri left = ofWrites method uri right := by
  have unwritten : ∀ (writes : List Write) (name : String), name.toLower ≠ name →
      (ofWrites method uri writes).headers.get? name = none := by
    intro writes name raised
    rw [← Option.not_isSome_iff_eq_none, ← Table.mem_keys_iff]
    exact mt (ofWrites_lowered method uri writes name) raised
  have headers : (ofWrites method uri left).headers = (ofWrites method uri right).headers := by
    apply Table.ext_get?
    intro name
    by_cases lower : name.toLower = name
    · rw [ofWrites_headers, ofWrites_headers, alike.headers name lower]
    · rw [unwritten left name lower, unwritten right name lower]
  have parameters :
      (ofWrites method uri left).parameters = (ofWrites method uri right).parameters := by
    apply Table.ext_get?
    intro key
    rw [ofWrites_parameters, ofWrites_parameters, alike.parameters key]
  rw [ofWrites_eq, ofWrites_eq] at headers parameters ⊢
  dsimp only at headers parameters
  rw [headers, parameters, alike.body]

/-- The last writes are all that a request, its address and its signature depend on. Header names
are kept in lower case, each once, and a header is found under any spelling of its name. -/
theorem last_writes_count :
    (∀ left right : List Write, EndAlike left right →
      ofWrites method uri left = ofWrites method uri right ∧
      (ofWrites method uri left).url = (ofWrites method uri right).url ∧
      (∀ name, (ofWrites method uri left).header? name =
        (ofWrites method uri right).header? name) ∧
      ∀ (credentials : Credentials) (options : SignOptions) (time now later : Timestamp),
        options.timestamp = some time →
          Signing.sign (ofWrites method uri left) credentials options now =
            Signing.sign (ofWrites method uri right) credentials options later) ∧
    ∀ writes : List Write,
      (∀ name ∈ (ofWrites method uri writes).headers.keys, name.toLower = name) ∧
      (ofWrites method uri writes).headers.keys.Nodup ∧
      (∀ name, (ofWrites method uri writes).header? name = lastHeader? name.toLower writes) ∧
      (∀ key, (ofWrites method uri writes).parameters.get? key = lastParameter? key writes) ∧
      (ofWrites method uri writes).body = lastBody? writes := by
  constructor
  · intro left right alike
    have same := ofWrites_congr method uri alike
    refine ⟨same, congrArg url same, fun name => ?_, ?_⟩
    · rw [same]
    · intro credentials options time now later fixed
      rw [same]
      exact Signing.sign_fixed _ credentials fixed now later
  · intro writes
    exact ⟨ofWrites_lowered method uri writes, Table.keys_nodup _,
      ofWrites_header? method uri writes, ofWrites_parameters method uri writes,
      ofWrites_body method uri writes⟩

end New

/-- Writes that are made up for: a length that the caller gave, another spelling of a name, an old
value of a parameter, and a value without a text. -/
theorem last_writes_count_reordered :
    let origin : Url := ⟨"http", some ⟨"", none, .name "h", none⟩, .segments [""], none, none⟩
    let left : List Write := [.header Header.contentLength "9", .header "x-a" "1",
      .parameter "k" "old", .body [1, 2], .parameter "k" "new", .header "X-A" "2"]
    let right : List Write := [.header "x-a" "2", .json (some [1, 2]), .parameter "k" "new",
      .json none]
    EndAlike left right ∧ ofWrites "PUT" origin left = ofWrites "PUT" origin right := by
  intro origin left right
  have lowered : "X-A".toLower = "x-a" := by
    rw [← String.toList_inj, Text.toList_toLower]
    decide
  have kept : "x-a".toLower = "x-a" := Text.toLower_eq_self (by decide)
  have leftFields : left.filterMap Write.field? = [(Header.contentLength, "9"), ("x-a", "1"),
      (Header.contentLength, toString 2), ("x-a", "2")] := by
    simp only [left, List.filterMap_cons, Write.field?, Write.body?, lowered, kept,
      Header.toLower_known Header.contentLength]
    rfl
  have rightFields : right.filterMap Write.field? = [("x-a", "2"),
      (Header.contentLength, toString 2)] := by
    simp only [right, List.filterMap_cons, Write.field?, Write.body?, kept]
    rfl
  have alike : EndAlike left right := by
    refine ⟨fun name _lower => ?_, fun key => ?_, rfl⟩
    · rw [lastHeader?, lastHeader?, leftFields, rightFields]
      by_cases sized : Header.contentLength = name
      · rw [← sized]
        decide
      by_cases spelled : "x-a" = name
      · rw [← spelled]
        decide
      · simp only [lastOf?, List.filter_cons, sized, spelled, decide_false, Bool.false_eq_true,
          if_false]
    · change lastOf? key [("k", "old"), ("k", "new")] = lastOf? key [("k", "new")]
      by_cases asked : "k" = key
      · rw [← asked]
        decide
      · simp only [lastOf?, List.filter_cons, asked, decide_false, Bool.false_eq_true, if_false]
  exact ⟨alike, ((last_writes_count "PUT" origin).1 left right alike).1⟩

end SignedRest.Request
