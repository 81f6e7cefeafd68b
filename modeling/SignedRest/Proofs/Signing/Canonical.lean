/-
What a canonical request tells apart. No component holds the line break that ends it, and within a
component each piece is encoded without the marks that stand between the pieces; so the text is the
same exactly when the method is the same but for its case, the path has the same segments, the
parameters are the same but for an authorization, and the selected headers are the same.
-/

import SignedRest.Proofs.Signing.Query
import SignedRest.Proofs.Table
import SignedRest.Proofs.Text.LetterCase
import SignedRest.Proofs.Wire

namespace SignedRest.Canonical

/-! ### The method -/

theorem lineBreak_not_mem_method {method : String}
    (token : Wire.isToken (Utf8.encodeText method) = true) : '\n' ∉ method.toUpper.toList := by
  intro member
  have inside : '\n' ∈ method.toList := Text.mem_toUpper (by decide) member
  exact Wire.not_mem_token token (by decide) inside

/-! ### The path -/

/-- What the segments of a path mean, one by one. -/
def segmentTexts (raw : String) : List (List Char) :=
  (Text.split '/' raw.toList).map segmentText

def encodeSegment (text : List Char) : List Char :=
  Percent.encode isUnreserved (Utf8.encode text)

theorem encodeSegment_injective {left right : List Char}
    (same : encodeSegment left = encodeSegment right) : left = right := by
  have texts : normalize (String.ofList left) = normalize (String.ofList right) := by
    rw [← String.toList_inj, toList_normalize, toList_normalize, Utf8.encodeText, Utf8.encodeText,
      String.toList_ofList, String.toList_ofList]
    exact same
  have read := congrArg String.toList (normalize_injective texts)
  rwa [String.toList_ofList, String.toList_ofList] at read

theorem segmentTexts_ne_nil (raw : String) : segmentTexts raw ≠ [] := by
  intro empty
  exact Text.split_ne_nil '/' raw.toList (List.map_eq_nil_iff.mp empty)

/-- A path that starts with a slash has one segment before it, which is empty. -/
theorem toList_path {raw : String} (rooted : raw.toList.head? = some '/') :
    (path raw).toList = Text.join '/' ((segmentTexts raw).map encodeSegment) := by
  obtain ⟨rest, slash⟩ := List.head?_eq_some_iff.mp rooted
  have begins : ∃ more, Text.join '/' ((Text.split '/' raw.toList).map segment) = '/' :: more := by
    rw [slash, Text.split, if_pos rfl, List.map_cons]
    cases later : (Text.split '/' rest).map segment with
    | nil => exact absurd (List.map_eq_nil_iff.mp later) (Text.split_ne_nil '/' rest)
    | cons next more => exact ⟨Text.join '/' (next :: more), rfl⟩
  obtain ⟨more, joined⟩ := begins
  rw [path, String.toList_ofList, segmentTexts, List.map_map]
  simp only [joined]
  exact joined.symm

theorem path_eq_iff {left right : String} (leftRooted : left.toList.head? = some '/')
    (rightRooted : right.toList.head? = some '/') :
    path left = path right ↔ segmentTexts left = segmentTexts right := by
  have clear : ∀ raw, ∀ piece ∈ (segmentTexts raw).map encodeSegment, '/' ∉ piece := by
    intro raw piece member
    obtain ⟨text, _present, same⟩ := List.mem_map.mp member
    exact same ▸ separator_not_mem (by decide) _
  have nonempty : ∀ raw, (segmentTexts raw).map encodeSegment ≠ [] :=
    fun raw empty => segmentTexts_ne_nil raw (List.map_eq_nil_iff.mp empty)
  rw [← String.toList_inj, toList_path leftRooted, toList_path rightRooted,
    Text.join_inj (nonempty left) (nonempty right) (clear left) (clear right),
    List.map_inj_right (fun _ _ => encodeSegment_injective)]

theorem lineBreak_not_mem_path {raw : String} (rooted : raw.toList.head? = some '/') :
    '\n' ∉ (path raw).toList := by
  rw [toList_path rooted]
  intro member
  rcases Text.mem_join member with same | ⟨piece, present, inside⟩
  · exact absurd same (by decide)
  · obtain ⟨text, _present, same⟩ := List.mem_map.mp present
    rw [← same] at inside
    exact separator_not_mem (by decide) _ inside

/-! ### The parameters -/

theorem lineBreak_not_mem_query (parameters : List (String × String)) :
    '\n' ∉ (query parameters).toList :=
  fun member => absurd (query_printable member).1 (by decide)

theorem lineBreak_not_mem_signedQuery (parameters : List (String × String)) :
    '\n' ∉ (signedQuery parameters).toList :=
  lineBreak_not_mem_query _

theorem mem_signedEntries_iff (parameters : Fields) (key value : String) :
    (key, value) ∈ parameters.entries.filter (fun pair => pair.1.toLower ≠ Header.authorization) ↔
      key.toLower ≠ Header.authorization ∧ parameters.get? key = some value := by
  rw [List.mem_filter, decide_eq_true_eq, Table.get?_eq_some_iff]
  exact and_comm

theorem signedQuery_eq_iff (left right : Fields) :
    signedQuery left.entries = signedQuery right.entries ↔
      ∀ key, key.toLower ≠ Header.authorization → left.get? key = right.get? key := by
  have distinct : ∀ table : Fields,
      (table.entries.filter (fun pair => pair.1.toLower ≠ Header.authorization)).Nodup :=
    fun table => table.entries_nodup.filter _
  rw [signedQuery, signedQuery, query_eq_iff,
    List.perm_ext_iff_of_nodup (distinct left) (distinct right)]
  constructor
  · intro same key other
    apply Option.ext
    intro value
    have entry := same (key, value)
    rw [mem_signedEntries_iff, mem_signedEntries_iff] at entry
    simpa only [other, ne_eq, not_false_eq_true, true_and] using entry
  · rintro same ⟨key, value⟩
    rw [mem_signedEntries_iff, mem_signedEntries_iff]
    exact and_congr_right (fun other => by rw [same key other])

/-! ### The headers -/

def line (field : String × String) : String :=
  normalize field.1 ++ ":" ++ normalize field.2

theorem toList_line (field : String × String) :
    (line field).toList = (normalize field.1).toList ++ ':' :: (normalize field.2).toList := by
  rw [line, String.toList_append, String.toList_append, List.append_assoc]
  rfl

theorem line_injective {left right : String × String} (same : line left = line right) :
    left = right := by
  have names : ∀ name, ':' ∉ (normalize name).toList :=
    separator_not_mem_normalize (by decide)
  rw [← String.toList_inj, toList_line, toList_line, Text.append_cons_inj (names _) (names _),
    String.toList_inj, String.toList_inj] at same
  exact Prod.ext (normalize_injective same.1) (normalize_injective same.2)

def sortedLines (selected : Fields) : List String :=
  (selected.entries.map line).mergeSort (fun left right => decide (left ≤ right))

theorem toList_headers (selected : Fields) :
    (headers selected).toList = Text.join '\n' ((sortedLines selected).map String.toList) :=
  Text.toList_joinText rfl (sortedLines selected)

theorem mem_sortedLines {selected : Fields} {text : String} (member : text ∈ sortedLines selected) :
    ∃ field, text = line field := by
  rw [sortedLines, List.mem_mergeSort] at member
  obtain ⟨field, _present, same⟩ := List.mem_map.mp member
  exact ⟨field, same.symm⟩

theorem lines_perm_iff (left right : Fields) :
    (left.entries.map line).Perm (right.entries.map line) ↔ left = right := by
  constructor
  · intro perm
    have moved : ∀ field : String × String, field ∈ left.entries ↔ field ∈ right.entries := by
      intro field
      have listed : ∀ fields, line field ∈ List.map line fields ↔ field ∈ fields := by
        intro fields
        constructor
        · intro member
          obtain ⟨other, present, same⟩ := List.mem_map.mp member
          exact line_injective same ▸ present
        · exact List.mem_map_of_mem
      rw [← listed left.entries, ← listed right.entries]
      exact perm.mem_iff
    exact Table.eq_of_perm
      ((List.perm_ext_iff_of_nodup left.entries_nodup right.entries_nodup).mpr moved)
  · rintro rfl
    exact List.Perm.refl _

theorem headers_eq_iff (left right : Fields) : headers left = headers right ↔ left = right := by
  have filled : ∀ selected, ∀ piece ∈ (sortedLines selected).map String.toList, piece ≠ [] := by
    intro selected piece member
    obtain ⟨text, present, same⟩ := List.mem_map.mp member
    obtain ⟨field, rfl⟩ := mem_sortedLines present
    rw [← same, toList_line]
    exact List.append_ne_nil_of_right_ne_nil _ (List.cons_ne_nil ':' _)
  have clear : ∀ selected, ∀ piece ∈ (sortedLines selected).map String.toList, '\n' ∉ piece := by
    intro selected piece member inside
    obtain ⟨text, present, same⟩ := List.mem_map.mp member
    obtain ⟨field, rfl⟩ := mem_sortedLines present
    rw [← same, toList_line] at inside
    rcases List.mem_append.mp inside with inName | later
    · exact separator_not_mem_normalize (by decide) field.1 inName
    · rcases List.mem_cons.mp later with mark | inValue
      · exact absurd mark (by decide)
      · exact separator_not_mem_normalize (by decide) field.2 inValue
  rw [← String.toList_inj, toList_headers, toList_headers,
    Text.join_inj_of_filled (filled left) (filled right) (clear left) (clear right),
    List.map_inj_right (fun _ _ => String.toList_inj.mp), sortedLines, sortedLines,
    textBefore_linear.mergeSort_eq_iff, lines_perm_iff]

/-! ### The whole text -/

theorem toList_request (method path query headers : String) :
    (request method path query headers).toList =
      method.toUpper.toList ++ '\n' :: (path.toList ++ '\n' :: (query.toList ++ '\n' ::
        headers.toList)) := by
  simp only [request, String.toList_append, List.append_assoc]
  rfl

theorem request_eq_iff {method other : String} {path otherPath : String}
    (parameters otherParameters selected otherSelected : Fields)
    (token : Wire.isToken (Utf8.encodeText method) = true)
    (otherToken : Wire.isToken (Utf8.encodeText other) = true)
    (rooted : path.toList.head? = some '/') (otherRooted : otherPath.toList.head? = some '/') :
    request method (Canonical.path path) (signedQuery parameters.entries) (headers selected) =
        request other (Canonical.path otherPath) (signedQuery otherParameters.entries)
          (headers otherSelected) ↔
      method.toLower = other.toLower ∧ segmentTexts path = segmentTexts otherPath ∧
        (∀ key, key.toLower ≠ Header.authorization →
          parameters.get? key = otherParameters.get? key) ∧
        selected = otherSelected := by
  rw [← String.toList_inj, toList_request, toList_request,
    Text.append_cons_inj (lineBreak_not_mem_method token) (lineBreak_not_mem_method otherToken),
    Text.append_cons_inj (lineBreak_not_mem_path rooted) (lineBreak_not_mem_path otherRooted),
    Text.append_cons_inj (lineBreak_not_mem_signedQuery _) (lineBreak_not_mem_signedQuery _)]
  simp only [String.toList_inj]
  rw [Text.toUpper_eq_iff, path_eq_iff rooted otherRooted, ← signedQuery_eq_iff, headers_eq_iff]

/-- A slash that is written encoded is no end of a segment, and a line break in a value is none of a
component. -/
theorem request_eq_iff_encoded_marks :
    let parameters := Table.ofList [("q", "1\n"), ("Authorization", "old")]
    let otherParameters := Table.ofList [("q", "1\n")]
    let selected := Table.ofList [("host", "h\nx:y")]
    Wire.isToken (Utf8.encodeText "get") = true ∧ Wire.isToken (Utf8.encodeText "GET") = true ∧
      "/a%2fb".toList.head? = some '/' ∧ "/%61%2Fb".toList.head? = some '/' ∧
      "/a/b".toList.head? = some '/' ∧
      request "get" (path "/a%2fb") (signedQuery parameters.entries) (headers selected) =
        request "GET" (path "/%61%2Fb") (signedQuery otherParameters.entries) (headers selected) ∧
      request "get" (path "/a%2fb") (signedQuery parameters.entries) (headers selected) ≠
        request "GET" (path "/a/b") (signedQuery otherParameters.entries) (headers selected) := by
  intro parameters otherParameters selected
  refine ⟨by decide, by decide, by decide, by decide, by decide, ?_, ?_⟩
  · apply (request_eq_iff parameters otherParameters selected selected (by decide) (by decide)
      (by decide) (by decide)).mpr
    refine ⟨?_, by decide, fun key other => ?_, rfl⟩
    · rw [← String.toList_inj, Text.toList_toLower, Text.toList_toLower]
      decide
    have unnamed : key ≠ "Authorization" := by
      intro same
      apply other
      rw [same, ← String.toList_inj, Text.toList_toLower]
      decide
    exact Table.get?_insert_of_ne _ "old" unnamed
  · intro same
    have meaning := (request_eq_iff parameters otherParameters selected selected (by decide)
      (by decide) (by decide) (by decide)).mp same
    exact absurd meaning.2.1 (by decide)

end SignedRest.Canonical
