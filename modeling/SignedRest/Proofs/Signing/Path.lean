/-
The canonical path is a normal form. It is the path of some texts, each of them encoded, and such a
path is its own canonical form: what its segments mean are the texts again.
-/

import SignedRest.Proofs.Signing.Canonical
import SignedRest.Proofs.Url.Push

namespace SignedRest.Canonical

/-! ### What segments mean -/

def meaning (segment : String) : String :=
  String.ofList (segmentText segment.toList)

theorem meaning_normalize (text : String) : meaning (normalize text) = text := by
  have read : segmentText (normalize text).toList = text.toList := decodeLossy_normalize text
  rw [meaning, read, String.ofList_toList]

theorem meaning_segmentFor (text : String) : meaning (Url.segmentFor text.toList) = text := by
  have read : segmentText (Url.segmentFor text.toList).toList = text.toList := by
    change Utf8.decodeLossy (Percent.decodeText (Url.segmentFor text.toList)) = text.toList
    rw [Url.decodeText_segmentFor, Utf8.decodeLossy_encode]
  rw [meaning, read, String.ofList_toList]

theorem meaning_of_literal {segment : String}
    (literal : Percent.hasEscape segment.toList = false) : meaning segment = segment := by
  rw [meaning, segmentText, Percent.decode_of_literal literal, Utf8.decodeLossy_encode,
    String.ofList_toList]

theorem map_meaning_normalize (texts : List String) : (texts.map normalize).map meaning = texts := by
  rw [List.map_map]
  exact (List.map_congr_left (fun text _ => meaning_normalize text)).trans (List.map_id' texts)

/-- The canonical form of a segment encodes what the segment means. -/
theorem toList_normalize_meaning (item : String) :
    (normalize (meaning item)).toList = encodeSegment (segmentText item.toList) := by
  rw [toList_normalize, meaning, Utf8.encodeText, String.toList_ofList, encodeSegment]

theorem slashless_normalize (texts : List String) : Url.Slashless (texts.map normalize) := by
  intro item member
  obtain ⟨text, _present, same⟩ := List.mem_map.mp member
  exact same ▸ separator_not_mem_normalize (by decide) text

theorem path_segments {items : List String} (clear : Url.Slashless items) (filled : items ≠ []) :
    path (Url.Path.segments items).toText =
      (Url.Path.segments ((items.map meaning).map normalize)).toText := by
  have rooted : (Url.Path.segments items).toText.toList.head? = some '/' := by
    rw [Url.Path.toList_segments]
    cases items with
    | nil => exact absurd rfl filled
    | cons first rest => rfl
  rw [← String.toList_inj, toList_path rooted, segmentTexts, Url.split_toText clear,
    Url.toList_toText]
  simp only [List.map_cons, List.map_map]
  exact congrArg (fun pieces => Text.join '/' ([] :: pieces))
    (List.map_congr_left (fun item _ => (toList_normalize_meaning item).symm))

/-- Encoded texts are canonical already. -/
theorem path_normalized {texts : List String} (filled : texts ≠ []) :
    path (Url.Path.segments (texts.map normalize)).toText =
      (Url.Path.segments (texts.map normalize)).toText := by
  rw [path_segments (slashless_normalize texts) (mt List.map_eq_nil_iff.mp filled),
    map_meaning_normalize]

/-- The encodings with which elements are added to a path and with which they are signed differ, but
not in what they mean. -/
theorem path_segmentFor {front : List String} (clear : Url.Slashless front) {elements : List String}
    (filled : front ++ elements ≠ []) :
    path (Url.Path.segments
        (front ++ elements.map (fun element => Url.segmentFor element.toList))).toText =
      path (Url.Path.segments (front ++ elements.map normalize)).toText := by
  have written : front ++ elements.map (fun element => Url.segmentFor element.toList) ≠ [] := by
    simpa using filled
  have encoded : front ++ elements.map normalize ≠ [] := by
    simpa using filled
  rw [path_segments (clear.append (Url.slashless_segmentFor elements)) written,
    path_segments (clear.append (slashless_normalize elements)) encoded]
  simp only [List.map_append, List.map_map, Function.comp_def, meaning_segmentFor,
    meaning_normalize]

/-! ### Any path -/

theorem path_cases (raw : String) :
    (∃ rest, Text.join '/' ((Text.split '/' raw.toList).map segment) = '/' :: rest ∧
        (path raw).toList = '/' :: rest) ∨
      (path raw).toList = '/' :: Text.join '/' ((Text.split '/' raw.toList).map segment) := by
  rw [path, String.toList_ofList]
  split
  · rename_i rest slashed
    exact Or.inl ⟨rest, slashed, slashed⟩
  · exact Or.inr rfl

/-- The canonical segments encode some texts, and one at least. -/
theorem exists_pieces (raw : String) :
    ∃ texts : List String, texts ≠ [] ∧
      (Text.split '/' raw.toList).map segment = (texts.map normalize).map String.toList := by
  refine ⟨(Text.splitText '/' raw).map meaning, ?_, ?_⟩
  · exact mt List.map_eq_nil_iff.mp (mt List.map_eq_nil_iff.mp (Text.split_ne_nil '/' raw.toList))
  · simp only [Text.splitText, List.map_map]
    apply List.map_congr_left
    intro piece _present
    rw [Function.comp_apply, Function.comp_apply, Function.comp_apply, toList_normalize_meaning,
      String.toList_ofList]
    rfl

theorem toList_normalized {texts : List String} (filled : texts ≠ []) :
    (Url.Path.segments (texts.map normalize)).toText.toList =
      '/' :: Text.join '/' ((texts.map normalize).map String.toList) := by
  rw [Url.toList_toText, Text.join_cons [] (by simpa using filled), List.nil_append]

/-- Whatever its spelling, a path comes to that of some texts. If its first segment is empty, that
one is the place before the first slash. -/
theorem exists_texts (raw : String) :
    ∃ texts : List String, texts ≠ [] ∧
      path raw = (Url.Path.segments (texts.map normalize)).toText := by
  obtain ⟨texts, filled, pieces⟩ := exists_pieces raw
  rcases path_cases raw with ⟨rest, joined, slashed⟩ | unslashed
  · have divided : (texts.map normalize).map String.toList = [] :: Text.split '/' rest := by
      rw [pieces] at joined
      have clear : ∀ piece ∈ (texts.map normalize).map String.toList, '/' ∉ piece :=
        List.forall_mem_map.mpr (slashless_normalize texts)
      rw [← Text.split_join (by simpa using filled) clear, joined, Text.split, if_pos rfl]
    cases texts with
    | nil => exact absurd rfl filled
    | cons first later =>
        have others := (List.cons.inj divided).2
        have remains : later ≠ [] := by
          rintro rfl
          exact Text.split_ne_nil '/' rest others.symm
        refine ⟨later, remains, ?_⟩
        rw [← String.toList_inj, slashed, toList_normalized remains, others, Text.join_split]
  · refine ⟨texts, filled, ?_⟩
    rw [← String.toList_inj, unslashed, toList_normalized filled, pieces]

theorem path_path (raw : String) : path (path raw) = path raw := by
  obtain ⟨texts, filled, same⟩ := exists_texts raw
  rw [same, path_normalized filled]

/-! ### The characters of a path -/

/-- Unreserved characters, slashes, and escapes in upper case. -/
inductive Escaped : List Char → Prop
  | nil : Escaped []
  | plain {c : Char} {rest : List Char}
      (stands : c.isAlphanum = true ∨ c ∈ ['-', '.', '_', '~', '/']) (later : Escaped rest) :
      Escaped (c :: rest)
  | escape {high low : Char} {rest : List Char} (upper : high ∈ "0123456789ABCDEF".toList)
      (lower : low ∈ "0123456789ABCDEF".toList) (later : Escaped rest) :
      Escaped ('%' :: high :: low :: rest)

theorem Escaped.append {front rest : List Char} (before : Escaped front) (after : Escaped rest) :
    Escaped (front ++ rest) := by
  induction before with
  | nil => exact after
  | plain stands _later ih => exact .plain stands ih
  | escape upper lower _later ih => exact .escape upper lower ih

theorem escaped_encode (bytes : Bytes) : Escaped (Percent.encode isUnreserved bytes) := by
  have unreserved : ∀ code : Fin 256, isUnreserved (UInt8.ofNat code.val) = true →
      (Char.ofNat code.val).isAlphanum = true ∨
        Char.ofNat code.val ∈ ['-', '.', '_', '~', '/'] := by decide +kernel
  have digits : ∀ value : Fin 16, Number.upperDigit value.val ∈ "0123456789ABCDEF".toList := by
    decide
  induction bytes with
  | nil => exact .nil
  | cons byte rest ih =>
      have bound := byte.toNat_lt
      have stands := unreserved ⟨byte.toNat, bound⟩
      rw [UInt8.ofNat_toNat] at stands
      rw [Percent.encode, List.flatMap_cons, Percent.encodeByte]
      split
      · rename_i kept
        exact .plain (stands kept) ih
      · exact .escape (digits ⟨byte.toNat / 16, by omega⟩) (digits ⟨byte.toNat % 16, by omega⟩) ih

theorem escaped_normalized (texts : List String) :
    Escaped (Url.Path.segments (texts.map normalize)).toText.toList := by
  rw [Url.Path.toList_segments, List.flatMap_map]
  induction texts with
  | nil => exact .nil
  | cons text rest ih =>
      have here : Escaped (normalize text).toList := by
        rw [toList_normalize]
        exact escaped_encode _
      exact (Escaped.plain (Or.inr (by decide)) here).append ih

/-! ### Raw segments -/

/-- A segment that has nothing to be decoded. -/
structure IsRaw (segment : String) : Prop where
  slashless : '/' ∉ segment.toList
  literal : Percent.hasEscape segment.toList = false

theorem map_meaning_raw {segments : List String} (raw : ∀ segment ∈ segments, IsRaw segment) :
    segments.map meaning = segments :=
  (List.map_congr_left (fun segment member => meaning_of_literal (raw segment member).literal)).trans
    (List.map_id' segments)

/-- The canonical path is made of slashes and encoded text and canonical already. Segments have the
same one whether they are raw or encoded, the path of them that is encoded, unless there are none:
then it is a slash. -/
theorem path_is_normal :
    (∀ raw : String, (path raw).toList.head? = some '/' ∧ Escaped (path raw).toList ∧
      path (path raw) = path raw) ∧
    ∀ segments : List String, (∀ segment ∈ segments, IsRaw segment) →
      path (Url.Path.segments segments).toText =
          path (Url.Path.segments (segments.map normalize)).toText ∧
        path (Url.Path.segments (segments.map normalize)).toText =
          if segments = [] then "/" else (Url.Path.segments (segments.map normalize)).toText := by
  constructor
  · intro raw
    obtain ⟨texts, filled, same⟩ := exists_texts raw
    refine ⟨?_, same ▸ escaped_normalized texts, path_path raw⟩
    rw [same, toList_normalized filled, List.head?_cons]
  · intro segments raw
    by_cases empty : segments = []
    · rw [if_pos empty, empty, List.map_nil]
      exact ⟨rfl, rfl⟩
    · have clear : Url.Slashless segments := fun segment member => (raw segment member).slashless
      rw [if_neg empty, path_normalized empty, path_segments clear empty, map_meaning_raw raw]
      exact ⟨rfl, rfl⟩

/-- Blanks, marks of a query, a percent sign that starts no escape, text that is no ASCII, and
nothing at all. -/
theorem path_is_normal_awkward :
    let segments := ["a b", "?&=#", "100%", "%4", "%zz%", "é", ""]
    (∀ segment ∈ segments, IsRaw segment) ∧
      path (Url.Path.segments segments).toText =
        (Url.Path.segments (segments.map normalize)).toText := by
  intro segments
  obtain ⟨_everywhere, raws⟩ := path_is_normal
  have raw : ∀ segment ∈ segments, IsRaw segment := by
    have slashless : ∀ segment ∈ segments, '/' ∉ segment.toList := by decide
    have literal : ∀ segment ∈ segments, Percent.hasEscape segment.toList = false := by decide
    exact fun segment member => ⟨slashless segment member, literal segment member⟩
  obtain ⟨same, itself⟩ := raws segments raw
  rw [if_neg (List.cons_ne_nil _ _)] at itself
  exact ⟨raw, same.trans itself⟩

/-- The path of no segments is empty, which no canonical path is. -/
theorem path_not_always_encoded :
    ¬ ∀ segments : List String, (∀ segment ∈ segments, IsRaw segment) →
      path (Url.Path.segments (segments.map normalize)).toText =
        (Url.Path.segments (segments.map normalize)).toText := by
  intro always
  have empty := always [] (fun _ absent => nomatch absent)
  exact absurd empty (by decide)

end SignedRest.Canonical
