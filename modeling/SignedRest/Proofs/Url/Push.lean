/-
Segments that are added to a path. An element is added as one segment that decodes to it, unless it
is made of dots alone or holds tabs or line breaks. A path whose segments hold no slash is told by
its text.
-/

import SignedRest.Proofs.Text.LetterCase
import SignedRest.Proofs.Url.Segments

namespace SignedRest.Url

/-! ### Dots -/

theorem eq_of_toLower_eq_e {c : Char} (same : c.toLower = 'e') : c = 'e' ∨ c = 'E' := by
  have lower : 'e'.toNat = 101 := rfl
  have upper : 'E'.toNat = 69 := rfl
  rw [← Char.toNat_inj, Text.toNat_toLower, lower] at same
  rw [← Char.toNat_inj, ← Char.toNat_inj, lower, upper]
  split at same <;> omega

/-- The two ways to write one dot, when letters are in lower case. -/
inductive DotText : List Char → Prop where
  | plain : DotText ['.']
  | escaped : DotText ['%', '2', 'e']

theorem DotText.decode {lowered chars : List Char} (dot : DotText lowered)
    (same : chars.map Char.toLower = lowered) (rest : Bytes) :
    Percent.decode (Utf8.encode chars ++ rest) = 0x2E :: Percent.decode rest := by
  cases dot with
  | plain =>
      obtain ⟨c, rfl, first⟩ := List.map_eq_singleton_iff.mp same
      rw [Text.eq_of_toLower_eq (by decide) first]
      exact Percent.decode_cons_of_ne (by decide) rest
  | escaped =>
      obtain ⟨percent, others, rfl, first, same⟩ := List.map_eq_cons_iff.mp same
      obtain ⟨two, others, rfl, second, same⟩ := List.map_eq_cons_iff.mp same
      obtain ⟨letter, rfl, third⟩ := List.map_eq_singleton_iff.mp same
      rw [Text.eq_of_toLower_eq (by decide) first, Text.eq_of_toLower_eq (by decide) second]
      rcases eq_of_toLower_eq_e third with rfl | rfl
      · rfl
      · rfl

theorem decodeText_of_isDot {segment : String} (dot : Segments.isDot segment = true) :
    Percent.decodeText segment = Utf8.encodeText "." := by
  have lowered : ∃ chars, DotText chars ∧ segment.toList.map Char.toLower = chars := by
    rw [Segments.isDot, Bool.or_eq_true, decide_eq_true_eq, decide_eq_true_eq] at dot
    rcases dot with rfl | same
    · exact ⟨_, .plain, rfl⟩
    · exact ⟨_, .escaped, by rw [← Text.toList_toLower, same]; rfl⟩
  obtain ⟨chars, written, same⟩ := lowered
  have read := written.decode same []
  rwa [List.append_nil] at read

theorem decodeText_of_isDoubleDot {segment : String} (dots : Segments.isDoubleDot segment = true) :
    Percent.decodeText segment = Utf8.encodeText ".." := by
  have lowered : ∃ first second, DotText first ∧ DotText second ∧
      segment.toList.map Char.toLower = first ++ second := by
    rw [← Text.toList_toLower]
    simp only [Segments.isDoubleDot, Bool.or_eq_true, decide_eq_true_eq] at dots
    rcases dots with ((same | same) | same) | same
    · exact ⟨_, _, .plain, .plain, congrArg String.toList same⟩
    · exact ⟨_, _, .plain, .escaped, congrArg String.toList same⟩
    · exact ⟨_, _, .escaped, .plain, congrArg String.toList same⟩
    · exact ⟨_, _, .escaped, .escaped, congrArg String.toList same⟩
  obtain ⟨first, second, written, alsoWritten, same⟩ := lowered
  obtain ⟨front, back, parts, frontSame, backSame⟩ := List.map_eq_append_iff.mp same
  have read := alsoWritten.decode backSame []
  rw [List.append_nil] at read
  rw [Percent.decodeText, Utf8.encodeText, parts, Utf8.encode_append,
    written.decode frontSame, read]
  rfl

/-! ### Elements -/

/-- An element that is not made of dots alone and holds no tab and no line break. -/
def IsWhole (element : String) : Prop :=
  element ≠ "." ∧ element ≠ ".." ∧ ∀ c ∈ element.toList, isBreak c = false

-- The characters of the element are gone through, and not all that there are.
instance (element : String) : Decidable (IsWhole element) :=
  @instDecidableAnd _ _ _ (@instDecidableAnd _ _ _ (List.decidableBAll _ _))

theorem keptInSegment_safe : Percent.IsSafe keptInSegment := by
  intro byte kept
  simp only [keptInSegment, keeps, Bool.and_eq_true, decide_eq_true_eq] at kept
  obtain ⟨⟨-, below⟩, clear⟩ := kept
  refine ⟨Nat.lt_of_lt_of_le (UInt8.lt_iff_toNat_lt.mp below) (by decide), ?_⟩
  rintro rfl
  exact absurd clear (by decide)

/-- The segment in which characters are added to a path. -/
def segmentFor (chars : List Char) : String :=
  encodeChars keptInSegment chars

theorem decodeText_segmentFor (chars : List Char) :
    Percent.decodeText (segmentFor chars) = Utf8.encode chars := by
  have read := Percent.decode_encode keptInSegment_safe (Utf8.encode chars) []
  rw [List.append_nil] at read
  rw [Percent.decodeText, Utf8.encodeText, segmentFor, encodeChars, String.toList_ofList, read]
  exact List.append_nil _

theorem slash_not_mem_segmentFor (chars : List Char) : '/' ∉ (segmentFor chars).toList :=
  not_mem_encodeChars_of_refused (by decide) (by decide) chars

theorem withoutBreaks_of_clear {chars : List Char} (clear : ∀ c ∈ chars, isBreak c = false) :
    withoutBreaks chars = chars := by
  rw [withoutBreaks, List.filter_eq_self]
  intro c member
  rw [clear c member]
  rfl

/-- The segments below which others are added. A lone empty segment is the root, and none of
them. -/
def stem (items : List String) : List String :=
  if items = [""] then [] else items

theorem push_whole (items : List String) {element : String} (whole : IsWhole element) :
    (Path.segments items).push element =
      .segments (stem items ++ [segmentFor element.toList]) := by
  obtain ⟨notDot, notDots, clear⟩ := whole
  have decoded := decodeText_segmentFor element.toList
  have single : Segments.isDot (segmentFor element.toList) = false := by
    rw [← Bool.not_eq_true]
    intro dot
    rw [decodeText_of_isDot dot] at decoded
    exact notDot (String.toList_inj.mp (Utf8.encode_injective decoded)).symm
  have double : Segments.isDoubleDot (segmentFor element.toList) = false := by
    rw [← Bool.not_eq_true]
    intro dots
    rw [decodeText_of_isDoubleDot dots] at decoded
    exact notDots (String.toList_inj.mp (Utf8.encode_injective decoded)).symm
  rw [Path.push]
  dsimp only
  rw [if_neg (not_or.mpr ⟨notDot, notDots⟩), withoutBreaks_of_clear clear]
  change Path.segments (Segments.finish (stem items) (segmentFor element.toList)) = _
  rw [Segments.finish, double, if_neg Bool.false_ne_true, single, if_neg Bool.false_ne_true]

theorem stem_concat {items : List String} {segment : String} (filled : items ≠ [] ∨ segment ≠ "") :
    stem (items ++ [segment]) = items ++ [segment] := by
  refine if_neg fun same => ?_
  rcases List.append_eq_singleton_iff.mp same with ⟨nothing, alone⟩ | ⟨-, impossible⟩
  · exact filled.elim (· nothing) (· (List.cons.inj alone).1)
  · exact List.cons_ne_nil _ _ impossible

/-- One after another, each as one segment. -/
theorem foldl_push_whole {elements : List String} (whole : ∀ element ∈ elements, IsWhole element)
    {items : List String} (filled : items ≠ []) (rooted : stem items = items) :
    elements.foldl Path.push (.segments items) =
      .segments (items ++ elements.map (fun element => segmentFor element.toList)) := by
  induction elements generalizing items with
  | nil => rw [List.foldl_nil, List.map_nil, List.append_nil]
  | cons element rest ih =>
      obtain ⟨here, later⟩ := List.forall_mem_cons.mp whole
      rw [List.foldl_cons, push_whole items here, rooted,
        ih later (List.append_ne_nil_of_left_ne_nil filled _) (stem_concat (.inl filled)),
        List.map_cons, List.append_assoc]
      rfl

/-! ### Paths as texts -/

/-- No segment holds a slash. -/
def Slashless (items : List String) : Prop :=
  ∀ item ∈ items, '/' ∉ item.toList

theorem slashless_root : Slashless [""] := by
  intro item member
  rw [List.mem_singleton.mp member]
  exact List.not_mem_nil

theorem slashless_segmentFor (elements : List String) :
    Slashless (elements.map (fun element => segmentFor element.toList)) := by
  intro item member
  obtain ⟨element, _, same⟩ := List.mem_map.mp member
  exact same ▸ slash_not_mem_segmentFor _

theorem Slashless.append {front back : List String} (clear : Slashless front)
    (backClear : Slashless back) : Slashless (front ++ back) :=
  List.forall_mem_append.mpr ⟨clear, backClear⟩

theorem Slashless.stem {items : List String} (clear : Slashless items) :
    Slashless (stem items) := by
  unfold Url.stem
  split
  · exact fun item member => absurd member List.not_mem_nil
  · exact clear

theorem toList_toText (items : List String) :
    (Path.segments items).toText.toList = Text.join '/' ([] :: items.map String.toList) := by
  rw [Path.toList_segments]
  induction items with
  | nil => rfl
  | cons item rest ih =>
      rw [List.flatMap_cons, ih, List.map_cons, Text.join_cons [] (List.cons_ne_nil _ _)]
      cases rest with
      | nil => exact congrArg ('/' :: ·) (List.append_nil _)
      | cons next more => rfl

theorem split_toText {items : List String} (clear : Slashless items) :
    Text.split '/' (Path.segments items).toText.toList = [] :: items.map String.toList := by
  rw [toList_toText, Text.split_join (List.cons_ne_nil _ _)]
  intro piece member
  rcases List.mem_cons.mp member with empty | inside
  · rw [empty]
    exact List.not_mem_nil
  · obtain ⟨item, present, same⟩ := List.mem_map.mp inside
    exact same ▸ clear item present

theorem splitText_toText {items : List String} (clear : Slashless items) :
    Text.splitText '/' (Path.segments items).toText = "" :: items := by
  rw [Text.splitText, split_toText clear, List.map_cons, List.map_map]
  exact congrArg ("" :: ·)
    ((List.map_congr_left fun item _ => String.ofList_toList).trans (List.map_id' items))

theorem toText_injective {items others : List String} (clear : Slashless items)
    (otherClear : Slashless others)
    (same : (Path.segments items).toText = (Path.segments others).toText) : items = others := by
  have divided := congrArg (Text.splitText '/') same
  rw [splitText_toText clear, splitText_toText otherClear] at divided
  exact (List.cons.inj divided).2

theorem toText_append (front back : List String) :
    (Path.segments (front ++ back)).toText =
      (Path.segments front).toText ++ (Path.segments back).toText := by
  rw [Path.toText, Path.toText, Path.toText, List.map_append, String.join_append]

/-! ### What an element may come to -/

/-- Whatever is added, no segment holds a slash. -/
theorem exists_push {items : List String} (clear : Slashless items) (element : String) :
    ∃ others, (Path.segments items).push element = .segments others ∧ Slashless others := by
  unfold Path.push
  dsimp only
  split
  · exact ⟨items, rfl, clear⟩
  · exact ⟨_, rfl, Segments.finish_lacks clear.stem (slash_not_mem_segmentFor _)⟩

/-- Only a whole element is the one that the last segment decodes to, unless nothing was added. -/
theorem whole_of_push {items front : List String} {element last : String}
    (added : (Path.segments items).push element = .segments (front ++ [last]))
    (decoded : Percent.decodeText last = Utf8.encodeText element) :
    IsWhole element ∨ (element = "." ∨ element = "..") ∧ items = front ++ [last] := by
  -- Dots that are left when breaks are taken out leave an empty segment, which decodes to nothing.
  have ofEmpty {others : List String} (same : others ++ [""] = front ++ [last]) :
      IsWhole element := by
    have empty : "" = last := List.singleton_inj.mp (List.append_inj_right' same rfl)
    rw [← empty] at decoded
    change Utf8.encode "".toList = Utf8.encode element.toList at decoded
    rw [← String.toList_inj.mp (Utf8.encode_injective decoded)]
    decide
  unfold Path.push at added
  dsimp only at added
  split at added
  · rename_i dots
    exact .inr ⟨dots, Path.segments.inj added⟩
  · rename_i dotless
    left
    replace added := Path.segments.inj added
    unfold Segments.finish at added
    split at added
    · exact ofEmpty added
    · split at added
      · exact ofEmpty added
      · have same : segmentFor (withoutBreaks element.toList) = last :=
          List.singleton_inj.mp (List.append_inj_right' added rfl)
        rw [← same, decodeText_segmentFor] at decoded
        have unbroken : withoutBreaks element.toList = element.toList :=
          Utf8.encode_injective decoded
        rw [not_or] at dotless
        refine ⟨dotless.1, dotless.2, fun c member => ?_⟩
        have kept := List.filter_eq_self.mp unbroken c member
        rwa [Bool.not_eq_true'] at kept

/-! ### Paths that are read -/

theorem slashless_ofChars (isSpecial : Bool) (chars : List Char) :
    ∃ items, Path.ofChars isSpecial chars = .segments items ∧ items ≠ [] ∧ Slashless items := by
  refine ⟨_, rfl, ?_, ?_⟩
  · exact Segments.run_ne_nil _ (mt List.map_eq_nil_iff.mp (Text.split_ne_nil _ _))
  · refine Segments.run_lacks (fun _ nothing => absurd nothing List.not_mem_nil) ?_
    intro item member
    obtain ⟨piece, present, same⟩ := List.mem_map.mp member
    rw [← same]
    exact not_mem_encodeChars_of_absent (by decide) _ (Text.not_mem_of_mem_split present)

theorem slashless_pathAfter (chars : List Char) :
    ∃ items, pathAfter true chars = .segments items ∧ items ≠ [] ∧ Slashless items := by
  cases chars with
  | nil => exact ⟨[""], rfl, List.cons_ne_nil _ _, slashless_root⟩
  | cons first rest => exact slashless_ofChars true _

/-! ### The end of a path -/

/-- A path text without one slash at its end, and no text where a slash alone is left. -/
def basePath (path : String) : String :=
  let shorter :=
    if path.toList.getLast? = some '/' then String.ofList path.toList.dropLast else path
  if shorter = "/" then "" else shorter

theorem toText_concat (front : List String) (last : String) :
    (Path.segments (front ++ [last])).toText.toList =
      (Path.segments front).toText.toList ++ '/' :: last.toList := by
  rw [toText_append, String.toList_append, Path.toList_segments [last], List.flatMap_singleton]

/-- A path ends in a slash where its last segment is empty. -/
theorem getLast?_toText {front : List String} {last : String} (clear : '/' ∉ last.toList) :
    (Path.segments (front ++ [last])).toText.toList.getLast? = some '/' ↔ last = "" := by
  rw [toText_concat, List.getLast?_append, List.getLast?_cons, Option.some_or]
  constructor
  · intro ends
    cases final : last.toList.getLast? with
    | none => exact String.toList_inj.mp (List.getLast?_eq_none_iff.mp final)
    | some c =>
        rw [final] at ends
        have same : c = '/' := Option.some.inj ends
        exact absurd (same ▸ List.mem_of_getLast? final) clear
  · rintro rfl
    rfl

theorem toText_eq_slash_iff {items : List String} (clear : Slashless items) :
    (Path.segments items).toText = "/" ↔ items = [""] := by
  constructor
  · exact fun same => toText_injective clear slashless_root same
  · rintro rfl
    rfl

theorem toText_stem {items : List String} (clear : Slashless items) :
    (Path.segments (stem items)).toText =
      if (Path.segments items).toText = "/" then "" else (Path.segments items).toText := by
  rw [stem]
  by_cases root : items = [""]
  · rw [if_pos root, if_pos ((toText_eq_slash_iff clear).mpr root)]
    rfl
  · rw [if_neg root, if_neg (mt (toText_eq_slash_iff clear).mp root)]

/-- The text of what segments are added to is the path without a slash at its end. -/
theorem dropEmptyEnd_base {items : List String} (filled : items ≠ []) (clear : Slashless items) :
    ∃ front, (Path.segments items).dropEmptyEnd = .segments front ∧ Slashless (stem front) ∧
      (Path.segments (stem front)).toText = basePath (Path.segments items).toText := by
  obtain ⟨front, last, rfl⟩ : ∃ front last, items = front ++ [last] :=
    ⟨_, _, (List.dropLast_concat_getLast filled).symm⟩
  have lastClear : '/' ∉ last.toList :=
    clear last (List.mem_append_right _ (List.mem_singleton_self _))
  have frontClear : Slashless front := fun item member => clear item (List.mem_append_left _ member)
  unfold Path.dropEmptyEnd basePath
  dsimp only
  by_cases empty : last = ""
  · subst empty
    have shorter : String.ofList (Path.segments (front ++ [""])).toText.toList.dropLast =
        (Path.segments front).toText := by
      rw [toText_concat]
      exact (congrArg String.ofList List.dropLast_concat).trans String.ofList_toList
    rw [if_pos ((getLast?_toText lastClear).mpr rfl), shorter, List.getLast?_concat]
    -- The root keeps its empty segment, but it is no stem for others.
    by_cases root : front = []
    · subst root
      exact ⟨[""], rfl, slashless_root.stem, rfl⟩
    · have longer : (front ++ [""]).length > 1 := by
        have positive := List.length_pos_iff.mpr root
        rw [List.length_append, List.length_singleton]
        omega
      refine ⟨front, ?_, frontClear.stem, toText_stem frontClear⟩
      rw [if_pos ⟨longer, rfl⟩, List.dropLast_concat]
  · have kept : ¬ ((front ++ [last]).length > 1 ∧ (front ++ [last]).getLast? = some "") := by
      rw [List.getLast?_concat]
      exact fun both => empty (Option.some.inj both.2)
    rw [if_neg (mt (getLast?_toText lastClear).mp empty), if_neg kept]
    exact ⟨_, rfl, clear.stem, toText_stem clear⟩

theorem basePath_append_slash {path : String} (unended : path.toList.getLast? ≠ some '/') :
    basePath (path ++ "/") = basePath path := by
  have slashed : (path ++ "/").toList = path.toList ++ ['/'] := String.toList_append
  unfold basePath
  dsimp only
  rw [slashed, List.getLast?_concat, if_pos rfl, List.dropLast_concat, String.ofList_toList,
    if_neg unended]

end SignedRest.Url
