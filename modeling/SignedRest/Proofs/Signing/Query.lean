/-
The query of a canonical request. Its keys and values hold no separator, so the parameters can be
read back from it, and two lists of parameters have the same query exactly when one is a
rearrangement of the other.
-/

import SignedRest.Proofs.Text.Percent
import SignedRest.Proofs.Text.Separated
import SignedRest.Signing.Verification

namespace SignedRest

/-! ### Orders that sort in one way only -/

/-- A total order, as a test. -/
structure IsLinear {Item : Type} (before : Item → Item → Bool) : Prop where
  trans : ∀ first second third, before first second = true → before second third = true →
    before first third = true
  total : ∀ first second, (before first second || before second first) = true
  antisymm : ∀ first second, before first second = true → before second first = true →
    first = second

theorem IsLinear.mergeSort_eq_iff {Item : Type} {before : Item → Item → Bool}
    (linear : IsLinear before) (left right : List Item) :
    left.mergeSort before = right.mergeSort before ↔ left.Perm right := by
  have leftPerm := List.mergeSort_perm left before
  have rightPerm := List.mergeSort_perm right before
  constructor
  · intro same
    rw [same] at leftPerm
    exact leftPerm.symm.trans rightPerm
  · intro perm
    exact List.Perm.eq_of_pairwise
      (fun first second _ _ one other => linear.antisymm first second one other)
      (List.pairwise_mergeSort linear.trans linear.total left)
      (List.pairwise_mergeSort linear.trans linear.total right)
      (leftPerm.trans (perm.trans rightPerm.symm))

theorem textBefore_linear : IsLinear (fun left right : String => decide (left ≤ right)) where
  trans := by
    intro first second third one other
    rw [decide_eq_true_eq] at *
    exact String.le_trans one other
  total := by
    intro first second
    rw [Bool.or_eq_true, decide_eq_true_eq, decide_eq_true_eq]
    exact String.le_total first second
  antisymm := by
    intro first second one other
    rw [decide_eq_true_eq] at *
    exact String.le_antisymm one other

namespace Canonical

theorem pairBefore_iff (left right : String × String) :
    pairBefore left right = true ↔
      left.1 < right.1 ∨ (left.1 = right.1 ∧ left.2 ≤ right.2) := by
  simp only [pairBefore, Bool.or_eq_true, Bool.and_eq_true, decide_eq_true_eq]

theorem pairBefore_linear : IsLinear pairBefore where
  trans := by
    intro first second third one other
    rw [pairBefore_iff] at *
    rcases one with less | ⟨same, le⟩
    · rcases other with later | ⟨alike, _⟩
      · exact Or.inl (String.lt_trans less later)
      · exact Or.inl (alike ▸ less)
    · rcases other with later | ⟨alike, further⟩
      · exact Or.inl (same ▸ later)
      · exact Or.inr ⟨same.trans alike, String.le_trans le further⟩
  total := by
    intro first second
    rw [Bool.or_eq_true, pairBefore_iff, pairBefore_iff]
    by_cases same : first.1 = second.1
    · rcases String.le_total first.2 second.2 with le | ge
      · exact Or.inl (Or.inr ⟨same, le⟩)
      · exact Or.inr (Or.inr ⟨same.symm, ge⟩)
    · rcases String.le_total first.1 second.1 with le | ge
      · exact Or.inl (Or.inl (Std.lt_of_le_of_ne le same))
      · exact Or.inr (Or.inl (Std.lt_of_le_of_ne ge (Ne.symm same)))
  antisymm := by
    intro first second one other
    rw [pairBefore_iff] at *
    rcases one with less | ⟨same, le⟩
    · rcases other with greater | ⟨alike, _⟩
      · exact absurd greater (String.lt_asymm less)
      · exact absurd (alike ▸ less) (String.lt_irrefl first.1)
    · rcases other with greater | ⟨_, ge⟩
      · exact absurd (same ▸ greater) (String.lt_irrefl first.1)
      · exact Prod.ext same (String.le_antisymm le ge)

/-! ### Normalized text -/

theorem isUnreserved_range {byte : UInt8} (kept : isUnreserved byte = true) :
    (48 ≤ byte.toNat ∧ byte.toNat ≤ 57) ∨ (65 ≤ byte.toNat ∧ byte.toNat ≤ 90) ∨
      (97 ≤ byte.toNat ∧ byte.toNat ≤ 122) ∨ byte.toNat = 45 ∨ byte.toNat = 46 ∨
      byte.toNat = 95 ∨ byte.toNat = 126 := by
  simp only [isUnreserved, Bool.or_eq_true, Bool.and_eq_true, decide_eq_true_eq, beq_iff_eq,
    UInt8.le_iff_toNat_le, ← UInt8.toNat_inj, UInt8.reduceToNat] at kept
  omega

theorem isUnreserved_safe : Percent.IsSafe isUnreserved := by
  intro byte kept
  have range := isUnreserved_range kept
  refine ⟨by omega, fun same => ?_⟩
  rw [same] at range
  revert range
  decide

/-- The marks that stand between the parts of a canonical request and of an address. -/
def separators : List Char := ['\n', '/', ':', '=', '&', '?', '#']

theorem separator_not_mem {mark : Char} (separates : mark ∈ separators) (bytes : Bytes) :
    mark ∉ Percent.encode isUnreserved bytes := by
  have codes : mark.toNat ∈ [10, 47, 58, 61, 38, 63, 35] := List.mem_map_of_mem separates
  simp only [List.mem_cons, List.not_mem_nil, or_false] at codes
  apply Percent.not_mem_encode
  · intro escaped
    have range := Percent.toNat_of_mem_escapeMarks escaped
    omega
  · intro byte kept same
    have range := isUnreserved_range kept
    rw [same, Utf8.toNat_charOfNat (by omega)] at codes
    omega

theorem toList_normalize (text : String) :
    (normalize text).toList = Percent.encode isUnreserved (Utf8.encodeText text) := by
  rw [normalize, Percent.encodeText, String.toList_ofList]

theorem normalize_printable {text : String} {c : Char} (member : c ∈ (normalize text).toList) :
    0x20 < c.toNat ∧ c.toNat < 0x7F := by
  rw [toList_normalize] at member
  rcases Percent.mem_encode member with mark | ⟨byte, _present, kept, same⟩
  · have range := Percent.toNat_of_mem_escapeMarks mark
    omega
  · have range := isUnreserved_range kept
    rw [same, Utf8.toNat_charOfNat (by omega)]
    omega

theorem separator_not_mem_normalize {mark : Char} (separates : mark ∈ separators) (text : String) :
    mark ∉ (normalize text).toList := by
  rw [toList_normalize]
  exact separator_not_mem separates _

theorem decodeLossy_normalize (text : String) :
    Utf8.decodeLossy (Percent.decodeText (normalize text)) = text.toList := by
  rw [normalize, Percent.decodeText_encodeText isUnreserved_safe, Utf8.encodeText,
    Utf8.decodeLossy_encode]

theorem normalize_injective {left right : String} (same : normalize left = normalize right) :
    left = right := by
  have read := congrArg (fun text => Utf8.decodeLossy (Percent.decodeText text)) same
  simp only [decodeLossy_normalize] at read
  exact String.toList_inj.mp read

/-! ### Reading the query back -/

open Signing (Arrival)

/-- One parameter as it stands in the query, its key and value encoded already. -/
def item (pair : String × String) : List Char :=
  pair.1.toList ++ '=' :: pair.2.toList

def normalizePair (pair : String × String) : String × String :=
  (normalize pair.1, normalize pair.2)

theorem parameterText_normalize (text : String) :
    Arrival.parameterText (normalize text).toList = text := by
  rw [Arrival.parameterText]
  exact (congrArg String.ofList (decodeLossy_normalize text)).trans (String.ofList_toList)

theorem parameter_item (pair : String × String) :
    Arrival.parameter (item (normalizePair pair)) = pair := by
  have clear : '=' ∉ (normalize pair.1).toList := separator_not_mem_normalize (by decide) pair.1
  rw [Arrival.parameter, item, normalizePair, Text.cut_append_cons clear]
  exact Prod.ext (parameterText_normalize pair.1) (parameterText_normalize pair.2)

theorem separator_not_mem_item {mark : Char} (separates : mark ∈ separators) (apart : mark ≠ '=')
    (pair : String × String) : mark ∉ item (normalizePair pair) := by
  intro member
  rcases List.mem_append.mp member with inKey | later
  · exact separator_not_mem_normalize separates pair.1 inKey
  · rcases List.mem_cons.mp later with same | inValue
    · exact apart same
    · exact separator_not_mem_normalize separates pair.2 inValue

theorem encodedPairs_perm (parameters : List (String × String)) :
    (encodedPairs parameters).Perm (parameters.map normalizePair) :=
  List.mergeSort_perm _ _

theorem decodedPairs_perm (parameters : List (String × String)) :
    ((encodedPairs parameters).map (Arrival.parameter ∘ item)).Perm parameters := by
  have decoded : (parameters.map normalizePair).map (Arrival.parameter ∘ item) = parameters := by
    rw [List.map_map]
    exact (List.map_congr_left (fun pair _ => parameter_item pair)).trans
      (List.map_id' parameters)
  have moved := (encodedPairs_perm parameters).map (Arrival.parameter ∘ item)
  rwa [decoded] at moved

theorem mem_encodedPairs {parameters : List (String × String)} {pair : String × String}
    (member : pair ∈ encodedPairs parameters) : ∃ original, pair = normalizePair original := by
  obtain ⟨original, _present, same⟩ :=
    List.mem_map.mp ((encodedPairs_perm parameters).mem_iff.mp member)
  exact ⟨original, same.symm⟩

theorem toList_query (parameters : List (String × String)) :
    (query parameters).toList = Text.join '&' ((encodedPairs parameters).map item) := by
  have parts : ∀ pair : String × String, (pair.1 ++ "=" ++ pair.2).toList = item pair := by
    intro pair
    rw [String.toList_append, String.toList_append, List.append_assoc]
    rfl
  rw [query, Text.toList_joinText rfl, List.map_map]
  exact congrArg (Text.join '&') (List.map_congr_left (fun pair _ => parts pair))

/-- A query has no blanks and no control characters, whatever its parameters hold. -/
theorem query_printable {parameters : List (String × String)} {c : Char}
    (member : c ∈ (query parameters).toList) : 0x20 < c.toNat ∧ c.toNat < 0x7F := by
  rw [toList_query] at member
  rcases Text.mem_join member with rfl | ⟨piece, present, inside⟩
  · decide
  · obtain ⟨pair, encoded, rfl⟩ := List.mem_map.mp present
    obtain ⟨original, rfl⟩ := mem_encodedPairs encoded
    rcases List.mem_append.mp inside with inKey | later
    · exact normalize_printable inKey
    · rcases List.mem_cons.mp later with rfl | inValue
      · decide
      · exact normalize_printable inValue

/-- The parameters that a query denotes: none if it is empty. -/
def readQuery : List Char → List (String × String)
  | [] => []
  | first :: rest => (Text.split '&' (first :: rest)).map Arrival.parameter

theorem readQuery_of_ne_nil {chars : List Char} (nonempty : chars ≠ []) :
    readQuery chars = (Text.split '&' chars).map Arrival.parameter := by
  cases chars with
  | nil => exact absurd rfl nonempty
  | cons first rest => rfl

theorem item_ne_nil (pair : String × String) : item pair ≠ [] :=
  List.append_ne_nil_of_right_ne_nil _ (List.cons_ne_nil '=' _)

theorem toList_query_eq_nil_iff (parameters : List (String × String)) :
    (query parameters).toList = [] ↔ parameters = [] := by
  have filled : ∀ piece ∈ (encodedPairs parameters).map item, piece ≠ [] := by
    intro piece member
    obtain ⟨pair, _present, same⟩ := List.mem_map.mp member
    exact same ▸ item_ne_nil pair
  rw [toList_query, Text.join_eq_nil_iff filled, List.map_eq_nil_iff, ← List.length_eq_zero_iff,
    (encodedPairs_perm parameters).length_eq, List.length_map, List.length_eq_zero_iff]

theorem split_query {parameters : List (String × String)} (nonempty : parameters ≠ []) :
    Text.split '&' (query parameters).toList = (encodedPairs parameters).map item := by
  have written := mt (toList_query_eq_nil_iff parameters).mp nonempty
  rw [toList_query] at written ⊢
  apply Text.split_join
  · intro empty
    rw [empty] at written
    exact written rfl
  · intro piece member
    obtain ⟨pair, present, same⟩ := List.mem_map.mp member
    obtain ⟨original, rfl⟩ := mem_encodedPairs present
    rw [← same]
    exact separator_not_mem_item (by decide) (by decide) original

/-- The order of the parameters is lost, and nothing else. -/
theorem readQuery_query_perm (parameters : List (String × String)) :
    (readQuery (query parameters).toList).Perm parameters := by
  by_cases empty : parameters = []
  · rw [(toList_query_eq_nil_iff parameters).mpr empty, empty, readQuery]
  · rw [readQuery_of_ne_nil (mt (toList_query_eq_nil_iff parameters).mp empty), split_query empty,
      List.map_map]
    exact decodedPairs_perm parameters

theorem query_eq_iff (left right : List (String × String)) :
    query left = query right ↔ left.Perm right := by
  constructor
  · intro same
    have read := readQuery_query_perm left
    rw [same] at read
    exact read.symm.trans (readQuery_query_perm right)
  · intro perm
    have sorted : encodedPairs left = encodedPairs right :=
      (pairBefore_linear.mergeSort_eq_iff _ _).mpr (perm.map normalizePair)
    rw [query, query, sorted]

theorem signedQuery_of_perm {left right : List (String × String)} (perm : left.Perm right) :
    signedQuery left = signedQuery right :=
  (query_eq_iff _ _).mpr (perm.filter _)

end Canonical

end SignedRest
