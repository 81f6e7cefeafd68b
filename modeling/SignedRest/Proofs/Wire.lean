/-
What can be sent. The characters of a token are ASCII and neither blanks nor separators, and headers
are handed over exactly when each name is a token, each value is printable, and there are not too
many of them.
-/

import SignedRest.Proofs.Result
import SignedRest.Proofs.Table
import SignedRest.Proofs.Text.Utf8
import SignedRest.Wire

namespace SignedRest.Wire

/-! ### Tokens -/

theorem isTokenByte_range {byte : UInt8} (allowed : isTokenByte byte = true) :
    0x20 < byte.toNat ∧ byte.toNat < 0x7F := by
  have bound := byte.toNat_lt
  simp only [isTokenByte, Bool.or_eq_true, Bool.and_eq_true, decide_eq_true_eq,
    UInt8.le_iff_toNat_le, UInt8.reduceToNat, List.contains_iff_mem] at allowed
  rcases allowed with ((digit | upper) | lower) | mark
  · omega
  · omega
  · omega
  · have marks : "!#$%&'*+-.^_\x60|~".toList.all
        (fun c => decide (0x20 < c.toNat) && decide (c.toNat < 0x7F)) = true := by decide
    have range := List.all_eq_true.mp marks _ mark
    rw [Bool.and_eq_true, decide_eq_true_eq, decide_eq_true_eq,
      Utf8.toNat_charOfNat (by omega)] at range
    exact range

theorem mem_token {name : String} (token : isToken (Utf8.encodeText name) = true) {c : Char}
    (member : c ∈ name.toList) :
    c.toNat < 0x80 ∧ isTokenByte (UInt8.ofNat c.toNat) = true := by
  rw [isToken, Bool.and_eq_true] at token
  have allowed : ∀ byte ∈ String.utf8EncodeChar c, isTokenByte byte = true :=
    fun byte inside =>
      List.all_eq_true.mp token.2 byte (List.mem_flatMap.mpr ⟨c, member, inside⟩)
  have ascii : c.toNat < 0x80 := by
    apply Nat.lt_of_not_le
    intro outside
    obtain ⟨byte, inside⟩ := List.exists_mem_of_ne_nil _ (String.utf8EncodeChar_ne_nil (c := c))
    have high := Utf8.encodeChar_high outside byte inside
    have low := isTokenByte_range (allowed byte inside)
    omega
  refine ⟨ascii, allowed _ ?_⟩
  rw [Utf8.encodeChar_ascii ascii]
  exact List.mem_singleton.mpr rfl

theorem token_range {name : String} (token : isToken (Utf8.encodeText name) = true) {c : Char}
    (member : c ∈ name.toList) : 0x20 < c.toNat ∧ c.toNat < 0x7F := by
  obtain ⟨ascii, allowed⟩ := mem_token token member
  have range := isTokenByte_range allowed
  rwa [Utf8.toNat_ofNat (by omega)] at range

theorem not_mem_token {name : String} (token : isToken (Utf8.encodeText name) = true) {mark : Char}
    (refused : isTokenByte (UInt8.ofNat mark.toNat) = false) : mark ∉ name.toList := by
  intro member
  rw [(mem_token token member).2] at refused
  cases refused

theorem token_ne_empty {name : String} (token : isToken (Utf8.encodeText name) = true) :
    name ≠ "" := by
  intro empty
  rw [empty] at token
  cases token

theorem isToken_of_isHeaderName {name : String} (valid : isHeaderName name = true) :
    isToken (Utf8.encodeText name) = true := by
  rw [isHeaderName, isName, Bool.and_eq_true] at valid
  exact valid.1

theorem printable_of_all {text : String}
    (all : text.toList.all (fun c => decide (0x20 ≤ c.toNat ∧ c.toNat < 0x7F)) = true) :
    ∀ c ∈ text.toList, 0x20 ≤ c.toNat ∧ c.toNat < 0x7F :=
  fun c member => of_decide_eq_true (List.all_eq_true.mp all c member)

theorem isHeaderValue_of_range {value : String}
    (range : ∀ c ∈ value.toList, 0x20 ≤ c.toNat ∧ c.toNat < 0x7F) : isHeaderValue value = true := by
  rw [isHeaderValue, List.all_eq_true]
  intro byte member
  obtain ⟨c, present, inside⟩ := List.mem_flatMap.mp member
  obtain ⟨least, most⟩ := range c present
  have code : (UInt8.ofNat c.toNat).toNat = c.toNat := Utf8.toNat_ofNat (by omega)
  rw [Utf8.encodeChar_ascii (by omega)] at inside
  rw [← List.mem_singleton.mp inside] at code
  have printable : 0x20 ≤ byte ∧ byte ≠ 0x7F := by
    constructor
    · rw [UInt8.le_iff_toNat_le, code]
      exact least
    · intro same
      rw [same] at code
      exact absurd code.symm (Nat.ne_of_lt most)
  rw [isValueByte, Bool.or_eq_true, Bool.and_eq_true, decide_eq_true_eq, decide_eq_true_eq]
  exact Or.inr printable

/-! ### Blocks of headers -/

theorem headerBlock_eq_ok_iff (fields block : List (String × String)) :
    headerBlock fields = .ok block ↔
      block = fields ∧
        ∀ field ∈ fields, isHeaderName field.1 = true ∧ isHeaderValue field.2 = true := by
  induction fields generalizing block with
  | nil =>
      rw [headerBlock, Except.ok.injEq, eq_comm]
      exact (and_iff_left (fun field member => absurd member List.not_mem_nil)).symm
  | cons field rest ih =>
      obtain ⟨name, value⟩ := field
      rw [headerBlock, List.forall_mem_cons]
      split
      · rename_i refused
        refine iff_of_false (fun impossible => nomatch impossible) ?_
        rintro ⟨_same, ⟨named, _valued⟩, _later⟩
        rw [named] at refused
        cases refused
      split
      · rename_i refused
        refine iff_of_false (fun impossible => nomatch impossible) ?_
        rintro ⟨_same, ⟨_named, valued⟩, _later⟩
        rw [valued] at refused
        cases refused
      · rename_i named valued
        rw [Result.map_eq_ok_iff]
        constructor
        · rintro ⟨more, written, rfl⟩
          obtain ⟨rfl, later⟩ := (ih more).mp written
          rw [Bool.not_eq_true', Bool.not_eq_false] at named valued
          exact ⟨rfl, ⟨named, valued⟩, later⟩
        · rintro ⟨rfl, _here, later⟩
          exact ⟨rest, (ih rest).mpr ⟨rfl, later⟩, rfl⟩

/-! ### Maps of headers -/

theorem headerMap_of_count {fields : List (String × String)}
    (few : fields.length ≤ greatestHeaderCount) :
    headerMap fields = some ((headerBlock fields).map (fun block =>
      Table.ofList (block.map (fun field => (field.1.toLower, field.2))))) :=
  if_neg (Nat.not_lt.mpr few)

theorem headerMap_eq_none_iff (fields : List (String × String)) :
    headerMap fields = none ↔ greatestHeaderCount < fields.length := by
  constructor
  · intro broken
    apply Nat.lt_of_not_le
    intro few
    rw [headerMap_of_count few] at broken
    cases broken
  · exact fun many => if_pos many

theorem headerMap_eq_ok_iff (fields : List (String × String)) (map : Fields) :
    headerMap fields = some (.ok map) ↔
      fields.length ≤ greatestHeaderCount ∧
        (∀ field ∈ fields, isHeaderName field.1 = true ∧ isHeaderValue field.2 = true) ∧
        map = Table.ofList (fields.map (fun field => (field.1.toLower, field.2))) := by
  by_cases few : fields.length ≤ greatestHeaderCount
  · rw [headerMap_of_count few, Option.some.injEq, Result.map_eq_ok_iff]
    constructor
    · rintro ⟨block, written, rfl⟩
      obtain ⟨rfl, valid⟩ := (headerBlock_eq_ok_iff _ _).mp written
      exact ⟨few, valid, rfl⟩
    · rintro ⟨_few, valid, rfl⟩
      exact ⟨fields, (headerBlock_eq_ok_iff _ _).mpr ⟨rfl, valid⟩, rfl⟩
  · rw [(headerMap_eq_none_iff fields).mpr (Nat.not_le.mp few)]
    exact iff_of_false (fun impossible => nomatch impossible) (fun all => few all.1)

/-- Where the names are in lower case already, what is handed over is what was there. -/
theorem headerMap_entries_eq_ok_iff {headers : Fields}
    (lowered : ∀ name ∈ headers.keys, name.toLower = name) (map : Fields) :
    headerMap headers.entries = some (.ok map) ↔
      headers.entries.length ≤ greatestHeaderCount ∧
        (∀ field ∈ headers.entries, isHeaderName field.1 = true ∧ isHeaderValue field.2 = true) ∧
        map = headers := by
  have folded :
      headers.entries.map (fun field => (field.1.toLower, field.2)) = headers.entries := by
    have same : ∀ field ∈ headers.entries, (field.1.toLower, field.2) = field := fun field member =>
      Prod.ext (lowered field.1 (List.mem_map_of_mem member)) rfl
    exact (List.map_congr_left same).trans (List.map_id' _)
  rw [headerMap_eq_ok_iff, folded, Table.ofList_entries]

end SignedRest.Wire
