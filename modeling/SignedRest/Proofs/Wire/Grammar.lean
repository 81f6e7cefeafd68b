/-
What HTTP can carry in a header: the names and values of its grammar, stated apart from the check
that is made. Neither of them can break a line.
-/

import SignedRest.Proofs.Text.LetterCase
import SignedRest.Proofs.Wire

namespace SignedRest.Wire

/-- What a token may have beside letters and digits. -/
def tokenMarks : List Char :=
  "!#$%&'*+-.^_\x60|~".toList

structure IsFieldName (name : String) : Prop where
  filled : name ≠ ""
  token : ∀ c ∈ name.toList, c.isAlphanum = true ∨ c ∈ tokenMarks
  short : (Utf8.encodeText name).length ≤ 65535

/-- Tabs and all bytes from the blank on, but no delete. -/
def IsFieldValue (value : String) : Prop :=
  ∀ byte ∈ Utf8.encodeText value, byte = 0x09 ∨ (0x20 ≤ byte ∧ byte ≠ 0x7F)

def IsField (field : String × String) : Prop :=
  IsFieldName field.1 ∧ IsFieldValue field.2

def IsUnbroken (text : String) : Prop :=
  ∀ byte ∈ Utf8.encodeText text, byte ≠ 0x0D ∧ byte ≠ 0x0A

theorem ascii_of_token {c : Char} (token : c.isAlphanum = true ∨ c ∈ tokenMarks) :
    c.toNat < 0x80 := by
  rcases token with letter | mark
  · have range := (Text.isAlphanum_iff c).mp letter
    omega
  · have marks : tokenMarks.all (fun c => decide (c.toNat < 0x80)) = true := by decide
    exact of_decide_eq_true (List.all_eq_true.mp marks c mark)

theorem isTokenByte_iff {c : Char} (ascii : c.toNat < 0x80) :
    isTokenByte (UInt8.ofNat c.toNat) = true ↔ c.isAlphanum = true ∨ c ∈ tokenMarks := by
  have code : (UInt8.ofNat c.toNat).toNat = c.toNat := Utf8.toNat_ofNat (by omega)
  rw [isTokenByte, Text.isAlphanum_iff]
  simp only [Bool.or_eq_true, Bool.and_eq_true, decide_eq_true_eq, UInt8.le_iff_toNat_le,
    UInt8.reduceToNat, List.contains_iff_mem, code, Char.ofNat_toNat, or_assoc]
  rfl

theorem isHeaderName_iff (name : String) : isHeaderName name = true ↔ IsFieldName name := by
  constructor
  · intro valid
    have token := isToken_of_isHeaderName valid
    rw [isHeaderName, isName, Bool.and_eq_true, decide_eq_true_eq] at valid
    refine ⟨token_ne_empty token, fun c member => ?_, valid.2⟩
    obtain ⟨ascii, allowed⟩ := mem_token token member
    exact (isTokenByte_iff ascii).mp allowed
  · intro formed
    have filled : (Utf8.encodeText name).isEmpty = false := by
      rw [List.isEmpty_eq_false_iff]
      intro empty
      apply formed.filled
      rw [← String.toList_eq_nil_iff]
      exact Utf8.encode_injective empty
    have allowed : ∀ byte ∈ Utf8.encodeText name, isTokenByte byte = true := by
      intro byte member
      obtain ⟨c, present, inside⟩ := List.mem_flatMap.mp member
      have ascii := ascii_of_token (formed.token c present)
      rw [Utf8.encodeChar_ascii ascii] at inside
      rw [List.mem_singleton.mp inside]
      exact (isTokenByte_iff ascii).mpr (formed.token c present)
    rw [isHeaderName, isName, isToken, filled, Bool.not_false, Bool.true_and, Bool.and_eq_true,
      List.all_eq_true, decide_eq_true_eq]
    exact ⟨allowed, formed.short⟩

theorem IsFieldName.unbroken {name : String} (formed : IsFieldName name) : IsUnbroken name := by
  intro byte member
  have token := isToken_of_isHeaderName ((isHeaderName_iff name).mpr formed)
  rw [isToken, Bool.and_eq_true, List.all_eq_true] at token
  have range := isTokenByte_range (token.2 byte member)
  constructor <;>
  · rintro rfl
    exact absurd range (by decide)

theorem IsFieldValue.unbroken {value : String} (formed : IsFieldValue value) :
    IsUnbroken value := by
  intro byte member
  have allowed := formed byte member
  constructor <;>
  · rintro rfl
    exact absurd allowed (by decide)

theorem IsFieldValue.append {front back : String} (formed : IsFieldValue front)
    (also : IsFieldValue back) : IsFieldValue (front ++ back) := by
  intro byte member
  rw [Utf8.encodeText, String.toList_append, Utf8.encode_append] at member
  rcases List.mem_append.mp member with inFront | inBack
  · exact formed byte inFront
  · exact also byte inBack

theorem IsField.unbroken {field : String × String} (fit : IsField field) :
    IsUnbroken field.1 ∧ IsUnbroken field.2 :=
  ⟨fit.1.unbroken, fit.2.unbroken⟩

end SignedRest.Wire
