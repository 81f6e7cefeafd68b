/-
Percent-encoding loses nothing. Where the kept bytes are ASCII and no percent sign is among them,
decoding gives the encoded bytes back, whatever follows them; an encoded text consists of kept
characters and of what escapes are made of.
-/

import SignedRest.Proofs.Text.Utf8
import SignedRest.Text.Percent

namespace SignedRest.Percent

/-! ### Decoding -/

/-- Bytes that may stand for themselves in an encoded text. -/
def IsSafe (keeps : UInt8 → Bool) : Prop :=
  ∀ byte, keeps byte = true → byte.toNat < 0x80 ∧ byte ≠ 0x25

theorem decode_cons_of_ne {byte : UInt8} (different : byte ≠ 0x25) (rest : Bytes) :
    decode (byte :: rest) = byte :: decode rest := by
  rw [decode]
  intro _high _low _rest same _rest_eq
  exact different same

private theorem digitOfByte?_upperDigit {value : Nat} (small : value < 16) :
    Number.digitOfByte? 16 (UInt8.ofNat (Number.upperDigit value).toNat) = some value := by
  have table : ∀ digit : Fin 16,
      Number.digitOfByte? 16 (UInt8.ofNat (Number.upperDigit digit.val).toNat) =
        some digit.val := by decide
  exact table ⟨value, small⟩

private theorem upperDigit_ascii {value : Nat} (small : value < 16) :
    (Number.upperDigit value).toNat < 0x80 := by
  have table : ∀ digit : Fin 16, (Number.upperDigit digit.val).toNat < 0x80 := by decide
  exact table ⟨value, small⟩

theorem decode_escape (byte : UInt8) (rest : Bytes) :
    decode (Utf8.encode (escape byte) ++ rest) = byte :: decode rest := by
  have bound := byte.toNat_lt
  have upper : byte.toNat / 16 < 16 := by omega
  have lower : byte.toNat % 16 < 16 := by omega
  have written : Utf8.encode (escape byte) =
      [0x25, UInt8.ofNat (Number.upperDigit (byte.toNat / 16)).toNat,
        UInt8.ofNat (Number.upperDigit (byte.toNat % 16)).toNat] := by
    rw [escape, Utf8.encode_cons_ascii (by decide), Utf8.encode_cons_ascii (upperDigit_ascii upper),
      Utf8.encode_cons_ascii (upperDigit_ascii lower)]
    rfl
  have whole : byte.toNat / 16 * 16 + byte.toNat % 16 = byte.toNat := by omega
  rw [written]
  simp only [List.cons_append, List.nil_append, decode, digitOfByte?_upperDigit upper,
    digitOfByte?_upperDigit lower, whole, UInt8.ofNat_toNat]

theorem decode_encode {keeps : UInt8 → Bool} (safe : IsSafe keeps) (bytes rest : Bytes) :
    decode (Utf8.encode (encode keeps bytes) ++ rest) = bytes ++ decode rest := by
  induction bytes with
  | nil => rfl
  | cons byte more ih =>
      rw [encode, List.flatMap_cons, Utf8.encode_append, List.append_assoc]
      change decode (_ ++ (Utf8.encode (encode keeps more) ++ rest)) = _
      rw [encodeByte]
      split
      · rename_i kept
        obtain ⟨ascii, different⟩ := safe byte kept
        have same := Utf8.toNat_charOfNat (show byte.toNat < 0xD800 by omega)
        rw [Utf8.encode_cons_ascii (by omega), same, UInt8.ofNat_toNat]
        change decode (byte :: (Utf8.encode (encode keeps more) ++ rest)) = _
        rw [decode_cons_of_ne different, ih]
        rfl
      · rw [decode_escape, ih]
        rfl

theorem decodeText_encodeText {keeps : UInt8 → Bool} (safe : IsSafe keeps) (text : String) :
    decodeText (encodeText keeps text) = Utf8.encodeText text := by
  have read := decode_encode safe (Utf8.encodeText text) []
  rw [List.append_nil] at read
  rw [decodeText, encodeText, Utf8.encodeText, String.toList_ofList, read]
  exact List.append_nil _

/-! ### Written characters -/

/-- The percent sign and the digits of escapes. -/
def escapeMarks : List Char :=
  '%' :: (List.range 16).map Number.upperDigit

private theorem upperDigit_mem {value : Nat} (small : value < 16) :
    Number.upperDigit value ∈ escapeMarks :=
  List.mem_cons_of_mem _ (List.mem_map.mpr ⟨value, List.mem_range.mpr small, rfl⟩)

theorem toNat_of_mem_escapeMarks {c : Char} (mark : c ∈ escapeMarks) :
    c.toNat = 37 ∨ (48 ≤ c.toNat ∧ c.toNat ≤ 57) ∨ (65 ≤ c.toNat ∧ c.toNat ≤ 70) := by
  rcases List.mem_cons.mp mark with same | digit
  · rw [same]
    exact Or.inl rfl
  · obtain ⟨value, small, same⟩ := List.mem_map.mp digit
    have bound := List.mem_range.mp small
    have code : c.toNat = if value < 10 then 48 + value else 55 + value := by
      rw [← same, Number.upperDigit]
      exact Utf8.toNat_charOfNat (by split <;> omega)
    split at code <;> omega

theorem mem_encode {keeps : UInt8 → Bool} {bytes : Bytes} {c : Char}
    (member : c ∈ encode keeps bytes) :
    c ∈ escapeMarks ∨ ∃ byte ∈ bytes, keeps byte = true ∧ c = Char.ofNat byte.toNat := by
  obtain ⟨byte, present, written⟩ := List.mem_flatMap.mp member
  rw [encodeByte] at written
  split at written
  · rename_i kept
    exact Or.inr ⟨byte, present, kept, List.mem_singleton.mp written⟩
  · have bound := byte.toNat_lt
    left
    simp only [escape, List.mem_cons, List.not_mem_nil, or_false] at written
    rcases written with same | same | same
    · rw [same]
      exact List.mem_cons_self
    · rw [same]
      exact upperDigit_mem (by omega)
    · rw [same]
      exact upperDigit_mem (by omega)

/-- A character that is neither kept nor a mark of escapes does not occur. -/
theorem not_mem_encode {keeps : UInt8 → Bool} (bytes : Bytes) {c : Char} (plain : c ∉ escapeMarks)
    (refused : ∀ byte, keeps byte = true → c ≠ Char.ofNat byte.toNat) :
    c ∉ encode keeps bytes := by
  intro member
  rcases mem_encode member with mark | ⟨byte, _present, kept, same⟩
  · exact plain mark
  · exact refused byte kept same

/-! ### Text around a mark -/

theorem decode_of_refused {high low : UInt8} (rest : Bytes)
    (refused : ∀ upper lower, Number.digitOfByte? 16 high = some upper →
      Number.digitOfByte? 16 low = some lower → False) :
    decode (0x25 :: high :: low :: rest) = 0x25 :: decode (high :: low :: rest) := by
  rw [decode]
  split
  · rename_i upper lower upperDigit lowerDigit
    exact absurd lowerDigit (refused upper lower upperDigit)
  · rfl

/-- A byte that is neither a percent sign nor a digit is no part of an escape. -/
theorem decode_append_cons {mark : UInt8} (plain : mark ≠ 0x25)
    (noDigit : Number.digitOfByte? 16 mark = none) (front rest : Bytes) :
    decode (front ++ mark :: rest) = decode front ++ mark :: decode rest := by
  have noValue : ∀ value, Number.digitOfByte? 16 mark ≠ some value := by
    intro value digit
    rw [noDigit] at digit
    cases digit
  induction front using decode.induct with
  | case1 high low more upper lower lowDigit highDigit ih =>
      simp only [List.cons_append, decode, highDigit, lowDigit, ih]
  | case2 high low more refused ih =>
      rw [List.cons_append, List.cons_append, List.cons_append, decode_of_refused _ refused,
        decode_of_refused _ refused]
      exact congrArg (0x25 :: ·) ih
  | case3 byte more short ih =>
      by_cases percent : byte = 0x25
      · subst percent
        rw [decode.eq_2 _ _ short, List.cons_append]
        -- An escape that is too short is not made longer by the mark.
        rcases more with _ | ⟨only, _ | ⟨second, beyond⟩⟩
        · rcases rest with _ | ⟨next, rest⟩
          · rw [List.nil_append, decode.eq_2 _ _ (by simp), ← List.nil_append [mark], ih]
            rfl
          · rw [List.nil_append,
              decode_of_refused rest (fun upper _ digit _ => noValue upper digit)]
            exact congrArg (0x25 :: ·) ih
        · rw [List.cons_append, List.nil_append,
            decode_of_refused rest (fun _ lower _ digit => noValue lower digit)]
          exact congrArg (0x25 :: ·) ih
        · exact absurd rfl (short only second beyond rfl)
      · rw [List.cons_append, decode_cons_of_ne percent, decode_cons_of_ne percent, ih,
          List.cons_append]
  | case4 => exact decode_cons_of_ne plain rest

theorem decode_append_of_clear {front : Bytes} (clear : 0x25 ∉ front) (rest : Bytes) :
    decode (front ++ rest) = front ++ decode rest := by
  induction front with
  | nil => rfl
  | cons byte more ih =>
      rw [List.cons_append, decode_cons_of_ne (List.ne_of_not_mem_cons clear).symm,
        ih (List.not_mem_of_not_mem_cons clear), List.cons_append]

theorem decode_of_clear {bytes : Bytes} (clear : 0x25 ∉ bytes) : decode bytes = bytes := by
  have read := decode_append_of_clear clear []
  rw [List.append_nil] at read
  exact read.trans (List.append_nil bytes)

/-! ### Text without escapes -/

def hexDigits : List Char := "0123456789ABCDEFabcdef".toList

/-- A percent sign with two hexadecimal digits after it, at the start of a text. -/
def startsEscape : List Char → Bool
  | '%' :: high :: low :: _ => hexDigits.contains high && hexDigits.contains low
  | _ => false

/-- Whether an escape starts anywhere. -/
def hasEscape : List Char → Bool
  | [] => false
  | c :: rest => startsEscape (c :: rest) || hasEscape rest

theorem mem_hexDigits {byte : UInt8} {value : Nat}
    (digit : Number.digitOfByte? 16 byte = some value) :
    byte.toNat < 0x80 ∧ hexDigits.contains (Char.ofNat byte.toNat) = true := by
  have table : ∀ code : Fin 256, (Number.digitOfByte? 16 (UInt8.ofNat code.val)).isSome = true →
      code.val < 0x80 ∧ hexDigits.contains (Char.ofNat code.val) = true := by decide +kernel
  have read := table ⟨byte.toNat, byte.toNat_lt⟩
  rw [UInt8.ofNat_toNat, digit] at read
  exact read rfl

/-- A percent sign that starts no escape stands for itself. -/
theorem decode_percent_encode {rest : List Char} (literal : startsEscape ('%' :: rest) = false) :
    decode (0x25 :: Utf8.encode rest) = 0x25 :: decode (Utf8.encode rest) := by
  cases written : Utf8.encode rest with
  | nil => rfl
  | cons high more =>
      cases more with
      | nil => exact decode.eq_2 _ _ (by simp)
      | cons low others =>
          apply decode_of_refused
          intro upper lower highDigit lowDigit
          obtain ⟨highAscii, highMem⟩ := mem_hexDigits highDigit
          obtain ⟨lowAscii, lowMem⟩ := mem_hexDigits lowDigit
          obtain ⟨later, rfl, same⟩ := Utf8.of_encode_eq_cons highAscii written
          obtain ⟨last, rfl, _same⟩ := Utf8.of_encode_eq_cons lowAscii same.symm
          rw [startsEscape, highMem, lowMem] at literal
          cases literal

theorem decode_of_literal {chars : List Char} (literal : hasEscape chars = false) :
    decode (Utf8.encode chars) = Utf8.encode chars := by
  induction chars with
  | nil => rfl
  | cons c rest ih =>
      obtain ⟨here, later⟩ := Bool.or_eq_false_iff.mp literal
      by_cases percent : c = '%'
      · subst percent
        rw [Utf8.encode_cons_ascii (by decide)]
        exact (decode_percent_encode here).trans (congrArg (List.cons 0x25) (ih later))
      · have clear : 0x25 ∉ String.utf8EncodeChar c := by
          intro member
          have inside := Utf8.mem_of_ascii_byte
            (List.mem_flatMap.mpr ⟨c, List.mem_singleton_self c, member⟩) (by decide)
          exact percent (List.mem_singleton.mp inside).symm
        rw [Utf8.encode, List.flatMap_cons, decode_append_of_clear clear]
        exact congrArg (String.utf8EncodeChar c ++ ·) (ih later)

end SignedRest.Percent
