/-
Reading what was written: the UTF-8 form of a text holds no damaged sequence, and its items are the
characters of the text.
-/

import SignedRest.Text.Utf8

namespace SignedRest.Utf8

theorem toNat_ofNat {value : Nat} (small : value < 0x100) : (UInt8.ofNat value).toNat = value :=
  UInt8.toNat_ofNat_of_lt' small

/-! ### Lead bytes -/

private theorem lead_one {value : Nat} (small : value < 0x80) :
    lead (UInt8.ofNat value) = .single (Char.ofNat value) := by
  have size := toNat_ofNat (show value < 0x100 by omega)
  simp only [lead, UInt8.lt_iff_toNat_lt, size, UInt8.reduceToNat]
  exact if_pos small

private theorem lead_two {value : Nat} (low : 2 ≤ value) (high : value < 0x20) :
    lead (UInt8.ofNat (value + 0xC0)) = .opens ⟨value, 1, 0x80, 0xBF⟩ := by
  have size := toNat_ofNat (show value + 0xC0 < 0x100 by omega)
  simp only [lead, UInt8.lt_iff_toNat_lt, size, UInt8.reduceToNat]
  rw [if_neg (by omega), if_neg (by omega), if_pos (by omega), Nat.add_sub_cancel]

private theorem lead_three {value : Nat} (high : value < 0x10) :
    lead (UInt8.ofNat (value + 0xE0)) =
      .opens ⟨value, 2, if value = 0 then 0xA0 else 0x80, if value = 13 then 0x9F else 0xBF⟩ := by
  have size := toNat_ofNat (show value + 0xE0 < 0x100 by omega)
  simp only [lead, UInt8.lt_iff_toNat_lt, ← UInt8.toNat_inj, size, UInt8.reduceToNat]
  rw [if_neg (by omega), if_neg (by omega), if_neg (by omega)]
  by_cases first : value = 0
  · subst first
    rfl
  by_cases before : value = 13
  · subst before
    rfl
  rw [if_neg (by omega), if_neg (by omega), if_pos (by omega), Nat.add_sub_cancel, if_neg first,
    if_neg before]

private theorem lead_four {value : Nat} (high : value ≤ 4) :
    lead (UInt8.ofNat (value + 0xF0)) =
      .opens ⟨value, 3, if value = 0 then 0x90 else 0x80, if value = 4 then 0x8F else 0xBF⟩ := by
  have size := toNat_ofNat (show value + 0xF0 < 0x100 by omega)
  simp only [lead, UInt8.lt_iff_toNat_lt, ← UInt8.toNat_inj, size, UInt8.reduceToNat]
  rw [if_neg (by omega), if_neg (by omega), if_neg (by omega), if_neg (by omega), if_neg (by omega),
    if_neg (by omega)]
  by_cases first : value = 0
  · subst first
    rfl
  by_cases last : value = 4
  · subst last
    rfl
  rw [if_neg (by omega), if_pos (by omega), Nat.add_sub_cancel, if_neg first, if_neg last]

/-! ### Bytes that follow -/

private theorem itemsAfter_last {pending : Pending} {value : Nat} (small : value < 0x40)
    (low : pending.lowest.toNat ≤ value + 0x80) (high : value + 0x80 ≤ pending.highest.toNat)
    (last : pending.missing = 1) (rest : Bytes) :
    itemsAfter (some pending) (UInt8.ofNat (value + 0x80) :: rest) =
      some (Char.ofNat (pending.value * 64 + value)) :: itemsAfter none rest := by
  have size := toNat_ofNat (show value + 0x80 < 0x100 by omega)
  simp only [itemsAfter, UInt8.le_iff_toNat_le, size]
  rw [if_pos ⟨low, high⟩, if_pos last, Nat.add_sub_cancel]

private theorem itemsAfter_more {pending : Pending} {value : Nat} (small : value < 0x40)
    (low : pending.lowest.toNat ≤ value + 0x80) (high : value + 0x80 ≤ pending.highest.toNat)
    (more : pending.missing ≠ 1) (rest : Bytes) :
    itemsAfter (some pending) (UInt8.ofNat (value + 0x80) :: rest) =
      itemsAfter (some ⟨pending.value * 64 + value, pending.missing - 1, 0x80, 0xBF⟩) rest := by
  have size := toNat_ofNat (show value + 0x80 < 0x100 by omega)
  simp only [itemsAfter, UInt8.le_iff_toNat_le, size]
  rw [if_pos ⟨low, high⟩, if_neg more, Nat.add_sub_cancel]

private theorem itemsAfter_opens {byte : UInt8} {pending : Pending}
    (opened : lead byte = .opens pending) (rest : Bytes) :
    itemsAfter none (byte :: rest) = itemsAfter (some pending) rest := by
  simp only [itemsAfter, opened]

/-! ### Whole characters -/

/-- A code point is no surrogate and at most 0x10FFFF, which is what the narrower ranges after some
lead bytes ask for. -/
theorem itemsAfter_encodeChar (c : Char) (rest : Bytes) :
    itemsAfter none (String.utf8EncodeChar c ++ rest) = some c :: itemsAfter none rest := by
  have valid : c.val.toNat < 0xD800 ∨ 0xDFFF < c.val.toNat ∧ c.val.toNat < 0x110000 := c.valid
  have same : Char.ofNat c.val.toNat = c := Char.ofNat_toNat c
  unfold String.utf8EncodeChar
  generalize c.val.toNat = code at valid same
  dsimp only
  split
  · rename_i one
    rw [List.cons_append, List.nil_append, itemsAfter, lead_one (by omega), same]
  split
  · rename_i two
    rw [List.cons_append, List.cons_append, List.nil_append,
      itemsAfter_opens (lead_two (by omega) (by omega)),
      itemsAfter_last (by omega) (by simp) (by simp; omega) rfl]
    have whole : code / 64 % 0x20 * 64 + code % 0x40 = code := by omega
    rw [whole, same]
  split
  · rename_i three
    have least : (if code / 4096 % 0x10 = 0 then (0xA0 : UInt8) else 0x80).toNat ≤
        code / 64 % 0x40 + 0x80 := by
      split
      · change 0xA0 ≤ _
        omega
      · exact Nat.le_add_left _ _
    have most : code / 64 % 0x40 + 0x80 ≤
        (if code / 4096 % 0x10 = 13 then (0x9F : UInt8) else 0xBF).toNat := by
      split
      · change _ ≤ 0x9F
        omega
      · change _ ≤ 0xBF
        omega
    rw [List.cons_append, List.cons_append, List.cons_append, List.nil_append,
      itemsAfter_opens (lead_three (by omega)),
      itemsAfter_more (by omega) least most (by simp),
      itemsAfter_last (by omega) (by simp) (by simp; omega) rfl]
    have whole : (code / 4096 % 0x10 * 64 + code / 64 % 0x40) * 64 + code % 0x40 = code := by omega
    rw [whole, same]
  · rename_i four
    have least : (if code / 262144 % 8 = 0 then (0x90 : UInt8) else 0x80).toNat ≤
        code / 4096 % 0x40 + 0x80 := by
      split
      · change 0x90 ≤ _
        omega
      · exact Nat.le_add_left _ _
    have most : code / 4096 % 0x40 + 0x80 ≤
        (if code / 262144 % 8 = 4 then (0x8F : UInt8) else 0xBF).toNat := by
      split
      · change _ ≤ 0x8F
        omega
      · change _ ≤ 0xBF
        omega
    rw [List.cons_append, List.cons_append, List.cons_append, List.cons_append, List.nil_append,
      itemsAfter_opens (lead_four (by omega)),
      itemsAfter_more (by omega) least most (by simp),
      itemsAfter_more (by omega) (by simp) (by simp; omega) (by simp),
      itemsAfter_last (by omega) (by simp) (by simp; omega) rfl]
    have whole : ((code / 262144 % 8 * 64 + code / 4096 % 0x40) * 64 + code / 64 % 0x40) * 64 +
        code % 0x40 = code := by omega
    rw [whole, same]

theorem items_encode (chars : List Char) : items (encode chars) = chars.map some := by
  induction chars with
  | nil => rfl
  | cons c rest ih =>
      rw [items, encode, List.flatMap_cons, itemsAfter_encodeChar, List.map_cons]
      exact congrArg (some c :: ·) ih

theorem decodeLossy_encode (chars : List Char) : decodeLossy (encode chars) = chars := by
  rw [decodeLossy, items_encode, List.map_map]
  exact List.map_id' chars

theorem encode_injective {left right : List Char} (same : encode left = encode right) :
    left = right := by
  rw [← decodeLossy_encode left, same, decodeLossy_encode]

theorem decodeText?_encodeText (text : String) : decodeText? (encodeText text) = some text := by
  have whole : (text.toList.map some).mapM id = some text.toList := by
    calc (text.toList.map some).mapM id
        = text.toList.mapM (fun c => (pure c : Option Char)) := List.mapM_map
      _ = pure (text.toList.map id) := List.mapM_pure
      _ = some text.toList := congrArg some (List.map_id _)
  rw [decodeText?, decode?, encodeText, items_encode, whole, Option.map_some, String.ofList_toList]

/-! ### ASCII -/

theorem toNat_charOfNat {value : Nat} (small : value < 0xD800) :
    (Char.ofNat value).toNat = value := by
  have valid : value.isValidChar := Or.inl small
  rw [Char.ofNat, dif_pos valid]
  rfl

theorem encodeChar_ascii {c : Char} (ascii : c.toNat < 0x80) :
    String.utf8EncodeChar c = [UInt8.ofNat c.toNat] :=
  if_pos (Nat.le_of_lt_succ ascii)

theorem encode_cons_ascii {c : Char} (ascii : c.toNat < 0x80) (rest : List Char) :
    encode (c :: rest) = UInt8.ofNat c.toNat :: encode rest := by
  rw [encode, List.flatMap_cons, encodeChar_ascii ascii]
  rfl

theorem encode_append (left right : List Char) :
    encode (left ++ right) = encode left ++ encode right :=
  List.flatMap_append

theorem encodeChar_high {c : Char} (outside : 0x80 ≤ c.toNat) :
    ∀ byte ∈ String.utf8EncodeChar c, 0x80 ≤ byte.toNat := by
  intro byte member
  unfold String.utf8EncodeChar at member
  change 0x80 ≤ c.val.toNat at outside
  generalize c.val.toNat = code at outside member
  dsimp only at member
  rw [if_neg (by omega)] at member
  repeat' split at member
  all_goals simp only [List.mem_cons, List.not_mem_nil, or_false] at member
  · rcases member with same | same <;> rw [same, toNat_ofNat (by omega)] <;> omega
  · rcases member with same | same | same <;> rw [same, toNat_ofNat (by omega)] <;> omega
  · rcases member with same | same | same | same <;> rw [same, toNat_ofNat (by omega)] <;> omega

theorem mem_of_ascii_byte {chars : List Char} {byte : UInt8} (member : byte ∈ encode chars)
    (ascii : byte.toNat < 0x80) : Char.ofNat byte.toNat ∈ chars := by
  obtain ⟨c, present, inside⟩ := List.mem_flatMap.mp member
  by_cases outside : 0x80 ≤ c.toNat
  · exact absurd (encodeChar_high outside byte inside) (by omega)
  · rw [encodeChar_ascii (by omega), List.mem_singleton] at inside
    rw [inside, toNat_ofNat (by omega), Char.ofNat_toNat]
    exact present

/-- A text whose first byte is ASCII starts with that character. -/
theorem of_encode_eq_cons {byte : UInt8} (ascii : byte.toNat < 0x80) {chars : List Char}
    {bytes : Bytes} (written : encode chars = byte :: bytes) :
    ∃ rest, chars = Char.ofNat byte.toNat :: rest ∧ bytes = encode rest := by
  cases chars with
  | nil => cases written
  | cons c rest =>
      by_cases outside : 0x80 ≤ c.toNat
      · obtain ⟨first, more, opens⟩ :=
          List.exists_cons_of_ne_nil (String.utf8EncodeChar_ne_nil (c := c))
        rw [encode, List.flatMap_cons, opens] at written
        have high := encodeChar_high outside first (opens ▸ List.mem_cons_self)
        rw [(List.cons.inj written).1] at high
        omega
      · rw [encode_cons_ascii (by omega)] at written
        obtain ⟨rfl, rfl⟩ := List.cons.inj written
        rw [toNat_ofNat (by omega), Char.ofNat_toNat]
        exact ⟨rest, rfl, rfl⟩

/-! ### Text around an ASCII byte -/

theorem lowest_of_lead {byte : UInt8} {pending : Pending} (opens : lead byte = .opens pending) :
    0x80 ≤ pending.lowest.toNat := by
  unfold lead at opens
  repeat' split at opens
  all_goals first
    | (injection opens with same
       rw [← same]
       dsimp only
       decide)
    | injection opens

section Ascii

variable {byte : UInt8} (ascii : byte.toNat < 0x80)

include ascii

theorem lead_ascii : lead byte = .single (Char.ofNat byte.toNat) :=
  if_pos (UInt8.lt_iff_toNat_lt.mpr ascii)

theorem itemsAfter_cons_ascii (rest : Bytes) :
    itemsAfter none (byte :: rest) = some (Char.ofNat byte.toNat) :: itemsAfter none rest := by
  rw [itemsAfter, lead_ascii ascii]

theorem itemsAfter_some_cons_ascii {state : Pending} (high : 0x80 ≤ state.lowest.toNat)
    (rest : Bytes) :
    itemsAfter (some state) (byte :: rest) =
      none :: some (Char.ofNat byte.toNat) :: itemsAfter none rest := by
  have outside : ¬ (state.lowest ≤ byte ∧ byte ≤ state.highest) := by
    intro within
    have below := UInt8.le_iff_toNat_le.mp within.1
    omega
  rw [itemsAfter, if_neg outside, lead_ascii ascii]

/-- An ASCII byte stands for itself, whatever is left unfinished before it. -/
theorem itemsAfter_append_cons (pending : Option Pending)
    (high : ∀ state, pending = some state → 0x80 ≤ state.lowest.toNat) (front rest : Bytes) :
    itemsAfter pending (front ++ byte :: rest) =
      itemsAfter pending front ++ some (Char.ofNat byte.toNat) :: itemsAfter none rest := by
  induction front generalizing pending with
  | nil =>
      cases pending with
      | none => exact itemsAfter_cons_ascii ascii rest
      | some state => exact itemsAfter_some_cons_ascii ascii (high state rfl) rest
  | cons first front ih =>
      have closed := ih none (fun _ absent => nomatch absent)
      have opened : ∀ next, lead first = .opens next →
        itemsAfter (some next) (front ++ byte :: rest) =
          itemsAfter (some next) front ++ some (Char.ofNat byte.toNat) :: itemsAfter none rest :=
          fun next opens =>
            ih (some next) (fun state same => Option.some.inj same ▸ lowest_of_lead opens)
      rw [List.cons_append]
      cases pending with
      | none =>
          rw [itemsAfter, itemsAfter]
          cases led : lead first with
          | single c => exact congrArg (some c :: ·) closed
          | opens next => exact opened next led
          | stray => exact congrArg (none :: ·) closed
      | some state =>
          rw [itemsAfter, itemsAfter]
          split
          · dsimp only
            split
            · exact congrArg (List.cons _) closed
            · exact ih _ (fun next same => Option.some.inj same ▸ Nat.le_refl 0x80)
          · cases led : lead first with
            | single c => exact congrArg (none :: some c :: ·) closed
            | opens next => exact congrArg (none :: ·) (opened next led)
            | stray => exact congrArg (none :: none :: ·) closed

theorem decodeLossy_append_cons (front rest : Bytes) :
    decodeLossy (front ++ byte :: rest) =
      decodeLossy front ++ Char.ofNat byte.toNat :: decodeLossy rest := by
  rw [decodeLossy, items, itemsAfter_append_cons ascii none (fun _ absent => nomatch absent),
    List.map_append, List.map_cons]
  rfl

end Ascii

/-! ### Order -/

/-- Bytes of ASCII text come in the order of its characters. -/
theorem encode_lt_encode_iff {left right : List Char} (leftAscii : ∀ c ∈ left, c.toNat < 0x80)
    (rightAscii : ∀ c ∈ right, c.toNat < 0x80) : encode left < encode right ↔ left < right := by
  induction left generalizing right with
  | nil =>
      cases right with
      | nil => exact iff_of_false (List.lt_irrefl _) (List.lt_irrefl _)
      | cons c rest =>
          rw [encode_cons_ascii (rightAscii c List.mem_cons_self)]
          exact iff_of_true (List.nil_lt_cons _ _) (List.nil_lt_cons _ _)
  | cons c rest ih =>
      obtain ⟨ascii, restAscii⟩ := List.forall_mem_cons.mp leftAscii
      rw [encode_cons_ascii ascii]
      cases right with
      | nil => exact iff_of_false (List.not_lt_nil _) (List.not_lt_nil _)
      | cons d other =>
          obtain ⟨otherAscii, othersAscii⟩ := List.forall_mem_cons.mp rightAscii
          have order : UInt8.ofNat c.toNat < UInt8.ofNat d.toNat ↔ c < d := by
            rw [UInt8.lt_iff_toNat_lt, toNat_ofNat (by omega), toNat_ofNat (by omega)]
            rfl
          have same : UInt8.ofNat c.toNat = UInt8.ofNat d.toNat ↔ c = d := by
            rw [← UInt8.toNat_inj, toNat_ofNat (by omega), toNat_ofNat (by omega), Char.toNat_inj]
          rw [encode_cons_ascii otherAscii, List.cons_lt_cons_iff, List.cons_lt_cons_iff, order, same,
            ih restAscii othersAscii]

end SignedRest.Utf8
