/-
The form of a keyed hash: whatever the key and the message, its text has sixty-four lower-case
hexadecimal digits.
-/

import SignedRest.Digest.Hmac
import SignedRest.Proofs.Text.Utf8

namespace SignedRest.Hmac

/-- The text of thirty-two bytes. -/
structure IsDigest (text : String) : Prop where
  length : text.toList.length = 64
  digits : ∀ c ∈ text.toList, c ∈ "0123456789abcdef".toList

theorem digest_length (key message : Bytes) : (digest key message).length = 32 := rfl

theorem hexText_length (bytes : Bytes) : (hexText bytes).toList.length = 2 * bytes.length := by
  rw [hexText, String.toList_ofList]
  induction bytes with
  | nil => rfl
  | cons byte rest ih =>
      rw [List.flatMap_cons, List.length_append, ih, List.length_cons]
      simp only [List.length_cons, List.length_nil]
      omega

theorem mem_hexText {bytes : Bytes} {c : Char} (member : c ∈ (hexText bytes).toList) :
    ∃ value < 16, c = Number.lowerDigit value := by
  rw [hexText, String.toList_ofList] at member
  obtain ⟨byte, _present, written⟩ := List.mem_flatMap.mp member
  have bound := byte.toNat_lt
  simp only [List.mem_cons, List.not_mem_nil, or_false] at written
  rcases written with upper | lower
  · exact ⟨byte.toNat / 16, by omega, upper⟩
  · exact ⟨byte.toNat % 16, by omega, lower⟩

theorem hexDigest_isDigest (key message : String) : IsDigest (hexDigest key message) where
  length := by rw [hexDigest, hexText_length, digest_length]
  digits := by
    have table : ∀ digit : Fin 16, Number.lowerDigit digit.val ∈ "0123456789abcdef".toList := by
      decide
    intro c member
    obtain ⟨value, small, rfl⟩ := mem_hexText member
    exact table ⟨value, small⟩

end SignedRest.Hmac
