/-
The characters of a signing time: digits, and the marks between its numbers. A year before the first
one has a minus sign, which is one of these marks.
-/

import SignedRest.Proofs.Number.Digits
import SignedRest.Time.Timestamp

namespace SignedRest

namespace Time

theorem mem_padded {width value : Nat} {c : Char} (member : c ∈ padded width value) :
    48 ≤ c.toNat ∧ c.toNat ≤ 57 := by
  rcases List.mem_append.mp member with zero | digit
  · rw [(List.mem_replicate.mp zero).2]
    decide
  · exact Number.isDigit_of_mem_toDigits digit

/-- A character that a signing time may have. -/
def IsTimeMark (c : Char) : Prop :=
  (48 ≤ c.toNat ∧ c.toNat ≤ 57) ∨ c ∈ ['-', ':', 'T', 'Z']

theorem IsTimeMark.printable {c : Char} (mark : IsTimeMark c) :
    0x20 ≤ c.toNat ∧ c.toNat < 0x7F := by
  rcases mark with digit | punctuation
  · omega
  · have codes : c.toNat ∈ [45, 58, 84, 90] := List.mem_map_of_mem punctuation
    simp only [List.mem_cons, List.not_mem_nil, or_false] at codes
    omega

theorem isTimeMark_padded {width value : Nat} : ∀ c ∈ padded width value, IsTimeMark c :=
  fun _ member => Or.inl (mem_padded member)

theorem isTimeMark_yearText {year : Int} : ∀ c ∈ yearText year, IsTimeMark c := by
  unfold yearText
  split
  · exact List.forall_mem_cons.mpr ⟨Or.inr (by decide), isTimeMark_padded⟩
  · exact isTimeMark_padded

theorem Civil.isTimeMark_signingText (civil : Civil) :
    ∀ c ∈ civil.signingText.toList, IsTimeMark c := by
  have dash : IsTimeMark '-' := Or.inr (by decide)
  have colon : IsTimeMark ':' := Or.inr (by decide)
  rw [signingText, timeText, String.toList_ofList]
  simp only [List.forall_mem_append, List.forall_mem_cons, and_assoc]
  exact ⟨isTimeMark_yearText, dash, isTimeMark_padded, dash, isTimeMark_padded, Or.inr (by decide),
    isTimeMark_padded, colon, isTimeMark_padded, colon, isTimeMark_padded, Or.inr (by decide),
    fun _ absent => nomatch absent⟩

end Time

namespace Timestamp

theorem mem_signingText {timestamp : Timestamp} {c : Char}
    (member : c ∈ timestamp.signingText.toList) : Time.IsTimeMark c :=
  Time.Civil.isTimeMark_signingText _ c member

end Timestamp

end SignedRest
