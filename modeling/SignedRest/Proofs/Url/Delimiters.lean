/-
Where the parts of an address end. No user and no host holds a slash or a question mark, and no path
a question mark, so that the path and the query are found in the text of an address by looking for
the first of these marks.
-/

import SignedRest.Proofs.Text.Percent
import SignedRest.Proofs.Text.Separated
import SignedRest.Url.Reader

namespace SignedRest.Url

/-- The marks at which the path and the query of an address begin. -/
def delimiters : List Char := ['/', '?']

variable {mark : Char}

@[elab_as_elim]
theorem of_mem_delimiters {holds : Char → Prop} (divides : mark ∈ delimiters) (slash : holds '/')
    (question : holds '?') : holds mark := by
  rcases List.mem_cons.mp divides with same | other
  · rw [same]
    exact slash
  · rw [List.mem_singleton.mp other]
    exact question

theorem toNat_of_mem_delimiters (divides : mark ∈ delimiters) :
    mark.toNat = 47 ∨ mark.toNat = 63 := by
  have codes : mark.toNat ∈ [47, 63] := List.mem_map_of_mem divides
  simpa only [List.mem_cons, List.not_mem_nil, or_false] using codes

/-! ### Encoded characters -/

theorem not_mem_escapeMarks (divides : mark ∈ delimiters) : mark ∉ Percent.escapeMarks := by
  intro escaped
  have code := toNat_of_mem_delimiters divides
  have range := Percent.toNat_of_mem_escapeMarks escaped
  omega

theorem byte_of_char {byte : UInt8} (same : mark = Char.ofNat byte.toNat) :
    byte = UInt8.ofNat mark.toNat := by
  have bound := byte.toNat_lt
  rw [same, Utf8.toNat_charOfNat (by omega), UInt8.ofNat_toNat]

theorem not_mem_encodeChars_of_refused (divides : mark ∈ delimiters) {kept : UInt8 → Bool}
    (refused : kept (UInt8.ofNat mark.toNat) = false) (chars : List Char) :
    mark ∉ (encodeChars kept chars).toList := by
  rw [encodeChars, String.toList_ofList]
  apply Percent.not_mem_encode _ (not_mem_escapeMarks divides)
  intro byte keeps same
  rw [byte_of_char same, refused] at keeps
  cases keeps

theorem not_mem_encodeChars_of_absent (divides : mark ∈ delimiters) (kept : UInt8 → Bool)
    {chars : List Char} (absent : mark ∉ chars) : mark ∉ (encodeChars kept chars).toList := by
  rw [encodeChars, String.toList_ofList]
  intro member
  rcases Percent.mem_encode member with escaped | ⟨byte, present, _keeps, same⟩
  · exact not_mem_escapeMarks divides escaped
  · have code := toNat_of_mem_delimiters divides
    have bound := byte.toNat_lt
    have ascii : byte.toNat < 0x80 := by
      rw [same, Utf8.toNat_charOfNat (by omega)] at code
      omega
    rw [same] at absent
    exact absent (Utf8.mem_of_ascii_byte present ascii)

/-! ### Numbers -/

theorem digitChar_ne (divides : mark ∈ delimiters) {digit : Nat} (small : digit < 16) :
    mark ≠ digit.digitChar := by
  have table : ∀ value : Fin 16, value.val.digitChar.toNat ≠ 47 ∧ value.val.digitChar.toNat ≠ 63 :=
    by decide
  intro same
  have code := toNat_of_mem_delimiters divides
  rw [same] at code
  have plain : digit.digitChar.toNat ≠ 47 ∧ digit.digitChar.toNat ≠ 63 := table ⟨digit, small⟩
  omega

theorem not_mem_toDigits (divides : mark ∈ delimiters) {base : Nat} (several : 1 < base)
    (small : base ≤ 16) (number : Nat) : mark ∉ Nat.toDigits base number := by
  induction number using Nat.strongRecOn with
  | ind number ih =>
      by_cases single : number < base
      · rw [Nat.toDigits_of_lt_base single, List.mem_singleton]
        exact digitChar_ne divides (by omega)
      · have within : number % base < base := Nat.mod_lt number (by omega)
        have smaller : number / base < number := Nat.div_lt_self (by omega) several
        rw [Nat.toDigits_of_base_le several (by omega), List.mem_append, List.mem_singleton]
        rintro (before | last)
        · exact ih (number / base) smaller before
        · exact digitChar_ne divides (by omega) last

theorem not_mem_toString (divides : mark ∈ delimiters) (number : Nat) :
    mark ∉ (toString number).toList := by
  rw [Nat.toString_eq_ofList_toDigits, String.toList_ofList]
  exact not_mem_toDigits divides (by decide) (by decide) number

theorem not_mem_joined_digits (divides : mark ∈ delimiters) {separator : Char}
    (apart : mark ≠ separator) {base : Nat} (several : 1 < base) (small : base ≤ 16)
    (numbers : List Nat) : mark ∉ Text.join separator (numbers.map (Nat.toDigits base)) := by
  intro member
  rcases Text.mem_join member with same | ⟨piece, present, inside⟩
  · exact apart same
  · obtain ⟨number, _present, same⟩ := List.mem_map.mp present
    rw [← same] at inside
    exact not_mem_toDigits divides several small number inside

/-! ### Hosts -/

theorem not_mem_v4Text (divides : mark ∈ delimiters) (address : Nat) :
    mark ∉ Address.v4Text address := by
  have apart : mark ≠ '.' := ne_of_mem_of_not_mem divides (by decide)
  have digits : mark ∉ Text.join '.' (([3, 2, 1, 0].map
      (fun place => address / Nat.pow 256 place % 256)).map (Nat.toDigits 10)) :=
    not_mem_joined_digits divides apart (by decide) (by decide) _
  exact digits

theorem not_mem_groupsText (divides : mark ∈ delimiters) (groups : List Nat) :
    mark ∉ Address.groupsText groups := by
  have apart : mark ≠ ':' := ne_of_mem_of_not_mem divides (by decide)
  exact not_mem_joined_digits divides apart (by decide) (by decide) groups

theorem not_mem_v6Text (divides : mark ∈ delimiters) (groups : List Nat) :
    mark ∉ Address.v6Text groups := by
  have apart : mark ≠ ':' := ne_of_mem_of_not_mem divides (by decide)
  unfold Address.v6Text
  split
  · exact not_mem_groupsText divides groups
  · intro member
    rcases List.mem_append.mp member with before | later
    · exact not_mem_groupsText divides _ before
    · rcases List.mem_cons.mp later with same | next
      · exact apart same
      · rcases List.mem_cons.mp next with same | after
        · exact apart same
        · exact not_mem_groupsText divides _ after

theorem not_mem_allowed (divides : mark ∈ delimiters) {name allowed : List Char}
    (passed : Domain.allowed? name = some allowed) : mark ∉ allowed := by
  intro member
  rw [Domain.allowed?] at passed
  split at passed
  · cases passed
  · rename_i clear
    rw [← Option.some.inj passed] at member
    apply clear
    have forbidden : Domain.isForbidden mark = true :=
      of_mem_delimiters divides (by decide) (by decide)
    exact List.any_eq_true.mpr ⟨mark, member, forbidden⟩

theorem not_mem_asciiName (divides : mark ∈ delimiters) {name ascii : List Char}
    (written : Domain.toAscii? name = some ascii) : mark ∉ ascii := by
  unfold Domain.toAscii? at written
  dsimp only at written
  split at written
  · exact not_mem_allowed divides written
  · obtain ⟨mapped, _labels, written⟩ := Option.bind_eq_some_iff.mp written
    obtain ⟨labels, _chars, written⟩ := Option.bind_eq_some_iff.mp written
    split at written
    · obtain ⟨pieces, _ascii, written⟩ := Option.bind_eq_some_iff.mp written
      exact not_mem_allowed divides written
    · cases written

theorem not_mem_bracketed (divides : mark ∈ delimiters) {chars : List Char} {host : Host}
    (read : bracketed chars = .ok host) : mark ∉ host.toText.toList := by
  unfold bracketed at read
  split at read
  · rename_i groups _
    split at read
    · rw [← Except.ok.inj read, Host.toText, String.toList_ofList]
      intro member
      rcases List.mem_cons.mp member with first | later
      · exact ne_of_mem_of_not_mem divides (by decide) first
      · rcases List.mem_append.mp later with inside | last
        · exact not_mem_v6Text divides groups inside
        · exact ne_of_mem_of_not_mem divides (by decide) (List.mem_singleton.mp last)
    · cases read
  · cases read

theorem not_mem_specialHost (divides : mark ∈ delimiters) {chars : List Char} {host : Host}
    (read : specialHost chars = .ok host) : mark ∉ host.toText.toList := by
  unfold specialHost at read
  split at read
  · exact not_mem_bracketed divides read
  · split at read
    · cases read
    · cases read
    · rename_i name _nonempty ascii
      split at read
      · split at read
        · rw [← Except.ok.inj read, Host.toText, String.toList_ofList]
          exact not_mem_v4Text divides _
        · cases read
      · rw [← Except.ok.inj read, Host.toText, String.toList_ofList]
        exact not_mem_asciiName divides ascii

theorem not_mem_otherHost (divides : mark ∈ delimiters) {chars : List Char} {host : Host}
    (read : otherHost chars = .ok host) : mark ∉ host.toText.toList := by
  unfold otherHost at read
  split at read
  · exact not_mem_bracketed divides read
  · split at read
    · cases read
    · rename_i clear
      rw [← Except.ok.inj read, Host.toText]
      apply not_mem_encodeChars_of_absent divides
      intro member
      apply clear
      have refused : isRefusedInHost mark = true :=
        of_mem_delimiters divides (by decide) (by decide)
      exact List.any_eq_true.mpr ⟨mark, member, refused⟩

end SignedRest.Url
