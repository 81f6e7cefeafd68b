/-
Hosts around a dot. What stands before and after a dot of a host is read apart, so that a host that
begins with a small name or ends in one keeps it, whatever else is written in it.
-/

import SignedRest.Proofs.Domain.Name
import SignedRest.Proofs.Text.Percent
import SignedRest.Url.Host
import Mathlib.Data.List.Basic

namespace SignedRest

/-! ### Names and numbers -/

namespace Address

theorem parts_append_cons {front : List Char} (clear : '.' ∉ front) (rest : List Char) :
    ∃ more, parts (front ++ '.' :: rest) = front :: more := by
  unfold parts
  rw [Text.split_append_cons clear]
  cases pieces : Text.split '.' rest with
  | nil => exact absurd pieces (Text.split_ne_nil '.' rest)
  | cons piece more =>
      dsimp only
      split
      · exact ⟨_, List.dropLast_cons_cons⟩
      · exact ⟨_, rfl⟩

theorem part?_of_letter {c : Char} (letter : c.isLower = true) (rest : List Char) :
    part? (c :: rest) = none := by
  have range := Text.range_of_isLower letter
  have table : ∀ place : Fin 26, Number.digitOfChar? 10 (Char.ofNat (97 + place.val)) = none := by
    decide
  have noDigit : Number.digitOfChar? 10 c = none := by
    have found := table ⟨c.toNat - 97, by omega⟩
    rwa [Nat.add_sub_cancel' range.1, Char.ofNat_toNat] at found
  have others : ∀ tail, c :: rest ≠ '0' :: tail := by
    intro tail same
    rw [(List.cons.inj same).1] at letter
    exact absurd letter (by decide)
  rw [part?.eq_6 _ (List.cons_ne_nil c rest) (fun _ => others _) (fun _ => others _) (others _)
    (fun _ => others _), Number.ofChars?, List.mapM_cons, noDigit]
  rfl

/-- A name whose first label starts with a letter is no address. -/
theorem v4?_of_letter {c : Char} (letter : c.isLower = true) {label : List Char}
    (clear : '.' ∉ c :: label) (rest : List Char) : v4? (c :: label ++ '.' :: rest) = none := by
  obtain ⟨more, same⟩ := parts_append_cons clear rest
  rw [v4?, same, List.mapM_cons, part?_of_letter letter]
  rfl

theorem several_of_empty_end {host : List Char} (filled : host ≠ [])
    (ending : (Text.split '.' host).getLast? = some []) : 1 < (Text.split '.' host).length := by
  rcases pieces : Text.split '.' host with _ | ⟨piece, _ | ⟨next, more⟩⟩
  · exact absurd pieces (Text.split_ne_nil '.' host)
  · rw [pieces, List.getLast?_singleton] at ending
    have whole := Text.join_split '.' host
    rw [pieces, Option.some.inj ending] at whole
    exact absurd whole.symm filled
  · exact Nat.succ_lt_succ (Nat.succ_pos more.length)

theorem getLast?_parts_append (front : List Char) {rest : List Char} (filled : rest ≠ []) :
    (parts (front ++ '.' :: rest)).getLast? = (parts rest).getLast? := by
  have frontFilled := Text.split_ne_nil '.' front
  have restFilled := Text.split_ne_nil '.' rest
  have several : 1 < (Text.split '.' front ++ Text.split '.' rest).length := by
    have first := List.length_pos_iff.mpr frontFilled
    have last := List.length_pos_iff.mpr restFilled
    rw [List.length_append]
    omega
  unfold parts
  dsimp only
  rw [Text.split_append, List.getLast?_append_of_ne_nil _ restFilled]
  by_cases ending : (Text.split '.' rest).getLast? = some []
  · have more := several_of_empty_end filled ending
    have shortFilled : (Text.split '.' rest).dropLast ≠ [] := by
      apply List.ne_nil_of_length_pos
      rw [List.length_dropLast]
      omega
    rw [if_pos ⟨several, ending⟩, if_pos ⟨more, ending⟩,
      List.dropLast_append_of_ne_nil restFilled, List.getLast?_append_of_ne_nil _ shortFilled]
  · rw [if_neg (fun both => ending both.2), if_neg (fun both => ending both.2),
      List.getLast?_append_of_ne_nil _ restFilled]

/-- Only the end of a name decides whether it is read as an address. -/
theorem endsInNumber_append (front : List Char) {rest : List Char} (filled : rest ≠ []) :
    endsInNumber (front ++ '.' :: rest) = endsInNumber rest := by
  rw [endsInNumber, endsInNumber, getLast?_parts_append front filled]

end Address

namespace Url

/-- The text that a host stands for. -/
def hostName (chars : List Char) : List Char :=
  Utf8.decodeLossy (Percent.decode (Utf8.encode chars))

theorem hostName_append (front rest : List Char) :
    hostName (front ++ '.' :: rest) = hostName front ++ '.' :: hostName rest := by
  rw [hostName, Utf8.encode_append, Utf8.encode_cons_ascii (by decide),
    Percent.decode_append_cons (by decide) (by decide), Utf8.decodeLossy_append_cons (by decide)]
  rfl

theorem hostName_small {chars : List Char} (small : Domain.IsSmallName chars) :
    hostName chars = chars := by
  have clear : 0x25 ∉ Utf8.encode chars := by
    intro member
    have percent : '%' ∈ chars := Utf8.mem_of_ascii_byte member (by decide)
    have notSmall : ¬ Domain.isSmall '%' = true := by decide
    exact notSmall (small '%' percent)
  rw [hostName, Percent.decode_of_clear clear, Utf8.decodeLossy_encode]

/-! ### Hosts of special schemes -/

theorem specialHost_eq {chars : List Char} {host : Host} (unbracketed : chars.head? ≠ some '[')
    (read : specialHost chars = .ok host) :
    ∃ name, Domain.toAscii? (hostName chars) = some name ∧
      (Address.endsInNumber name = true ∧ (Address.v4? name).isSome ∨
        Address.endsInNumber name = false ∧ host = .name (String.ofList name)) := by
  rw [specialHost, if_neg unbracketed] at read
  split at read
  · cases read
  · cases read
  · rename_i name _filled found
    refine ⟨name, found, ?_⟩
    cases numeric : Address.endsInNumber name with
    | true =>
        rw [numeric, if_pos rfl] at read
        split at read
        · rename_i address same
          exact Or.inl ⟨rfl, Option.isSome_of_eq_some same⟩
        · cases read
    | false =>
        rw [numeric, if_neg Bool.false_ne_true] at read
        exact Or.inr ⟨rfl, (Except.ok.inj read).symm⟩

theorem specialHost_front {c : Char} (letter : c.isLower = true) {label : List Char}
    (small : Domain.IsSmallName (c :: label)) (clear : '.' ∉ c :: label) {rest : List Char}
    {host : Host} (read : specialHost (c :: label ++ '.' :: rest) = .ok host) :
    ∃ last, host = .name (String.ofList (c :: label ++ '.' :: last)) := by
  have unbracketed : (c :: label ++ '.' :: rest).head? ≠ some '[' := by
    intro same
    rw [Option.some.inj same] at letter
    exact absurd letter (by decide)
  obtain ⟨name, found, outcome⟩ := specialHost_eq unbracketed read
  rw [hostName_append, hostName_small small] at found
  obtain ⟨first, last, same, kept, _⟩ := Domain.toAscii?_append found
  rw [same, kept small] at outcome
  rcases outcome with ⟨_, address⟩ | ⟨_, named⟩
  · rw [Address.v4?_of_letter letter clear last] at address
    cases address
  · exact ⟨last, named⟩

theorem bracketed_of_getLast? {chars : List Char} (ending : chars.getLast? ≠ some ']')
    (host : Host) :
    bracketed chars ≠ .ok host := by
  rw [bracketed]
  split
  · rw [if_neg ending]
    exact fun impossible => nomatch impossible
  · exact fun impossible => nomatch impossible

theorem specialHost_back {front rest : List Char} (small : Domain.IsSmallName rest)
    (filled : rest ≠ []) (worded : Address.endsInNumber rest = false) {host : Host}
    (read : specialHost (front ++ '.' :: rest) = .ok host) :
    ∃ first, host = .name (String.ofList (first ++ '.' :: rest)) := by
  have unbracketed : (front ++ '.' :: rest).head? ≠ some '[' := by
    intro bracket
    rw [specialHost, if_pos bracket] at read
    refine bracketed_of_getLast? ?_ host read
    rw [List.getLast?_append_of_ne_nil _ (List.cons_ne_nil '.' rest)]
    intro same
    rcases List.mem_cons.mp (List.mem_of_getLast? same) with dot | inside
    · exact absurd dot (by decide)
    · exact absurd (small _ inside) (by decide)
  obtain ⟨name, found, outcome⟩ := specialHost_eq unbracketed read
  rw [hostName_append, hostName_small small] at found
  obtain ⟨first, last, same, _, kept⟩ := Domain.toAscii?_append found
  rw [same, kept small, Address.endsInNumber_append first filled, worded] at outcome
  rcases outcome with ⟨impossible, _⟩ | ⟨_, named⟩
  · cases impossible
  · exact ⟨first, named⟩

end Url

end SignedRest
