/-
Whole numbers in decimal digits, as a document's bare values. A line break ends them.
-/

import SignedRest.Proofs.Number.Digits
import SignedRest.Proofs.Text.Separated
import SignedRest.Toml.Scalar

namespace SignedRest.Toml

section

variable {number : Nat}

theorem not_mem_toDigits_of_range {mark : Char} (outside : mark.toNat < 48 ∨ 57 < mark.toNat) :
    mark ∉ Nat.toDigits 10 number := by
  intro member
  have range := Number.isDigit_of_mem_toDigits member
  omega

theorem digits?_toDigits (number : Nat) :
    ∃ digits, digits? 10 (Nat.toDigits 10 number) = some digits ∧
      Number.Spelled number digits := by
  obtain ⟨digits, read, spelled⟩ := Number.toDigits_spelled number
  refine ⟨digits, ?_, spelled⟩
  have filled : Nat.toDigits 10 number ≠ [] := by
    intro empty
    rw [empty] at read
    exact spelled.filled (Option.some.inj read).symm
  rw [digits?, Text.split_of_not_mem (not_mem_toDigits_of_range (by decide))]
  simp only [List.any_cons, List.any_nil, List.isEmpty_eq_false_iff.mpr filled, Bool.or_self,
    Bool.false_eq_true, if_false, List.flatten_cons, List.flatten_nil, List.append_nil, read]

theorem decimal?_toDigits (number : Nat) :
    ∃ digits, decimal? (Nat.toDigits 10 number) = some digits ∧
      Number.ofDigits 10 digits = number := by
  obtain ⟨digits, read, spelled⟩ := digits?_toDigits number
  refine ⟨digits, ?_, spelled.value⟩
  have leading : ¬ (digits.length > 1 ∧ digits.head? = some 0) := by
    rintro ⟨several, zero⟩
    have none := spelled.leading zero
    subst none
    rw [show digits = [0] from (Option.some.inj read).symm] at several
    exact absurd several (by decide)
  rw [decimal?, read]
  exact if_neg leading

theorem signed_toDigits (number : Nat) :
    signed (Nat.toDigits 10 number) = (false, Nat.toDigits 10 number) := by
  cases digits : Nat.toDigits 10 number with
  | nil => rfl
  | cons first others =>
      have plus : first ≠ '+' := by
        rintro rfl
        exact not_mem_toDigits_of_range (by decide) (digits ▸ List.mem_cons_self)
      have minus : first ≠ '-' := by
        rintro rfl
        exact not_mem_toDigits_of_range (by decide) (digits ▸ List.mem_cons_self)
      unfold signed
      split
      · rename_i same
        exact absurd (List.cons.inj same).1 plus
      · rename_i same
        exact absurd (List.cons.inj same).1 minus
      · rfl

theorem integer?_toDigits (small : number < Nat.pow 2 128) :
    integer? (Nat.toDigits 10 number) = some (.integer number) := by
  have letters : ∀ mark ∈ ['x', 'o', 'b'], mark ∉ Nat.toDigits 10 number := by
    intro mark member
    have outside : ['x', 'o', 'b'].all (fun mark => mark.toNat < 48 ∨ 57 < mark.toNat) = true := by
      decide
    exact not_mem_toDigits_of_range (of_decide_eq_true (List.all_eq_true.mp outside mark member))
  obtain ⟨digits, read, value⟩ := decimal?_toDigits number
  have inside : -(Nat.pow 2 127 : Int) ≤ (number : Int) ∧ (number : Int) < Nat.pow 2 128 :=
    ⟨Int.le_trans (Int.neg_nonpos_of_nonneg (Int.natCast_nonneg _)) (Int.natCast_nonneg number),
      Int.ofNat_lt.mpr small⟩
  unfold integer?
  split
  · rename_i same
    exact absurd (same ▸ List.mem_cons_of_mem _ List.mem_cons_self)
      (letters 'x' (by decide))
  · rename_i same
    exact absurd (same ▸ List.mem_cons_of_mem _ List.mem_cons_self)
      (letters 'o' (by decide))
  · rename_i same
    exact absurd (same ▸ List.mem_cons_of_mem _ List.mem_cons_self)
      (letters 'b' (by decide))
  · rw [signed_toDigits]
    dsimp only
    rw [read]
    rw [Option.map_some, Number.signed, if_neg Bool.false_ne_true, value, Option.bind_eq_bind,
      Option.bind_some, if_pos inside]

theorem scalar?_toDigits (small : number < Nat.pow 2 128) :
    scalar? (Nat.toDigits 10 number) = some (.integer number) := by
  have letter : 'e' ∉ Nat.toDigits 10 number := not_mem_toDigits_of_range (by decide)
  have notTrue : Nat.toDigits 10 number ≠ "true".toList := fun same => letter (by rw [same]; decide)
  have notFalse : Nat.toDigits 10 number ≠ "false".toList :=
    fun same => letter (by rw [same]; decide)
  rw [scalar?, if_neg notTrue, if_neg notFalse, integer?_toDigits small]
  rfl

/-- A date has a hyphen. -/
theorem date?_eq_none {chars : List Char} (clear : '-' ∉ chars) : date? chars = none := by
  have refused : ∀ rest : List Char, '-' ∉ rest → char? '-' rest = none := by
    intro rest missing
    cases rest with
    | nil => rfl
    | cons first others =>
        exact if_neg (fun same : first = '-' => missing (same ▸ List.mem_cons_self))
  unfold date? fixed?
  dsimp only
  split
  · rw [Option.bind_eq_bind, Option.bind_some,
      refused _ (fun member => clear (List.mem_of_mem_drop member))]
    rfl
  · rfl

/-- A run of characters ends where the first other one stands. -/
theorem run_append {keeps : Char → Bool} {front rest : List Char}
    (kept : ∀ c ∈ front, keeps c = true) (stops : rest.head?.all (!keeps ·)) :
    (front ++ rest).takeWhile keeps = front ∧ (front ++ rest).dropWhile keeps = rest := by
  rw [List.takeWhile_append_of_pos kept, List.dropWhile_append_of_pos kept]
  cases rest with
  | nil => exact ⟨List.append_nil front, rfl⟩
  | cons first others =>
      have stopped : ¬ keeps first = true := by simpa using stops
      rw [List.takeWhile_cons_of_neg stopped, List.dropWhile_cons_of_neg stopped, List.append_nil]
      exact ⟨rfl, rfl⟩

theorem scalarText_append {chars rest : List Char} (clear : '-' ∉ chars)
    (scalar : ∀ c ∈ chars, isScalarChar c = true) (stops : rest.head?.all (!isScalarChar ·)) :
    scalarText (chars ++ rest) = (chars, rest) := by
  obtain ⟨front, back⟩ := run_append scalar stops
  unfold scalarText
  rw [front, back]
  dsimp only
  rw [date?_eq_none clear]

theorem isScalarChar_of_mem_toDigits {c : Char} (member : c ∈ Nat.toDigits 10 number) :
    isScalarChar c = true := by
  have digit := Nat.isDigit_of_mem_toDigits (by decide) (by decide) member
  rw [isScalarChar, Char.isAlphanum, digit, Bool.or_true]
  rfl

theorem scalarText_toDigits (number : Nat) (rest : List Char) :
    scalarText (Nat.toDigits 10 number ++ '\n' :: rest) =
      (Nat.toDigits 10 number, '\n' :: rest) :=
  scalarText_append (not_mem_toDigits_of_range (by decide))
    (fun _ => isScalarChar_of_mem_toDigits) rfl

end

end SignedRest.Toml
