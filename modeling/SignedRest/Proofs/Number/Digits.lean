/-
The decimal digits of a number, read one by one, spell that number, and only zero begins with the
digit zero.
-/

import SignedRest.Number.Digits

namespace SignedRest.Number

theorem digitOfChar?_digitChar {digit : Nat} (small : digit < 10) :
    digitOfChar? 10 digit.digitChar = some digit := by
  have every : ∀ digit < 10, digitOfChar? 10 digit.digitChar = some digit := by decide
  exact every digit small

theorem digitOfChar?_lt {base digit : Nat} {c : Char} (read : digitOfChar? base c = some digit) :
    digit < base := by
  unfold digitOfChar? at read
  split at read
  · exact of_decide_eq_true (Option.filter_eq_some_iff.mp read).2
  · cases read

theorem lt_of_mem_digits {base : Nat} {chars : List Char} {digits : List Nat}
    (read : chars.mapM (digitOfChar? base) = some digits) : ∀ digit ∈ digits, digit < base := by
  induction chars generalizing digits with
  | nil =>
      cases read
      exact fun _ absent => nomatch absent
  | cons c rest ih =>
      rw [List.mapM_cons] at read
      obtain ⟨digit, here, read⟩ := Option.bind_eq_some_iff.mp read
      obtain ⟨others, later, same⟩ := Option.bind_eq_some_iff.mp read
      cases same
      exact List.forall_mem_cons.mpr ⟨digitOfChar?_lt here, ih later⟩

theorem ofDigits_concat (base : Nat) (digits : List Nat) (last : Nat) :
    ofDigits base (digits ++ [last]) = ofDigits base digits * base + last := by
  rw [ofDigits, List.foldl_append]
  rfl

/-- Digits that spell a number, without a zero before others. -/
structure Spelled (number : Nat) (digits : List Nat) : Prop where
  filled : digits ≠ []
  value : ofDigits 10 digits = number
  leading : digits.head? = some 0 → number = 0

theorem Spelled.concat {front : Nat} {digits : List Nat} (spelled : Spelled front digits)
    (positive : 0 < front) (last : Nat) : Spelled (front * 10 + last) (digits ++ [last]) where
  filled := List.append_ne_nil_of_right_ne_nil _ (List.cons_ne_nil _ _)
  value := by rw [ofDigits_concat, spelled.value]
  leading := by
    intro zero
    have first : digits.head? = some 0 := by
      cases digits with
      | nil => exact absurd rfl spelled.filled
      | cons digit others => exact zero
    exact absurd (spelled.leading first) (Nat.ne_of_gt positive)

theorem toDigits_spelled (number : Nat) :
    ∃ digits, (Nat.toDigits 10 number).mapM (digitOfChar? 10) = some digits ∧
      Spelled number digits := by
  induction number using Nat.strongRecOn with
  | ind number ih =>
      by_cases single : number < 10
      · refine ⟨[number], ?_, List.cons_ne_nil _ _, Nat.zero_add number, Option.some.inj⟩
        rw [Nat.toDigits_of_lt_base single, List.mapM_cons, digitOfChar?_digitChar single]
        rfl
      · obtain ⟨digits, read, spelled⟩ := ih (number / 10) (by omega)
        have parts : number / 10 * 10 + number % 10 = number := by omega
        refine ⟨digits ++ [number % 10], ?_, ?_⟩
        · rw [Nat.toDigits_of_base_le (by decide) (by omega), List.mapM_append, read,
            List.mapM_cons, digitOfChar?_digitChar (by omega)]
          rfl
        · have whole := spelled.concat (by omega) (number % 10)
          rw [parts] at whole
          exact whole

theorem ofChars?_concat {chars : List Char} {front last : Nat} (read : ofChars? 10 chars = some front)
    (small : last < 10) : ofChars? 10 (chars ++ [last.digitChar]) = some (front * 10 + last) := by
  obtain ⟨digits, mapped, same⟩ := Option.map_eq_some_iff.mp read
  rw [ofChars?, List.mapM_append, mapped, List.mapM_cons, digitOfChar?_digitChar small, ← same,
    ← ofDigits_concat]
  rfl

theorem ofChars?_toDigits (value : Nat) : ofChars? 10 (Nat.toDigits 10 value) = some value := by
  obtain ⟨digits, mapped, spelled⟩ := toDigits_spelled value
  rw [ofChars?, mapped, Option.map_some, spelled.value]

theorem toDigits_concat {front : Nat} (positive : 0 < front) {last : Nat} (small : last < 10) :
    Nat.toDigits 10 (front * 10 + last) = Nat.toDigits 10 front ++ [last.digitChar] := by
  have upper : (front * 10 + last) / 10 = front := by omega
  have lower : (front * 10 + last) % 10 = last := by omega
  rw [Nat.toDigits_of_base_le (by decide) (by omega), upper, lower]

theorem toDigits_foldl {digits : List Nat} (decimal : ∀ digit ∈ digits, digit < 10) {front : Nat}
    (positive : 0 < front) :
    Nat.toDigits 10 (digits.foldl (fun total digit => total * 10 + digit) front) =
      Nat.toDigits 10 front ++ digits.map Nat.digitChar := by
  induction digits generalizing front with
  | nil => exact (List.append_nil _).symm
  | cons digit rest ih =>
      obtain ⟨here, later⟩ := List.forall_mem_cons.mp decimal
      rw [List.foldl_cons, ih later (by omega), toDigits_concat positive here, List.append_assoc]
      rfl

theorem toDigits_ofDigits {digits : List Nat} (filled : digits ≠ [])
    (decimal : ∀ digit ∈ digits, digit < 10)
    (leading : digits.head? = some 0 → digits.length = 1) :
    Nat.toDigits 10 (ofDigits 10 digits) = digits.map Nat.digitChar := by
  cases digits with
  | nil => exact absurd rfl filled
  | cons digit rest =>
      obtain ⟨here, later⟩ := List.forall_mem_cons.mp decimal
      have single : Nat.toDigits 10 (0 * 10 + digit) = [digit.digitChar] := by
        rw [Nat.zero_mul, Nat.zero_add, Nat.toDigits_of_lt_base here]
      by_cases zero : digit = 0
      · have alone : rest = [] :=
          List.length_eq_zero_iff.mp (Nat.succ.inj (leading (congrArg some zero)))
        rw [alone]
        exact single
      · rw [ofDigits, List.foldl_cons, toDigits_foldl later (by omega), single]
        rfl

theorem isDigit_of_mem_toDigits {number : Nat} {c : Char} (member : c ∈ Nat.toDigits 10 number) :
    48 ≤ c.toNat ∧ c.toNat ≤ 57 := by
  have digit := Nat.isDigit_of_mem_toDigits (by decide) (by decide) member
  rw [Char.isDigit, Bool.and_eq_true, decide_eq_true_eq, decide_eq_true_eq] at digit
  exact digit

end SignedRest.Number
