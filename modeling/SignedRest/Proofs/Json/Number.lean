/-
Numbers are read digit by digit as they are written, up to what cannot be part of a number.
-/

import SignedRest.Json.Grammar
import SignedRest.Proofs.Text.Utf8

namespace SignedRest.Json.Document

/-- What follows is not taken for more of a number. -/
def Stops (rest : Bytes) : Prop :=
  ∀ byte, rest.head? = some byte → isDigit byte = false ∧ byte ≠ 0x2E ∧ byte ≠ 0x65 ∧ byte ≠ 0x45

theorem stops_nil : Stops [] :=
  fun _ impossible => nomatch impossible

theorem stops_cons {byte : UInt8} (notDigit : isDigit byte = false) (notPoint : byte ≠ 0x2E)
    (notMark : byte ≠ 0x65 ∧ byte ≠ 0x45) (rest : Bytes) : Stops (byte :: rest) := by
  intro other same
  rw [← Option.some.inj same]
  exact ⟨notDigit, notPoint, notMark⟩

/-! ### Digits -/

def digitBytes (digits : List Nat) : Bytes :=
  digits.map (fun digit => UInt8.ofNat (48 + digit))

theorem digitBytes_read {digits : List Nat} (decimal : ∀ digit ∈ digits, digit < 10) :
    (∀ byte ∈ digitBytes digits, isDigit byte = true) ∧
      (digitBytes digits).map (fun byte => byte.toNat - 0x30) = digits := by
  have table : ∀ digit < 10, isDigit (UInt8.ofNat (48 + digit)) = true ∧
      (UInt8.ofNat (48 + digit)).toNat - 0x30 = digit := by decide
  constructor
  · intro byte member
    obtain ⟨digit, present, same⟩ := List.mem_map.mp member
    rw [← same]
    exact (table digit (decimal digit present)).1
  · rw [digitBytes, List.map_map]
    refine (List.map_congr_left (fun digit present => ?_)).trans (List.map_id digits)
    exact (table digit (decimal digit present)).2

theorem encode_spelledDigits {digits : List Nat} {chars : List Char}
    (spells : Grammar.SpellsDigits digits chars) : Utf8.encode chars = digitBytes digits := by
  have table : ∀ digit < 10, digit.digitChar.toNat = 48 + digit := by decide
  have decimal := spells.decimal
  rw [spells.written]
  clear spells
  induction digits with
  | nil => rfl
  | cons digit rest ih =>
      obtain ⟨here, later⟩ := List.forall_mem_cons.mp decimal
      have code := table digit here
      rw [List.map_cons, Utf8.encode_cons_ascii (by omega), code, ih later]
      rfl

theorem someDigits?_spelled {digits : List Nat} {chars : List Char}
    (spells : Grammar.SpellsDigits digits chars) {rest : Bytes}
    (ends : ∀ byte, rest.head? = some byte → isDigit byte = false) :
    someDigits? (Utf8.encode chars ++ rest) = some (digits, rest) := by
  obtain ⟨all, values⟩ := digitBytes_read spells.decimal
  have behind : rest.takeWhile isDigit = [] ∧ rest.dropWhile isDigit = rest := by
    cases rest with
    | nil => exact ⟨rfl, rfl⟩
    | cons byte rest =>
        have notDigit : ¬ isDigit byte = true := by
          rw [ends byte rfl]
          exact Bool.false_ne_true
        exact ⟨List.takeWhile_cons_of_neg notDigit, List.dropWhile_cons_of_neg notDigit⟩
  rw [encode_spelledDigits spells, someDigits?, Document.digits, List.takeWhile_append_of_pos all,
    List.dropWhile_append_of_pos all, behind.1, behind.2, List.append_nil, values]
  cases digits with
  | nil => exact absurd rfl spells.filled
  | cons digit others => rfl

theorem ne_cons_of_digits {digits : List Nat} {chars : List Char}
    (spells : Grammar.SpellsDigits digits chars) (rest : Bytes) {mark : UInt8}
    (notDigit : isDigit mark = false) (other : Bytes) :
    Utf8.encode chars ++ rest ≠ mark :: other := by
  rw [encode_spelledDigits spells]
  obtain ⟨all, _⟩ := digitBytes_read spells.decimal
  cases digits with
  | nil => exact absurd rfl spells.filled
  | cons digit others =>
      intro same
      have digit := all _ List.mem_cons_self
      rw [(List.cons.inj same).1, notDigit] at digit
      cases digit

/-! ### Fraction and exponent -/

theorem fraction?_spelled {fraction : Option (List Nat)} {chars : List Char}
    (spells : Grammar.SpellsFraction fraction chars) {rest : Bytes}
    (ends : ∀ byte, rest.head? = some byte → isDigit byte = false ∧ byte ≠ 0x2E) :
    fraction? (Utf8.encode chars ++ rest) = some (fraction, rest) := by
  cases spells with
  | absent =>
      rw [Utf8.encode, List.flatMap_nil, List.nil_append, fraction?]
      intro other same
      rw [same] at ends
      exact (ends 0x2E rfl).2 rfl
  | present spells =>
      rw [Utf8.encode_cons_ascii (by decide)]
      change fraction? (0x2E :: (Utf8.encode _ ++ rest)) = _
      rw [fraction?, someDigits?_spelled spells (fun byte head => (ends byte head).1)]
      rfl

theorem signedDigits?_spelled {digits : List Nat} {chars : List Char}
    (spells : Grammar.SpellsDigits digits chars) {rest : Bytes}
    (ends : ∀ byte, rest.head? = some byte → isDigit byte = false) :
    signedDigits? (Utf8.encode chars ++ rest) = some ((false, digits), rest) := by
  rw [signedDigits?, someDigits?_spelled spells ends]
  · rfl
  · exact fun other => ne_cons_of_digits spells rest (by decide) other
  · exact fun other => ne_cons_of_digits spells rest (by decide) other

theorem exponent?_mark {mark : Char} (marks : mark = 'e' ∨ mark = 'E') (input : Bytes) :
    exponent? (UInt8.ofNat mark.toNat :: input) =
      (signedDigits? input).map (fun (found, after) => (some found, after)) := by
  rcases marks with same | same
  · rw [same]
    rfl
  · rw [same]
    rfl

theorem encode_mark {mark : Char} (marks : mark = 'e' ∨ mark = 'E') (chars : List Char) :
    Utf8.encode (mark :: chars) = UInt8.ofNat mark.toNat :: Utf8.encode chars := by
  apply Utf8.encode_cons_ascii
  rcases marks with same | same
  · rw [same]
    decide
  · rw [same]
    decide

theorem exponent?_spelled {exponent : Option (Bool × List Nat)} {chars : List Char}
    (spells : Grammar.SpellsExponent exponent chars) {rest : Bytes} (ends : Stops rest) :
    exponent? (Utf8.encode chars ++ rest) = some (exponent, rest) := by
  have digitless : ∀ byte, rest.head? = some byte → isDigit byte = false :=
    fun byte head => (ends byte head).1
  cases spells with
  | absent =>
      rw [Utf8.encode, List.flatMap_nil, List.nil_append, exponent?]
      · intro other same
        rw [same] at ends
        exact (ends 0x65 rfl).2.2.1 rfl
      · intro other same
        rw [same] at ends
        exact (ends 0x45 rfl).2.2.2 rfl
  | unsigned marks spells =>
      rw [encode_mark marks, List.cons_append, exponent?_mark marks,
        signedDigits?_spelled spells digitless]
      rfl
  | positive marks spells =>
      rw [encode_mark marks, Utf8.encode_cons_ascii (by decide), List.cons_append,
        exponent?_mark marks, List.cons_append]
      change (signedDigits? (0x2B :: (Utf8.encode _ ++ rest))).map _ = _
      rw [signedDigits?, someDigits?_spelled spells digitless]
      rfl
  | negative marks spells =>
      rw [encode_mark marks, Utf8.encode_cons_ascii (by decide), List.cons_append,
        exponent?_mark marks, List.cons_append]
      change (signedDigits? (0x2D :: (Utf8.encode _ ++ rest))).map _ = _
      rw [signedDigits?, someDigits?_spelled spells digitless]
      rfl

/-! ### Numbers -/

theorem head?_exponent {exponent : Option (Bool × List Nat)} {chars : List Char}
    (spells : Grammar.SpellsExponent exponent chars) {rest : Bytes} (ends : Stops rest) :
    ∀ byte, (Utf8.encode chars ++ rest).head? = some byte →
      isDigit byte = false ∧ byte ≠ 0x2E := by
  have marked : ∀ {mark : Char} (more : List Char), (mark = 'e' ∨ mark = 'E') →
      ∀ byte, (Utf8.encode (mark :: more) ++ rest).head? = some byte →
        isDigit byte = false ∧ byte ≠ 0x2E := by
    intro mark more marks byte head
    rw [encode_mark marks] at head
    rw [← Option.some.inj head]
    rcases marks with same | same
    · rw [same]
      decide
    · rw [same]
      decide
  cases spells with
  | absent => exact fun byte head => ⟨(ends byte head).1, (ends byte head).2.1⟩
  | unsigned marks _ => exact marked _ marks
  | positive marks _ => exact marked _ marks
  | negative marks _ => exact marked _ marks

theorem head?_fraction {fraction : Option (List Nat)} {chars : List Char}
    (spells : Grammar.SpellsFraction fraction chars) {rest : Bytes}
    (ends : ∀ byte, rest.head? = some byte → isDigit byte = false) :
    ∀ byte, (Utf8.encode chars ++ rest).head? = some byte → isDigit byte = false := by
  cases spells with
  | absent => exact ends
  | present spells =>
      intro byte head
      rw [Utf8.encode_cons_ascii (by decide)] at head
      rw [← Option.some.inj head]
      decide

theorem magnitude?_spelled {whole : List Nat} {fraction : Option (List Nat)}
    {exponent : Option (Bool × List Nat)} {wholeChars fractionChars exponentChars : List Char}
    (spellsWhole : Grammar.SpellsDigits whole wholeChars)
    (leading : whole.head? = some 0 → whole.length = 1)
    (spellsFraction : Grammar.SpellsFraction fraction fractionChars)
    (spellsExponent : Grammar.SpellsExponent exponent exponentChars) (negative : Bool)
    {rest : Bytes} (ends : Stops rest) :
    magnitude? negative (Utf8.encode wholeChars ++
      (Utf8.encode fractionChars ++ (Utf8.encode exponentChars ++ rest))) =
      some (⟨negative, whole, fraction, exponent⟩, rest) := by
  have afterFraction := head?_exponent spellsExponent ends
  have afterWhole := head?_fraction spellsFraction (fun byte head => (afterFraction byte head).1)
  have allowed : ¬ (whole.head? = some 0 ∧ whole.length ≠ 1) := fun both => both.2 (leading both.1)
  rw [magnitude?, someDigits?_spelled spellsWhole afterWhole]
  dsimp only [Option.bind_eq_bind, Option.bind_some]
  rw [if_neg allowed, fraction?_spelled spellsFraction afterFraction]
  dsimp only [Option.bind_some]
  rw [exponent?_spelled spellsExponent ends]
  rfl

theorem scalar?_number {literal : Literal} {chars : List Char}
    (spells : Grammar.SpellsNumber literal chars) {rest : Bytes} (ends : Stops rest) :
    scalar? (Utf8.encode chars ++ rest) = some (.number literal, rest) := by
  cases spells with
  | parts spellsWhole leading spellsFraction spellsExponent =>
      rename_i negative whole fraction exponent wholeChars fractionChars exponentChars
      have read :=
        magnitude?_spelled spellsWhole leading spellsFraction spellsExponent negative ends
      rw [Utf8.encode_append, Utf8.encode_append, Utf8.encode_append, List.append_assoc,
        List.append_assoc, List.append_assoc]
      cases negative with
      | true =>
          change scalar? (0x2D :: (Utf8.encode wholeChars ++
            (Utf8.encode fractionChars ++ (Utf8.encode exponentChars ++ rest)))) = _
          rw [scalar?, read]
          rfl
      | false =>
          have unlike : ∀ {mark : UInt8}, isDigit mark = false → ∀ other,
              Utf8.encode wholeChars ++ (Utf8.encode fractionChars ++
                (Utf8.encode exponentChars ++ rest)) ≠ mark :: other :=
            fun notDigit other => ne_cons_of_digits spellsWhole _ notDigit other
          change scalar? (Utf8.encode wholeChars ++ _) = _
          rw [scalar?, read]
          · rfl
          · exact fun other => unlike (by decide) other
          · exact fun other => unlike (by decide) other
          · exact fun other => unlike (by decide) _
          · exact fun other => unlike (by decide) _
          · exact fun other => unlike (by decide) _

/-- Neither a blank nor a bracket. -/
def opensScalar (byte : UInt8) : Bool :=
  !isBlank byte && byte != 0x5B && byte != 0x5D && byte != 0x7B

theorem notBlank_of_opensScalar {byte : UInt8} (opens : opensScalar byte = true) :
    isBlank byte = false := by
  simp only [opensScalar, Bool.and_eq_true, Bool.not_eq_true'] at opens
  exact opens.1.1.1

theorem number_begins {literal : Literal} {chars : List Char}
    (spells : Grammar.SpellsNumber literal chars) :
    ∃ byte more, Utf8.encode chars = byte :: more ∧ opensScalar byte = true := by
  have table : ∀ digit < 10, opensScalar (UInt8.ofNat (48 + digit)) = true := by decide
  cases spells with
  | parts spellsWhole leading spellsFraction spellsExponent =>
      rename_i negative whole fraction exponent wholeChars fractionChars exponentChars
      rw [List.append_assoc, List.append_assoc, Utf8.encode_append, Utf8.encode_append]
      cases negative with
      | true => exact ⟨0x2D, _, rfl, by decide⟩
      | false =>
          rw [encode_spelledDigits spellsWhole]
          cases whole with
          | nil => exact absurd rfl spellsWhole.filled
          | cons digit others =>
              exact ⟨_, _, rfl, table digit (spellsWhole.decimal digit List.mem_cons_self)⟩

end SignedRest.Json.Document
