/-
Strings are read in every form in which they may be written: whether a character stands for itself,
is escaped, or is written as one unit or two, the pieces that are read mean that character.
-/

import SignedRest.Json.Grammar
import SignedRest.Json.Reader
import SignedRest.Proofs.Text.Utf8

namespace SignedRest.Json

open Document (string?)

/-- What reading a string adds in front of what is read later. -/
def pushed (pieces : List Piece) (read : List Piece × Bytes) : List Piece × Bytes :=
  (pieces ++ read.1, read.2)

/-- A piece of text that is read as a character, whatever follows it. -/
structure Reads (c : Char) (chars : List Char) (pieces : List Piece) : Prop where
  taken : ∀ rest, string? (Utf8.encode chars ++ rest) = (string? rest).map (pushed pieces)
  meant : ∀ more, piecesBytes? (pieces ++ more) =
    (piecesBytes? more).map (String.utf8EncodeChar c ++ ·)

/-! ### Bytes that stand for themselves -/

theorem string?_cons {byte : UInt8} (printable : ¬ byte < 0x20) (notQuote : byte ≠ 0x22)
    (notEscape : byte ≠ 0x5C) (rest : Bytes) :
    string? (byte :: rest) = (string? rest).map (pushed [.byte byte]) := by
  rw [string?, if_neg (not_or.mpr ⟨printable, notEscape⟩)]
  · rfl
  · exact notQuote
  · exact fun _ _ _ _ _ same _ => notEscape same
  · exact fun _ _ same _ => notEscape same

theorem string?_bytes {bytes : Bytes}
    (plain : ∀ byte ∈ bytes, ¬ byte < 0x20 ∧ byte ≠ 0x22 ∧ byte ≠ 0x5C) (rest : Bytes) :
    string? (bytes ++ rest) = (string? rest).map (pushed (bytes.map .byte)) := by
  induction bytes with
  | nil => exact Option.map_id'.symm
  | cons byte more ih =>
      obtain ⟨⟨printable, notQuote, notEscape⟩, later⟩ := List.forall_mem_cons.mp plain
      rw [List.cons_append, string?_cons printable notQuote notEscape, ih later, Option.map_map]
      rfl

theorem piecesBytes?_bytes (bytes : Bytes) (more : List Piece) :
    piecesBytes? (bytes.map .byte ++ more) = (piecesBytes? more).map (bytes ++ ·) := by
  induction bytes with
  | nil => exact Option.map_id'.symm
  | cons byte rest ih =>
      rw [List.map_cons, List.cons_append, piecesBytes?, ih, Option.map_map]
      rfl

/-! ### Escapes -/

theorem string?_short {mark byte : UInt8} (known : Document.shortEscape? mark = some byte)
    (rest : Bytes) :
    string? (0x5C :: mark :: rest) = (string? rest).map (pushed [.byte byte]) := by
  have notUnit : mark ≠ 0x75 := by
    rintro rfl
    have unknown : Document.shortEscape? 0x75 = none := by decide
    rw [unknown] at known
    cases known
  rw [string?, known]
  · cases string? rest with
    | none => rfl
    | some read => rfl
  · exact fun _ _ _ _ _ same _ => notUnit same

theorem string?_unit {digits : Bytes} {values : List Nat} (four : digits.length = 4)
    (read : digits.mapM (Number.digitOfByte? 16) = some values) (rest : Bytes) :
    string? (0x5C :: 0x75 :: digits ++ rest) =
      (string? rest).map (pushed [.unit (Number.ofDigits 16 values)]) := by
  match digits, four with
  | [a, b, c, d], _ =>
      change string? (0x5C :: 0x75 :: a :: b :: c :: d :: rest) = _
      rw [string?, read]
      cases string? rest with
      | none => rfl
      | some read => rfl

theorem mapM_digitOfByte?_encode {base : Nat} {chars : List Char} {values : List Nat}
    (read : chars.mapM (Number.digitOfChar? base) = some values) :
    (Utf8.encode chars).length = chars.length ∧
      (Utf8.encode chars).mapM (Number.digitOfByte? base) = some values := by
  induction chars generalizing values with
  | nil => exact ⟨rfl, read⟩
  | cons c rest ih =>
      rw [List.mapM_cons] at read
      obtain ⟨value, first, read⟩ := Option.bind_eq_some_iff.mp read
      obtain ⟨others, later, same⟩ := Option.bind_eq_some_iff.mp read
      obtain ⟨size, found⟩ := ih later
      rw [Number.digitOfChar?] at first
      split at first
      · rename_i ascii
        rw [Utf8.encode_cons_ascii ascii, List.length_cons, List.length_cons, size, List.mapM_cons,
          first, found]
        exact ⟨rfl, same⟩
      · cases first

theorem string?_spelledUnit {value : Nat} {digits : List Char}
    (spells : Grammar.SpellsUnit value digits) (rest : Bytes) :
    string? (0x5C :: 0x75 :: Utf8.encode digits ++ rest) =
      (string? rest).map (pushed [.unit value]) := by
  obtain ⟨values, read, same⟩ := Option.map_eq_some_iff.mp spells.2
  obtain ⟨size, found⟩ := mapM_digitOfByte?_encode read
  rw [string?_unit (size.trans spells.1) found, same]

/-! ### Characters -/

theorem encodeChar_plain {c : Char} (printable : 0x20 ≤ c.toNat) (notQuote : c ≠ '"')
    (notEscape : c ≠ '\\') :
    ∀ byte ∈ String.utf8EncodeChar c, ¬ byte < 0x20 ∧ byte ≠ 0x22 ∧ byte ≠ 0x5C := by
  intro byte member
  by_cases ascii : c.toNat < 0x80
  · rw [Utf8.encodeChar_ascii ascii, List.mem_singleton] at member
    have code : byte.toNat = c.toNat := by
      rw [member, Utf8.toNat_ofNat (by omega)]
    refine ⟨?_, ?_, ?_⟩
    · rw [UInt8.lt_iff_toNat_lt, code]
      exact Nat.not_lt.mpr printable
    · rintro rfl
      exact notQuote (Char.toNat_inj.mp code.symm)
    · rintro rfl
      exact notEscape (Char.toNat_inj.mp code.symm)
  · have high := Utf8.encodeChar_high (Nat.not_lt.mp ascii) byte member
    refine ⟨?_, ?_, ?_⟩
    · rw [UInt8.lt_iff_toNat_lt]
      exact Nat.not_lt.mpr (Nat.le_trans (by decide) high)
    · rintro rfl
      exact absurd high (by decide)
    · rintro rfl
      exact absurd high (by decide)

theorem reads_plain {c : Char} (printable : 0x20 ≤ c.toNat) (notQuote : c ≠ '"')
    (notEscape : c ≠ '\\') : Reads c [c] ((String.utf8EncodeChar c).map .byte) where
  taken := by
    intro rest
    have single : Utf8.encode [c] = String.utf8EncodeChar c := List.append_nil _
    rw [single]
    exact string?_bytes (encodeChar_plain printable notQuote notEscape) rest
  meant := piecesBytes?_bytes (String.utf8EncodeChar c)

theorem reads_short {mark c : Char} (listed : (mark, c) ∈ Grammar.shortEscapes) :
    Reads c ['\\', mark] [.byte (UInt8.ofNat c.toNat)] := by
  have table : ∀ pair ∈ Grammar.shortEscapes, pair.1.toNat < 0x80 ∧ pair.2.toNat < 0x80 ∧
      Document.shortEscape? (UInt8.ofNat pair.1.toNat) = some (UInt8.ofNat pair.2.toNat) := by
    decide
  obtain ⟨markAscii, ascii, known⟩ := table (mark, c) listed
  constructor
  · intro rest
    rw [Utf8.encode_cons_ascii (by decide), Utf8.encode_cons_ascii markAscii]
    exact string?_short known rest
  · intro more
    rw [Utf8.encodeChar_ascii ascii]
    rfl

theorem reads_unit {c : Char} {digits : List Char} (spells : Grammar.SpellsUnit c.toNat digits) :
    Reads c ('\\' :: 'u' :: digits) [.unit c.toNat] := by
  constructor
  · intro rest
    rw [Utf8.encode_cons_ascii (by decide), Utf8.encode_cons_ascii (by decide)]
    exact string?_spelledUnit spells rest
  · intro more
    have valid : c.toNat < 0xD800 ∨ 0xDFFF < c.toNat := c.valid.imp_right And.left
    rw [List.cons_append, piecesBytes?.eq_def]
    dsimp only
    rw [if_pos valid, Char.ofNat_toNat]
    rfl

theorem reads_pair {c : Char} {high low : Nat} {highDigits lowDigits : List Char}
    (spellsHigh : Grammar.SpellsUnit high highDigits)
    (spellsLow : Grammar.SpellsUnit low lowDigits) (highRange : 0xD800 ≤ high ∧ high < 0xDC00)
    (lowRange : 0xDC00 ≤ low ∧ low ≤ 0xDFFF)
    (whole : c.toNat = 0x10000 + (high - 0xD800) * 0x400 + (low - 0xDC00)) :
    Reads c ('\\' :: 'u' :: highDigits ++ '\\' :: 'u' :: lowDigits) [.unit high, .unit low] := by
  constructor
  · intro rest
    rw [Utf8.encode_append, Utf8.encode_cons_ascii (by decide), Utf8.encode_cons_ascii (by decide),
      Utf8.encode_cons_ascii (by decide), Utf8.encode_cons_ascii (by decide), List.append_assoc]
    refine (string?_spelledUnit spellsHigh _).trans ?_
    refine (congrArg (Option.map _) (string?_spelledUnit spellsLow rest)).trans ?_
    rw [Option.map_map]
    rfl
  · intro more
    have surrogate : ¬ (high < 0xD800 ∨ 0xDFFF < high) := by omega
    rw [List.cons_append, List.cons_append, piecesBytes?, if_neg surrogate,
      if_neg (Nat.not_le.mpr highRange.2)]
    dsimp only
    rw [if_pos lowRange, ← whole, Char.ofNat_toNat]
    rfl

theorem exists_reads {c : Char} {chars : List Char} (spells : Grammar.SpellsChar c chars) :
    ∃ pieces, Reads c chars pieces := by
  cases spells with
  | plain printable notQuote notEscape => exact ⟨_, reads_plain printable notQuote notEscape⟩
  | short listed => exact ⟨_, reads_short listed⟩
  | unit spells => exact ⟨_, reads_unit spells⟩
  | pair spellsHigh spellsLow highRange lowRange whole =>
      exact ⟨_, reads_pair spellsHigh spellsLow highRange lowRange whole⟩

/-! ### Strings -/

/-- Neither a control character nor a mark that has to be escaped. -/
def isPlainChar (c : Char) : Bool :=
  0x20 ≤ c.toNat && c != '"' && c != '\\'

/-- Text of plain characters needs no escapes. -/
theorem Grammar.spellsText_self {chars : List Char} (plain : chars.all isPlainChar = true) :
    SpellsText chars chars := by
  induction chars with
  | nil => exact .nil
  | cons c rest ih =>
      rw [List.all_cons, Bool.and_eq_true] at plain
      obtain ⟨here, later⟩ := plain
      rw [isPlainChar, Bool.and_eq_true, Bool.and_eq_true, decide_eq_true_eq, bne_iff_ne,
        bne_iff_ne] at here
      exact .cons (.plain here.1.1 here.1.2 here.2) (ih later)

theorem string?_spelled {chars spelled : List Char} (spells : Grammar.SpellsText chars spelled) :
    ∃ pieces, (∀ rest, string? (Utf8.encode spelled ++ 0x22 :: rest) = some (pieces, rest)) ∧
      piecesText? pieces = some (String.ofList chars) := by
  have bytes : ∃ pieces,
      (∀ rest, string? (Utf8.encode spelled ++ 0x22 :: rest) = some (pieces, rest)) ∧
        piecesBytes? pieces = some (Utf8.encode chars) := by
    induction spells with
    | nil =>
        refine ⟨[], fun rest => ?_, rfl⟩
        rw [Utf8.encode, List.flatMap_nil, List.nil_append, string?]
    | cons first later ih =>
        obtain ⟨pieces, taken, meant⟩ := exists_reads first
        obtain ⟨more, takenLater, meantLater⟩ := ih
        refine ⟨pieces ++ more, ?_, ?_⟩
        · intro rest
          rw [Utf8.encode_append, List.append_assoc, taken, takenLater]
          rfl
        · rw [meant, meantLater]
          rfl
  obtain ⟨pieces, taken, meant⟩ := bytes
  refine ⟨pieces, taken, ?_⟩
  have read := Utf8.decodeText?_encodeText (String.ofList chars)
  rw [Utf8.encodeText, String.toList_ofList] at read
  rw [piecesText?, meant, Option.bind_some, read]

end SignedRest.Json
