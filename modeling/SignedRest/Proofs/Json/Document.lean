/-
Every JSON text is read, in whatever way it is written, and the document that is read means what the
text says. The fuel suffices because every second call takes a byte.
-/

import SignedRest.Proofs.Json.Number
import SignedRest.Proofs.Json.Text

namespace SignedRest.Json

open Grammar

/-! ### Documents and trees -/

mutual

/-- A document says what a tree says, string by string. -/
inductive Document.Means : Document → Tree → Prop where
  | null : Document.Means .null .null
  | bool (value : Bool) : Document.Means (.bool value) (.bool value)
  | number (literal : Literal) : Document.Means (.number literal) (.number literal)
  | string {pieces : List Piece} {text : String} (read : piecesText? pieces = some text) :
      Document.Means (.string pieces) (.text text)
  | array {items : List Document} {trees : List Tree} (means : Document.ItemsMean items trees) :
      Document.Means (.array items) (.array trees)
  | object {members : List (List Piece × Document)} {named : List (String × Tree)}
      (means : Document.MembersMean members named) :
      Document.Means (.object members) (.object named)

inductive Document.ItemsMean : List Document → List Tree → Prop where
  | nil : Document.ItemsMean [] []
  | cons {item : Document} {tree : Tree} {items : List Document} {trees : List Tree}
      (first : Document.Means item tree) (others : Document.ItemsMean items trees) :
      Document.ItemsMean (item :: items) (tree :: trees)

inductive Document.MembersMean : List (List Piece × Document) → List (String × Tree) → Prop where
  | nil : Document.MembersMean [] []
  | cons {pieces : List Piece} {name : String} {item : Document} {tree : Tree}
      {members : List (List Piece × Document)} {named : List (String × Tree)}
      (read : piecesText? pieces = some name) (first : Document.Means item tree)
      (others : Document.MembersMean members named) :
      Document.MembersMean ((pieces, item) :: members) ((name, tree) :: named)

end

namespace Document

/-! ### Blanks -/

theorem skipBlank_encode {chars : List Char} (blank : IsBlank chars) (input : Bytes) :
    skipBlank (Utf8.encode chars ++ input) = skipBlank input := by
  -- decided along the list, as there are too many characters to try them all
  have table : ∀ c ∈ blanks, c.toNat < 0x80 ∧ isBlank (UInt8.ofNat c.toNat) = true :=
    @of_decide_eq_true _ (List.decidableBAll _ _) rfl
  induction chars with
  | nil => rfl
  | cons c rest ih =>
      obtain ⟨here, later⟩ := List.forall_mem_cons.mp blank
      obtain ⟨ascii, skipped⟩ := table c here
      rw [Utf8.encode_cons_ascii ascii, List.cons_append, skipBlank,
        List.dropWhile_cons_of_pos skipped]
      exact ih later

theorem skipBlank_cons {byte : UInt8} (notBlank : isBlank byte = false) (rest : Bytes) :
    skipBlank (byte :: rest) = byte :: rest :=
  List.dropWhile_cons_of_neg (by rw [notBlank]; exact Bool.false_ne_true)

theorem skipBlank_skipBlank (input : Bytes) : skipBlank (skipBlank input) = skipBlank input := by
  have first := List.head?_dropWhile_not isBlank input
  unfold skipBlank
  cases left : input.dropWhile isBlank with
  | nil => rfl
  | cons byte rest =>
      rw [left] at first
      exact skipBlank_cons first rest

theorem value?_skipBlank (fuel : Nat) (input : Bytes) :
    value? fuel (skipBlank input) = value? fuel input := by
  cases fuel with
  | zero => rfl
  | succ fuel => rw [value?, value?, skipBlank_skipBlank]

theorem items?_skipBlank (fuel : Nat) (input : Bytes) :
    items? fuel (skipBlank input) = items? fuel input := by
  cases fuel with
  | zero => rfl
  | succ fuel => rw [items?, items?, value?_skipBlank]

theorem members?_skipBlank (fuel : Nat) (input : Bytes) :
    members? fuel (skipBlank input) = members? fuel input := by
  cases fuel with
  | zero => rfl
  | succ fuel => rw [members?, members?, skipBlank_skipBlank]

/-! ### The first byte of a value -/

theorem value?_emptyArray {fuel : Nat} {rest after : Bytes}
    (closed : skipBlank rest = 0x5D :: after) :
    value? (fuel + 1) (0x5B :: rest) = some (.array [], after) := by
  rw [value?, skipBlank_cons (by decide)]
  split
  · rename_i same
    rw [← (List.cons.inj same).2, closed]
    rfl
  · rename_i same
    exact absurd (List.cons.inj same).1 (by decide)
  · rename_i notArray _
    exact absurd rfl (notArray rest)

theorem value?_array {fuel : Nat} {rest : Bytes}
    (filled : ∀ after, skipBlank rest ≠ 0x5D :: after) :
    value? (fuel + 1) (0x5B :: rest) =
      (items? fuel rest).map (fun (items, after) => (.array items, after)) := by
  rw [value?, skipBlank_cons (by decide)]
  split
  · rename_i same
    rw [← (List.cons.inj same).2, ← items?_skipBlank]
    split
    · rename_i after closed
      exact absurd closed (filled after)
    · rfl
  · rename_i same
    exact absurd (List.cons.inj same).1 (by decide)
  · rename_i notArray _
    exact absurd rfl (notArray rest)

theorem value?_emptyObject {fuel : Nat} {rest after : Bytes}
    (closed : skipBlank rest = 0x7D :: after) :
    value? (fuel + 1) (0x7B :: rest) = some (.object [], after) := by
  rw [value?, skipBlank_cons (by decide)]
  split
  · rename_i same
    exact absurd (List.cons.inj same).1 (by decide)
  · rename_i same
    rw [← (List.cons.inj same).2, closed]
    rfl
  · rename_i notObject
    exact absurd rfl (notObject rest)

theorem value?_object {fuel : Nat} {rest : Bytes}
    (filled : ∀ after, skipBlank rest ≠ 0x7D :: after) :
    value? (fuel + 1) (0x7B :: rest) =
      (members? fuel rest).map (fun (members, after) => (.object members, after)) := by
  rw [value?, skipBlank_cons (by decide)]
  split
  · rename_i same
    exact absurd (List.cons.inj same).1 (by decide)
  · rename_i same
    rw [← (List.cons.inj same).2, ← members?_skipBlank]
    split
    · rename_i after closed
      exact absurd closed (filled after)
    · rfl
  · rename_i notObject
    exact absurd rfl (notObject rest)

theorem value?_scalar (fuel : Nat) {byte : UInt8} (opens : opensScalar byte = true) (rest : Bytes) :
    value? (fuel + 1) (byte :: rest) = scalar? (byte :: rest) := by
  rw [value?, skipBlank_cons (notBlank_of_opensScalar opens)]
  split
  · rename_i same
    rw [(List.cons.inj same).1] at opens
    cases opens
  · rename_i same
    rw [(List.cons.inj same).1] at opens
    cases opens
  · rfl

/-! ### Items and members -/

theorem items?_last {fuel : Nat} {input rest after : Bytes} {first : Document}
    (read : value? fuel input = some (first, rest)) (closed : skipBlank rest = 0x5D :: after) :
    items? (fuel + 1) input = some ([first], after) := by
  rw [items?, read, Option.bind_eq_bind, Option.bind_some]
  dsimp only
  rw [closed]
  rfl

theorem items?_more {fuel : Nat} {input rest more after : Bytes} {first : Document}
    {others : List Document} (read : value? fuel input = some (first, rest))
    (parted : skipBlank rest = 0x2C :: more) (later : items? fuel more = some (others, after)) :
    items? (fuel + 1) input = some (first :: others, after) := by
  rw [items?, read, Option.bind_eq_bind, Option.bind_some]
  dsimp only
  rw [parted]
  change (items? fuel more).bind _ = _
  rw [later]
  rfl

/-- What stands in front of a member's value. -/
def Named (input : Bytes) (pieces : List Piece) (rest : Bytes) : Prop :=
  ∃ named colon, skipBlank input = 0x22 :: named ∧ string? named = some (pieces, colon) ∧
    skipBlank colon = 0x3A :: rest

theorem members?_last {fuel : Nat} {input rest behind after : Bytes} {pieces : List Piece}
    {first : Document} (named : Named input pieces rest)
    (read : value? fuel rest = some (first, behind)) (closed : skipBlank behind = 0x7D :: after) :
    members? (fuel + 1) input = some ([(pieces, first)], after) := by
  obtain ⟨name, colon, quoted, spelled, parted⟩ := named
  rw [members?, quoted]
  change (string? name).bind _ = _
  rw [spelled, Option.bind_some]
  dsimp only
  rw [parted]
  change (value? fuel rest).bind _ = _
  rw [read, Option.bind_some]
  dsimp only
  rw [closed]
  rfl

theorem members?_more {fuel : Nat} {input rest behind more after : Bytes} {pieces : List Piece}
    {first : Document} {others : List (List Piece × Document)} (named : Named input pieces rest)
    (read : value? fuel rest = some (first, behind)) (parted : skipBlank behind = 0x2C :: more)
    (later : members? fuel more = some (others, after)) :
    members? (fuel + 1) input = some ((pieces, first) :: others, after) := by
  obtain ⟨name, colon, quoted, spelled, colonParted⟩ := named
  rw [members?, quoted]
  change (string? name).bind _ = _
  rw [spelled, Option.bind_some]
  dsimp only
  rw [colonParted]
  change (value? fuel rest).bind _ = _
  rw [read, Option.bind_some]
  dsimp only
  rw [parted]
  change (members? fuel more).bind _ = _
  rw [later]
  rfl

/-! ### Written parts -/

theorem stops_blanks {chars : List Char} (blank : IsBlank chars) {rest : Bytes}
    (ends : Stops rest) :
    Stops (Utf8.encode chars ++ rest) := by
  have table : ∀ c ∈ blanks, c.toNat < 0x80 ∧ isDigit (UInt8.ofNat c.toNat) = false ∧
      UInt8.ofNat c.toNat ≠ 0x2E ∧ UInt8.ofNat c.toNat ≠ 0x65 ∧ UInt8.ofNat c.toNat ≠ 0x45 :=
    @of_decide_eq_true _ (List.decidableBAll _ _) rfl
  cases chars with
  | nil => exact ends
  | cons c others =>
      obtain ⟨ascii, notDigit, notPoint, notMark⟩ := table c (blank c List.mem_cons_self)
      rw [Utf8.encode_cons_ascii ascii]
      exact stops_cons notDigit notPoint notMark _

theorem value_begins {tree : Tree} {chars : List Char} (writes : Writes (.value tree) chars) :
    ∃ byte more, Utf8.encode chars = byte :: more ∧ isBlank byte = false ∧ byte ≠ 0x5D := by
  cases writes with
  | null => exact ⟨0x6E, _, rfl, by decide⟩
  | true => exact ⟨0x74, _, rfl, by decide⟩
  | false => exact ⟨0x66, _, rfl, by decide⟩
  | number spells =>
      obtain ⟨byte, more, same, opens⟩ := number_begins spells
      rw [opensScalar, Bool.and_eq_true, Bool.and_eq_true, Bool.and_eq_true, Bool.not_eq_true',
        bne_iff_ne, bne_iff_ne] at opens
      exact ⟨byte, more, same, opens.1.1.1, opens.1.2⟩
  | text => exact ⟨0x22, _, rfl, by decide⟩
  | emptyArray => exact ⟨0x5B, _, rfl, by decide⟩
  | array => exact ⟨0x5B, _, rfl, by decide⟩
  | emptyObject => exact ⟨0x7B, _, rfl, by decide⟩
  | object => exact ⟨0x7B, _, rfl, by decide⟩

theorem items_open {trees : List Tree} {chars : List Char} (writes : Writes (.items trees) chars)
    (rest after : Bytes) : skipBlank (Utf8.encode chars ++ rest) ≠ 0x5D :: after := by
  have begins : ∀ {tree : Tree} {before chars : List Char} (more : List Char), IsBlank before →
      Writes (.value tree) chars →
      skipBlank (Utf8.encode (before ++ (chars ++ more)) ++ rest) ≠ 0x5D :: after := by
    intro tree before chars more blank writes same
    obtain ⟨byte, others, written, notBlank, notClosing⟩ := value_begins writes
    rw [Utf8.encode_append, Utf8.encode_append, List.append_assoc, skipBlank_encode blank, written,
      List.append_assoc, List.cons_append, skipBlank_cons notBlank] at same
    exact notClosing (List.cons.inj same).1
  cases writes with
  | lastItem blankBefore writes =>
      rw [List.append_assoc]
      exact begins _ blankBefore writes
  | moreItems blankBefore writes =>
      rw [List.append_assoc, List.append_assoc]
      exact begins _ blankBefore writes

/-- How a member begins: blanks, its name, a colon, and blanks. -/
theorem named_spelled {before name spelled colonBefore : List Char}
    (blankBefore : IsBlank before) (spells : SpellsText name spelled)
    (blankColonBefore : IsBlank colonBefore) (colonAfter : List Char) :
    ∃ pieces, piecesText? pieces = some (String.ofList name) ∧ ∀ rest,
      Named
        (Utf8.encode (before ++ '"' :: spelled ++ '"' :: colonBefore ++ ':' :: colonAfter) ++ rest)
        pieces (Utf8.encode colonAfter ++ rest) := by
  obtain ⟨pieces, taken, meant⟩ := string?_spelled spells
  refine ⟨pieces, meant, fun rest => ?_⟩
  refine ⟨Utf8.encode spelled ++ 0x22 :: (Utf8.encode colonBefore ++ 0x3A ::
    (Utf8.encode colonAfter ++ rest)), _, ?_, taken _, ?_⟩
  · have colon : Utf8.encode (':' :: colonAfter) = 0x3A :: Utf8.encode colonAfter :=
      Utf8.encode_cons_ascii (by decide) _
    have quote : ∀ chars, Utf8.encode ('"' :: chars) = 0x22 :: Utf8.encode chars :=
      Utf8.encode_cons_ascii (by decide)
    simp only [List.append_assoc, List.cons_append, Utf8.encode_append, quote, colon]
    rw [skipBlank_encode blankBefore, skipBlank_cons (by decide)]
  · rw [skipBlank_encode blankColonBefore, skipBlank_cons (by decide)]

theorem members_open {members : List (String × Tree)} {chars : List Char}
    (writes : Writes (.members members) chars) (rest after : Bytes) :
    skipBlank (Utf8.encode chars ++ rest) ≠ 0x7D :: after := by
  have begins : ∀ {before : List Char} (more : List Char), IsBlank before →
      skipBlank (Utf8.encode (before ++ '"' :: more) ++ rest) ≠ 0x7D :: after := by
    intro before more blank same
    rw [Utf8.encode_append, Utf8.encode_cons_ascii (by decide), List.append_assoc,
      skipBlank_encode blank, List.cons_append, skipBlank_cons (by decide)] at same
    exact absurd (List.cons.inj same).1 (by decide)
  cases writes with
  | lastMember blankBefore =>
      simp only [List.append_assoc, List.cons_append]
      exact begins _ blankBefore
  | moreMembers blankBefore =>
      simp only [List.append_assoc, List.cons_append]
      exact begins _ blankBefore

/-! ### Everything that is written is read -/

theorem value?_blanks {chars : List Char} (blank : IsBlank chars) (fuel : Nat) (input : Bytes) :
    value? fuel (Utf8.encode chars ++ input) = value? fuel input := by
  rw [← value?_skipBlank, skipBlank_encode blank, value?_skipBlank]

theorem encode_between {first last : Char} (firstAscii : first.toNat < 0x80)
    (lastAscii : last.toNat < 0x80) (inside : List Char) :
    Utf8.encode (first :: inside ++ [last]) =
      UInt8.ofNat first.toNat :: (Utf8.encode inside ++ [UInt8.ofNat last.toNat]) := by
  rw [List.cons_append, Utf8.encode_cons_ascii firstAscii, Utf8.encode_append,
    Utf8.encode_cons_ascii lastAscii]
  rfl

/-- Whatever follows a part, it is read as what it says, given the fuel that its bytes call for. -/
def ReadBack : Part → List Char → Prop
  | .value tree, chars => ∀ fuel rest, 2 * (Utf8.encode chars).length ≤ fuel + 1 → Stops rest →
      ∃ document, value? fuel (Utf8.encode chars ++ rest) = some (document, rest) ∧
        Means document tree
  | .items trees, chars => ∀ fuel rest, 2 * (Utf8.encode chars).length ≤ fuel →
      ∃ items, items? fuel (Utf8.encode chars ++ 0x5D :: rest) = some (items, rest) ∧
        ItemsMean items trees
  | .members members, chars => ∀ fuel rest, 2 * (Utf8.encode chars).length ≤ fuel →
      ∃ found, members? fuel (Utf8.encode chars ++ 0x7D :: rest) = some (found, rest) ∧
        MembersMean found members

theorem readBack_scalar {tree : Tree} {chars : List Char} {document : Document}
    (begins : ∃ byte more, Utf8.encode chars = byte :: more ∧ opensScalar byte = true)
    (read : ∀ rest, Stops rest → scalar? (Utf8.encode chars ++ rest) = some (document, rest))
    (means : Means document tree) : ReadBack (.value tree) chars := by
  intro fuel rest enough ends
  have found := read rest ends
  obtain ⟨byte, more, same, opens⟩ := begins
  rw [same, List.length_cons] at enough
  rw [same] at found ⊢
  cases fuel with
  | zero => omega
  | succ fuel => exact ⟨document, (value?_scalar fuel opens _).trans found, means⟩

theorem readBack_text {chars spelled : List Char} (spells : SpellsText chars spelled) :
    ReadBack (.value (.text (String.ofList chars))) ('"' :: spelled ++ ['"']) := by
  obtain ⟨pieces, taken, meant⟩ := string?_spelled spells
  have written : Utf8.encode ('"' :: spelled ++ ['"']) = 0x22 :: (Utf8.encode spelled ++ [0x22]) :=
    encode_between (by decide) (by decide) spelled
  refine readBack_scalar ⟨_, _, written, by decide⟩ (fun rest _ => ?_) (.string meant)
  rw [written, List.cons_append, List.append_assoc, scalar?]
  change (string? (Utf8.encode spelled ++ 0x22 :: rest)).map _ = _
  rw [taken]
  rfl

/-- The brackets take the bytes that pay for the call inside. -/
theorem readBack_bracketed {tree : Tree} {first last : Char} {inside : List Char}
    (firstAscii : first.toNat < 0x80) (lastAscii : last.toNat < 0x80)
    (read : ∀ fuel rest, 2 * (Utf8.encode inside).length ≤ fuel → ∃ document,
      value? (fuel + 1) (UInt8.ofNat first.toNat ::
        (Utf8.encode inside ++ UInt8.ofNat last.toNat :: rest)) = some (document, rest) ∧
          Means document tree) :
    ReadBack (.value tree) (first :: inside ++ [last]) := by
  intro fuel rest enough _
  have written := encode_between firstAscii lastAscii inside
  rw [written, List.length_cons, List.length_append, List.length_singleton] at enough
  rw [written, List.cons_append, List.append_assoc]
  cases fuel with
  | zero => omega
  | succ fuel => exact read fuel rest (by omega)

theorem readBack_emptyArray {inside : List Char} (blank : IsBlank inside) :
    ReadBack (.value (.array [])) ('[' :: inside ++ [']']) := by
  refine readBack_bracketed (by decide) (by decide) fun fuel rest _ => ?_
  refine ⟨.array [], value?_emptyArray ?_, .array .nil⟩
  rw [skipBlank_encode blank]
  exact skipBlank_cons (by decide) rest

theorem readBack_array {trees : List Tree} {inside : List Char}
    (writes : Writes (.items trees) inside) (readInside : ReadBack (.items trees) inside) :
    ReadBack (.value (.array trees)) ('[' :: inside ++ [']']) := by
  refine readBack_bracketed (by decide) (by decide) fun fuel rest enough => ?_
  obtain ⟨items, read, means⟩ := readInside fuel rest enough
  refine ⟨.array items, (value?_array (items_open writes _)).trans ?_, .array means⟩
  exact congrArg (Option.map _) read

theorem readBack_emptyObject {inside : List Char} (blank : IsBlank inside) :
    ReadBack (.value (.object [])) ('\x7b' :: inside ++ ['\x7d']) := by
  refine readBack_bracketed (by decide) (by decide) fun fuel rest _ => ?_
  refine ⟨.object [], value?_emptyObject ?_, .object .nil⟩
  rw [skipBlank_encode blank]
  exact skipBlank_cons (by decide) rest

theorem readBack_object {members : List (String × Tree)} {inside : List Char}
    (writes : Writes (.members members) inside) (readInside : ReadBack (.members members) inside) :
    ReadBack (.value (.object members)) ('\x7b' :: inside ++ ['\x7d']) := by
  refine readBack_bracketed (by decide) (by decide) fun fuel rest enough => ?_
  obtain ⟨found, read, means⟩ := readInside fuel rest enough
  refine ⟨.object found, (value?_object (members_open writes _)).trans ?_, .object means⟩
  exact congrArg (Option.map _) read

/-! One byte at least is a value's own, which pays for the call that reads it. -/

theorem value_filled {tree : Tree} {chars : List Char} (writes : Writes (.value tree) chars) :
    0 < (Utf8.encode chars).length := by
  obtain ⟨byte, more, begins, -⟩ := value_begins writes
  rw [begins]
  exact Nat.succ_pos _

theorem length_encode_append (left right : List Char) :
    (Utf8.encode (left ++ right)).length =
      (Utf8.encode left).length + (Utf8.encode right).length := by
  rw [Utf8.encode_append, List.length_append]

theorem encode_comma (rest : List Char) :
    Utf8.encode (',' :: rest) = 0x2C :: Utf8.encode rest :=
  Utf8.encode_cons_ascii (by decide) rest

/-- A value between blanks, in front of what closes or goes on. -/
theorem value?_between {tree : Tree} {before chars after : List Char} (blankBefore : IsBlank before)
    (readValue : ReadBack (.value tree) chars) (blankAfter : IsBlank after) {fuel : Nat}
    (enough : 2 * (Utf8.encode chars).length ≤ fuel + 1) {mark : UInt8}
    (notBlank : isBlank mark = false) (ends : ∀ rest, Stops (mark :: rest)) (rest : Bytes) :
    ∃ document behind,
      value? fuel
          (Utf8.encode before ++ (Utf8.encode chars ++ (Utf8.encode after ++ mark :: rest))) =
        some (document, behind) ∧ skipBlank behind = mark :: rest ∧ Means document tree := by
  obtain ⟨document, read, means⟩ := readValue fuel _ enough (stops_blanks blankAfter (ends rest))
  refine ⟨document, _, (value?_blanks blankBefore _ _).trans read, ?_, means⟩
  rw [skipBlank_encode blankAfter, skipBlank_cons notBlank]

theorem stops_closing {mark : UInt8} (closes : mark = 0x5D ∨ mark = 0x7D ∨ mark = 0x2C)
    (rest : Bytes) : Stops (mark :: rest) := by
  rcases closes with rfl | rfl | rfl
  · exact stops_cons (by decide) (by decide) (by decide) rest
  · exact stops_cons (by decide) (by decide) (by decide) rest
  · exact stops_cons (by decide) (by decide) (by decide) rest

theorem readBack_lastItem {tree : Tree} {before chars after : List Char}
    (blankBefore : IsBlank before) (writes : Writes (.value tree) chars)
    (readValue : ReadBack (.value tree) chars) (blankAfter : IsBlank after) :
    ReadBack (.items [tree]) (before ++ chars ++ after) := by
  intro fuel rest enough
  have filled := value_filled writes
  rw [length_encode_append, length_encode_append] at enough
  rw [Utf8.encode_append, Utf8.encode_append, List.append_assoc, List.append_assoc]
  cases fuel with
  | zero => omega
  | succ fuel =>
      have room : 2 * (Utf8.encode chars).length ≤ fuel + 1 := by omega
      obtain ⟨document, behind, read, closed, means⟩ := value?_between blankBefore readValue
        blankAfter room (by decide) (stops_closing (.inl rfl)) rest
      exact ⟨[document], items?_last read closed, .cons means .nil⟩

theorem readBack_moreItems {tree : Tree} {trees : List Tree} {before chars after rest : List Char}
    (blankBefore : IsBlank before) (writes : Writes (.value tree) chars)
    (readValue : ReadBack (.value tree) chars) (blankAfter : IsBlank after)
    (readOthers : ReadBack (.items trees) rest) :
    ReadBack (.items (tree :: trees)) (before ++ chars ++ after ++ ',' :: rest) := by
  intro fuel behindAll enough
  have filled := value_filled writes
  rw [length_encode_append, length_encode_append, length_encode_append, encode_comma,
    List.length_cons] at enough
  rw [Utf8.encode_append, Utf8.encode_append, Utf8.encode_append, encode_comma, List.append_assoc,
    List.append_assoc, List.append_assoc, List.cons_append]
  cases fuel with
  | zero => omega
  | succ fuel =>
      have room : 2 * (Utf8.encode chars).length ≤ fuel + 1 := by omega
      obtain ⟨document, behind, read, parted, means⟩ := value?_between blankBefore readValue
        blankAfter room (by decide) (stops_closing (.inr (.inr rfl)))
        (Utf8.encode rest ++ 0x5D :: behindAll)
      obtain ⟨documents, readLater, meanLater⟩ := readOthers fuel behindAll (by omega)
      exact ⟨document :: documents, items?_more read parted readLater, .cons means meanLater⟩

theorem readBack_lastMember {name spelled before colonBefore colonAfter chars after : List Char}
    {tree : Tree} (blankBefore : IsBlank before) (spells : SpellsText name spelled)
    (blankColonBefore : IsBlank colonBefore) (blankColonAfter : IsBlank colonAfter)
    (writes : Writes (.value tree) chars) (readValue : ReadBack (.value tree) chars)
    (blankAfter : IsBlank after) :
    ReadBack (.members [(String.ofList name, tree)])
      (before ++ '"' :: spelled ++ '"' :: colonBefore ++ ':' :: colonAfter ++ chars ++ after) := by
  intro fuel rest enough
  have filled := value_filled writes
  obtain ⟨pieces, meant, named⟩ := named_spelled blankBefore spells blankColonBefore colonAfter
  rw [length_encode_append, length_encode_append] at enough
  rw [Utf8.encode_append, Utf8.encode_append, List.append_assoc, List.append_assoc]
  cases fuel with
  | zero => omega
  | succ fuel =>
      have room : 2 * (Utf8.encode chars).length ≤ fuel + 1 := by omega
      obtain ⟨document, behind, read, closed, means⟩ := value?_between blankColonAfter readValue
        blankAfter room (by decide) (stops_closing (.inr (.inl rfl))) rest
      exact ⟨[(pieces, document)], members?_last (named _) read closed, .cons meant means .nil⟩

theorem readBack_moreMembers
    {name spelled before colonBefore colonAfter chars after rest : List Char} {tree : Tree}
    {members : List (String × Tree)} (blankBefore : IsBlank before)
    (spells : SpellsText name spelled) (blankColonBefore : IsBlank colonBefore)
    (blankColonAfter : IsBlank colonAfter) (writes : Writes (.value tree) chars)
    (readValue : ReadBack (.value tree) chars) (blankAfter : IsBlank after)
    (readOthers : ReadBack (.members members) rest) :
    ReadBack (.members ((String.ofList name, tree) :: members))
      (before ++ '"' :: spelled ++ '"' :: colonBefore ++ ':' :: colonAfter ++ chars ++ after ++
        ',' :: rest) := by
  intro fuel behindAll enough
  have filled := value_filled writes
  obtain ⟨pieces, meant, named⟩ := named_spelled blankBefore spells blankColonBefore colonAfter
  rw [length_encode_append, length_encode_append, length_encode_append, encode_comma,
    List.length_cons] at enough
  rw [Utf8.encode_append, Utf8.encode_append, Utf8.encode_append, encode_comma, List.append_assoc,
    List.append_assoc, List.append_assoc, List.cons_append]
  cases fuel with
  | zero => omega
  | succ fuel =>
      have room : 2 * (Utf8.encode chars).length ≤ fuel + 1 := by omega
      obtain ⟨document, behind, read, parted, means⟩ := value?_between blankColonAfter readValue
        blankAfter room (by decide) (stops_closing (.inr (.inr rfl)))
        (Utf8.encode rest ++ 0x7D :: behindAll)
      obtain ⟨found, readLater, meanLater⟩ := readOthers fuel behindAll (by omega)
      exact ⟨(pieces, document) :: found, members?_more (named _) read parted readLater,
        .cons meant means meanLater⟩

/-- By induction on how a part is written: one case for each way, with what follows left open. -/
theorem readBack_of_writes {part : Part} {chars : List Char} (writes : Writes part chars) :
    ReadBack part chars := by
  induction writes with
  | null => exact readBack_scalar ⟨0x6E, _, rfl, by decide⟩ (fun _ _ => rfl) .null
  | true => exact readBack_scalar ⟨0x74, _, rfl, by decide⟩ (fun _ _ => rfl) (.bool true)
  | false => exact readBack_scalar ⟨0x66, _, rfl, by decide⟩ (fun _ _ => rfl) (.bool false)
  | number spells =>
      exact readBack_scalar (number_begins spells) (fun _ ends => scalar?_number spells ends)
        (.number _)
  | text spells => exact readBack_text spells
  | emptyArray blank => exact readBack_emptyArray blank
  | array writes ih => exact readBack_array writes ih
  | emptyObject blank => exact readBack_emptyObject blank
  | object writes ih => exact readBack_object writes ih
  | lastItem blankBefore writes blankAfter ih =>
      exact readBack_lastItem blankBefore writes ih blankAfter
  | moreItems blankBefore writes blankAfter _ ih ihOthers =>
      exact readBack_moreItems blankBefore writes ih blankAfter ihOthers
  | lastMember blankBefore spells blankColonBefore blankColonAfter writes blankAfter ih =>
      exact readBack_lastMember blankBefore spells blankColonBefore blankColonAfter writes ih
        blankAfter
  | moreMembers blankBefore spells blankColonBefore blankColonAfter writes blankAfter _ ih
      ihOthers =>
      exact readBack_moreMembers blankBefore spells blankColonBefore blankColonAfter writes ih
        blankAfter ihOthers

theorem ofBytes?_written {tree : Tree} {chars : List Char} (writes : WritesWhole tree chars) :
    ∃ document, ofBytes? (Utf8.encode chars) = some document ∧ Means document tree := by
  obtain ⟨before, inside, after, blankBefore, written, blankAfter, rfl⟩ := writes
  have stops : Stops (Utf8.encode after) := by
    have ends := stops_blanks blankAfter stops_nil
    rwa [List.append_nil] at ends
  have nothing : skipBlank (Utf8.encode after) = [] := by
    have skipped := skipBlank_encode blankAfter []
    rwa [List.append_nil] at skipped
  have whole : Utf8.encode (before ++ inside ++ after) =
      Utf8.encode before ++ (Utf8.encode inside ++ Utf8.encode after) := by
    rw [Utf8.encode_append, Utf8.encode_append, List.append_assoc]
  have room : 2 * (Utf8.encode inside).length ≤
      2 * (Utf8.encode (before ++ inside ++ after)).length + 2 + 1 := by
    rw [length_encode_append, length_encode_append]
    omega
  obtain ⟨document, read, means⟩ := readBack_of_writes written _ _ room stops
  refine ⟨document, ?_, means⟩
  rw [whole] at read
  rw [ofBytes?, whole, value?_blanks blankBefore, read, Option.bind_eq_bind, Option.bind_some]
  dsimp only
  rw [nothing]
  rfl

end Document

end SignedRest.Json
