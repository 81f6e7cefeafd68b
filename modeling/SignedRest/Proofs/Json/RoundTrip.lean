/-
JSON values that are read back as they were written. Writing is one of the ways to write a value
that the grammar knows, so reading it needs no argument of its own; what is kept exactly are the
integers of sixty-four bits, and objects in the order of their names.
-/

import SignedRest.Json.Writer
import SignedRest.Proofs.Json.Document
import SignedRest.Proofs.Json.Literal
import SignedRest.Proofs.Table

namespace SignedRest.Json

open Grammar (IsBlank SpellsChar SpellsDigits SpellsNumber SpellsText SpellsUnit Writes WritesWhole)

/-- A value in which at most so many arrays and objects are nested, and every number is an integer of
sixty-four bits, with or without a sign. The members of an object have different names and stand in
their order, as a table has them. -/
inductive Exact : Nat → Json → Prop where
  | null {depth : Nat} : Exact depth .null
  | bool {depth : Nat} (value : Bool) : Exact depth (.bool value)
  | integer {depth : Nat} {value : Int} (low : -2 ^ 63 ≤ value) (high : value < 2 ^ 64) :
      Exact depth (.number (.integer value))
  | text {depth : Nat} (value : String) : Exact depth (.text value)
  | array {depth : Nat} {items : List Json} (exact : ∀ item ∈ items, Exact depth item) :
      Exact (depth + 1) (.array items)
  | object {depth : Nat} {members : List (String × Json)}
      (ordered : members.Pairwise (fun left right => left.1 < right.1))
      (exact : ∀ member ∈ members, Exact depth member.2) : Exact (depth + 1) (.object members)

theorem Exact.mono {depth deeper : Nat} {value : Json} (exact : Exact depth value)
    (within : depth ≤ deeper) : Exact deeper value := by
  induction exact generalizing deeper with
  | null => exact .null
  | bool value => exact .bool value
  | integer low high => exact .integer low high
  | text value => exact .text value
  | array _ each =>
      cases deeper with
      | zero => omega
      | succ deeper =>
          exact .array fun item member => each item member (Nat.le_of_succ_le_succ within)
  | object ordered _ each =>
      cases deeper with
      | zero => omega
      | succ deeper =>
          exact .object ordered fun item member => each item member (Nat.le_of_succ_le_succ within)

/-! ### Strings -/

theorem spellsUnit_control {value : Nat} (control : value < 0x20) :
    SpellsUnit value
      ['0', '0', Number.lowerDigit (value / 16), Number.lowerDigit (value % 16)] := by
  have table : ∀ value < 0x20, Number.ofChars? 16
      ['0', '0', Number.lowerDigit (value / 16), Number.lowerDigit (value % 16)] = some value := by
    decide
  exact ⟨rfl, table value control⟩

theorem spellsChar_escapeChar (c : Char) : SpellsChar c (escapeChar c) := by
  unfold escapeChar
  split_ifs with quote escape newline carriage tab backspace feed control
  · subst quote
    exact .short (by decide)
  · subst escape
    exact .short (by decide)
  · subst newline
    exact .short (by decide)
  · subst carriage
    exact .short (by decide)
  · subst tab
    exact .short (by decide)
  · subst backspace
    exact .short (by decide)
  · subst feed
    exact .short (by decide)
  · exact .unit (spellsUnit_control control)
  · exact .plain (Nat.not_lt.mp control) quote escape

theorem spellsText_escaped (chars : List Char) : SpellsText chars (chars.flatMap escapeChar) := by
  induction chars with
  | nil => exact .nil
  | cons c rest ih => exact .cons (spellsChar_escapeChar c) ih

/-! ### Integers -/

theorem exists_digits (number : Nat) :
    ∃ digits, SpellsDigits digits (Nat.toDigits 10 number) ∧
      (digits.head? = some 0 → digits.length = 1) ∧ Number.ofDigits 10 digits = number := by
  obtain ⟨digits, read, spelled⟩ := Number.toDigits_spelled number
  have decimal : ∀ digit ∈ digits, digit < 10 := Number.lt_of_mem_digits read
  have leading : digits.head? = some 0 → digits.length = 1 := by
    intro zero
    rw [spelled.leading zero, Nat.toDigits_zero] at read
    rw [← Option.some.inj read]
    rfl
  have written := Number.toDigits_ofDigits spelled.filled decimal leading
  rw [spelled.value] at written
  exact ⟨digits, ⟨spelled.filled, decimal, written⟩, leading, spelled.value⟩

/-- The literal with which an integer is written. -/
theorem exists_literal (value : Int) :
    ∃ literal : Literal, literal.IsInteger value ∧
      SpellsNumber literal (Number.integer value).toText.toList := by
  obtain ⟨digits, spells, leading, told⟩ := exists_digits value.natAbs
  have signed : value = Number.signed (decide (value < 0)) value.natAbs := by
    unfold Number.signed
    split_ifs with negative <;> simp at negative <;> omega
  have filled : decide (value < 0) = true → value.natAbs ≠ 0 := by
    intro negative
    have below := of_decide_eq_true negative
    omega
  refine ⟨⟨decide (value < 0), digits, none, none⟩, ⟨rfl, rfl, ?_, ?_⟩, ?_⟩
  · rw [told]
    exact signed
  · intro negative
    have below := of_decide_eq_true negative
    omega
  · have text := Literal.toText_signed filled
    rw [← signed] at text
    rw [text, String.toList_ofList]
    have parts : SpellsNumber ⟨decide (value < 0), digits, none, none⟩ _ :=
      .parts spells leading .absent .absent
    simpa using parts

/-! ### Values -/

/-- What is written is a tree, and what reading makes of that tree is the value. -/
def ReturnsTo (depth : Nat) (value : Json) : Prop :=
  ∃ tree, Writes (.value tree) (write value) ∧
    ∀ document, Document.Means document tree → ofDocument? depth document = some value

theorem returnsTo_integer {depth : Nat} {value : Int} (low : -2 ^ 63 ≤ value)
    (high : value < 2 ^ 64) : ReturnsTo depth (.number (.integer value)) := by
  obtain ⟨literal, integer, spells⟩ := exists_literal value
  refine ⟨.number literal, .number spells, fun document means => ?_⟩
  cases means
  rw [ofDocument?, Literal.number?_of_isInteger integer low high]
  rfl

theorem returnsTo_text {depth : Nat} (value : String) : ReturnsTo depth (.text value) := by
  have written : Writes (.value (.text (String.ofList value.toList))) (writeText value) :=
    .text (spellsText_escaped value.toList)
  rw [String.ofList_toList] at written
  refine ⟨.text value, written, fun document means => ?_⟩
  cases means with
  | string read => rw [ofDocument?, read, Option.map_some]

theorem isBlank_nil : IsBlank [] :=
  fun _ absent => nomatch absent

theorem returnsTo_items {depth : Nat} {first : Json} {rest : List Json}
    (each : ∀ item ∈ first :: rest, ReturnsTo depth item) :
    ∃ trees inside, Writes (.items trees) inside ∧
      write first ++ writeItems rest = inside ++ [']'] ∧
        ∀ items, Document.ItemsMean items trees → itemsOf? depth items = some (first :: rest) := by
  induction rest generalizing first with
  | nil =>
      obtain ⟨tree, written, read⟩ := each first List.mem_cons_self
      refine ⟨[tree], write first, ?_, rfl, fun items mean => ?_⟩
      · simpa using Writes.lastItem isBlank_nil written isBlank_nil
      · cases mean with
        | cons means others =>
            cases others
            rw [itemsOf?, read _ means]
            rfl
  | cons next rest ih =>
      obtain ⟨here, later⟩ := List.forall_mem_cons.mp each
      obtain ⟨tree, written, read⟩ := here
      obtain ⟨trees, inside, writtenLater, same, readLater⟩ := ih later
      refine ⟨tree :: trees, write first ++ ',' :: inside, ?_, ?_, fun items mean => ?_⟩
      · simpa using Writes.moreItems isBlank_nil written isBlank_nil writtenLater
      · rw [writeItems, List.cons_append, same]
        simp
      · cases mean with
        | cons means others =>
            rw [itemsOf?, read _ means, readLater _ others]
            rfl

theorem writes_named (name : String) {chars : List Char} {tree : Tree}
    (written : Writes (.value tree) chars) :
    Writes (.members [(name, tree)]) (writeText name ++ ':' :: chars) ∧
      ∀ {members : List (String × Tree)} {rest : List Char}, Writes (.members members) rest →
        Writes (.members ((name, tree) :: members))
          (writeText name ++ ':' :: chars ++ ',' :: rest) := by
  have spelled := spellsText_escaped name.toList
  constructor
  · have last := Writes.lastMember isBlank_nil spelled isBlank_nil isBlank_nil written isBlank_nil
    simpa [writeText] using last
  · intro members rest others
    have more :=
      Writes.moreMembers isBlank_nil spelled isBlank_nil isBlank_nil written isBlank_nil others
    simpa [writeText] using more

theorem returnsTo_members {depth : Nat} {name : String} {first : Json}
    {rest : List (String × Json)}
    (each : ∀ member ∈ (name, first) :: rest, ReturnsTo depth member.2) :
    ∃ trees inside, Writes (.members trees) inside ∧
      writeText name ++ ':' :: write first ++ writeMembers rest = inside ++ ['\x7d'] ∧
        ∀ members, Document.MembersMean members trees →
          membersOf? depth members = some ((name, first) :: rest) := by
  induction rest generalizing name first with
  | nil =>
      obtain ⟨tree, written, read⟩ := each (name, first) List.mem_cons_self
      refine ⟨[(name, tree)], _, (writes_named name written).1, rfl, fun members mean => ?_⟩
      cases mean with
      | cons spelled means others =>
          cases others
          rw [membersOf?, spelled, read _ means]
          rfl
  | cons next rest ih =>
      obtain ⟨here, later⟩ := List.forall_mem_cons.mp each
      obtain ⟨tree, written, read⟩ := here
      obtain ⟨trees, inside, writtenLater, same, readLater⟩ := ih later
      refine ⟨(name, tree) :: trees, _, (writes_named name written).2 writtenLater, ?_,
        fun members mean => ?_⟩
      · rw [writeMembers, List.cons_append, List.cons_append, same]
        simp
      · cases mean with
        | cons spelled means others =>
            rw [membersOf?, spelled, read _ means, readLater _ others]
            rfl

theorem Exact.returnsTo {depth : Nat} {value : Json} (exact : Exact depth value) :
    ReturnsTo depth value := by
  induction exact with
  | null =>
      refine ⟨.null, .null, fun document means => ?_⟩
      cases means
      rfl
  | bool value =>
      cases value with
      | false =>
          refine ⟨.bool false, .false, fun document means => ?_⟩
          cases means
          rfl
      | true =>
          refine ⟨.bool true, .true, fun document means => ?_⟩
          cases means
          rfl
  | integer low high => exact returnsTo_integer low high
  | text value => exact returnsTo_text value
  | array exact each =>
      rename_i items
      cases items with
      | nil =>
          refine ⟨.array [], .emptyArray isBlank_nil, fun document means => ?_⟩
          cases means with
          | array mean =>
              cases mean
              rfl
      | cons first rest =>
          obtain ⟨trees, inside, written, same, read⟩ := returnsTo_items each
          refine ⟨.array trees, ?_, fun document means => ?_⟩
          · rw [write, List.cons_append, same]
            exact .array written
          · cases means with
            | array mean => rw [ofDocument?, read _ mean, Option.map_some]
  | object ordered exact each =>
      rename_i members
      cases members with
      | nil =>
          refine ⟨.object [], .emptyObject isBlank_nil, fun document means => ?_⟩
          cases means with
          | object mean =>
              cases mean
              rfl
      | cons member rest =>
          obtain ⟨name, first⟩ := member
          obtain ⟨trees, inside, written, same, read⟩ := returnsTo_members each
          refine ⟨.object trees, ?_, fun document means => ?_⟩
          · rw [write, List.cons_append, List.cons_append, same]
            exact .object written
          · have kept : ofMembers ((name, first) :: rest) = .object ((name, first) :: rest) :=
              congrArg (fun table : Table Json => Json.object table.entries)
                (Table.ofList_entries ⟨_, ordered⟩)
            cases means with
            | object mean => rw [ofDocument?, read _ mean, Option.map_some, kept]

/-- A written value is read back, with blanks before and behind it. -/
theorem ofBytes?_write {value : Json} (exact : Exact greatestDepth value) {before after : List Char}
    (blankBefore : IsBlank before) (blankAfter : IsBlank after) :
    ofBytes? (Utf8.encode (before ++ write value ++ after)) = some value := by
  obtain ⟨tree, written, read⟩ := exact.returnsTo
  obtain ⟨document, found, means⟩ :=
    Document.ofBytes?_written ⟨before, write value, after, blankBefore, written, blankAfter, rfl⟩
  rw [ofBytes?, found, Option.bind_some, read document means]

end SignedRest.Json
