/-
What follows a value has no part in it. A value that is read with something left behind it is read
in the same way where more bytes follow and more fuel is given, and an object is closed by its own
brace; so no proper front part of the text of an object is a text of its own.
-/

import SignedRest.Proofs.Json.Document
import Mathlib.Data.List.Basic
import Mathlib.Data.List.TakeWhile

namespace SignedRest.Json.Document

variable {input rest : Bytes}

/-! ### Blanks and strings -/

theorem skipBlank_append {byte : UInt8} {tail : Bytes} (first : skipBlank input = byte :: tail)
    (more : Bytes) : skipBlank (input ++ more) = byte :: (tail ++ more) := by
  rw [skipBlank] at first
  rw [skipBlank, List.dropWhile_append, first]
  rfl

theorem filled_of_skipBlank {byte : UInt8} {tail : Bytes} (first : skipBlank input = byte :: tail) :
    input ≠ [] := by
  rintro rfl
  cases first

theorem notBlank_of_skipBlank {byte : UInt8} {tail : Bytes}
    (first : skipBlank input = byte :: tail) : isBlank byte = false := by
  have again := skipBlank_skipBlank input
  rw [first] at again
  cases blank : isBlank byte with
  | false => rfl
  | true =>
      rw [skipBlank, List.dropWhile_cons_of_pos blank] at again
      have shorter := (List.dropWhile_suffix isBlank (l := tail)).length_le
      rw [again, List.length_cons] at shorter
      omega

theorem string?_append {pieces : List Piece} (read : string? input = some (pieces, rest))
    (more : Bytes) : string? (input ++ more) = some (pieces, rest ++ more) := by
  induction input using string?.induct generalizing pieces with
  | case1 => cases read
  | case2 tail =>
      rw [string?] at read
      cases read
      exact string?.eq_2 _
  | case3 a b c d tail ih =>
      rw [string?] at read
      obtain ⟨values, spelled, read⟩ := Option.bind_eq_some_iff.mp read
      obtain ⟨⟨later, behind⟩, taken, same⟩ := Option.bind_eq_some_iff.mp read
      cases same
      have four : [a, b, c, d].length = 4 := rfl
      have extended := string?_unit four spelled (tail ++ more)
      rw [ih taken] at extended
      exact extended
  | case4 mark tail notUnit ih =>
      rw [string?.eq_4 _ _ notUnit] at read
      obtain ⟨byte, known, read⟩ := Option.bind_eq_some_iff.mp read
      obtain ⟨⟨later, behind⟩, taken, same⟩ := Option.bind_eq_some_iff.mp read
      cases same
      have extended := string?_short known (tail ++ more)
      rw [ih taken] at extended
      exact extended
  | case5 byte tail notQuote notUnit notEscape refused =>
      rw [string?.eq_5 _ _ notQuote notUnit notEscape, if_pos refused] at read
      cases read
  | case6 byte tail notQuote notUnit notEscape allowed ih =>
      rw [string?.eq_5 _ _ notQuote notUnit notEscape, if_neg allowed] at read
      obtain ⟨⟨later, behind⟩, taken, same⟩ := Option.map_eq_some_iff.mp read
      cases same
      obtain ⟨printable, plain⟩ := not_or.mp allowed
      rw [List.cons_append, string?_cons printable notQuote plain, ih taken]
      rfl

/-! ### Numbers -/

/-- Bytes that come behind others do not change the first one. -/
theorem unlike_append {mark : UInt8} (filled : input ≠ [])
    (unlike : ∀ other, input ≠ mark :: other) (more : Bytes) :
    ∀ other, input ++ more ≠ mark :: other := by
  intro other same
  cases input with
  | nil => exact filled rfl
  | cons byte tail => exact unlike tail (congrArg (· :: tail) (List.cons.inj same).1)

/-- What is made of a part that is read stays as it is where the part does. -/
theorem map_append {Part Whole : Type} {reader : Bytes → Option (Part × Bytes)}
    {make : Part → Whole} {value : Whole} {more : Bytes}
    (read : (reader input).map (fun (part, after) => (make part, after)) = some (value, rest))
    (stays : ∀ part, reader input = some (part, rest) →
      reader (input ++ more) = some (part, rest ++ more)) :
    (reader (input ++ more)).map (fun (part, after) => (make part, after)) =
      some (value, rest ++ more) := by
  obtain ⟨⟨part, after⟩, inner, same⟩ := Option.map_eq_some_iff.mp read
  cases same
  rw [stays part inner]
  rfl

/-- A run of digits that something ends is not made longer. -/
theorem someDigits?_append {found : List Nat} (read : someDigits? input = some (found, rest))
    (left : rest ≠ []) (more : Bytes) :
    someDigits? (input ++ more) = some (found, rest ++ more) := by
  have whole := List.takeWhile_append_dropWhile (p := isDigit) (l := input)
  unfold someDigits? at read ⊢
  unfold digits at read ⊢
  split at read
  · cases read
  · rename_i notNone
    cases read
    have ended : (input.takeWhile isDigit).length ≠ input.length := by
      intro same
      apply left
      have sizes := congrArg List.length whole
      rw [List.length_append] at sizes
      exact List.length_eq_zero_iff.mp (by omega)
    rw [List.takeWhile_append, if_neg ended, List.dropWhile_append,
      if_neg (mt List.isEmpty_iff.mp left)]
    split
    · rename_i none
      exact absurd none notNone
    · rfl

theorem fraction?_append {fraction : Option (List Nat)}
    (read : fraction? input = some (fraction, rest)) (left : rest ≠ []) (more : Bytes) :
    fraction? (input ++ more) = some (fraction, rest ++ more) := by
  unfold fraction? at read
  split at read
  · exact map_append read fun _ inner => someDigits?_append inner left more
  · rename_i notPoint
    cases read
    rw [fraction?]
    exact unlike_append left notPoint more

theorem signedDigits?_append {signed : Bool × List Nat}
    (read : signedDigits? input = some (signed, rest)) (left : rest ≠ []) (more : Bytes) :
    signedDigits? (input ++ more) = some (signed, rest ++ more) := by
  unfold signedDigits? at read
  split at read
  · exact map_append read fun _ inner => someDigits?_append inner left more
  · exact map_append read fun _ inner => someDigits?_append inner left more
  · rename_i notPlus notMinus
    have filled : input ≠ [] := by
      rintro rfl
      cases read
    rw [signedDigits?]
    · exact map_append read fun _ inner => someDigits?_append inner left more
    · exact unlike_append filled notPlus more
    · exact unlike_append filled notMinus more

theorem exponent?_append {exponent : Option (Bool × List Nat)}
    (read : exponent? input = some (exponent, rest)) (left : rest ≠ []) (more : Bytes) :
    exponent? (input ++ more) = some (exponent, rest ++ more) := by
  unfold exponent? at read
  split at read
  · exact map_append read fun _ inner => signedDigits?_append inner left more
  · exact map_append read fun _ inner => signedDigits?_append inner left more
  · rename_i notSmall notCapital
    cases read
    rw [exponent?]
    · exact unlike_append left notSmall more
    · exact unlike_append left notCapital more

theorem magnitude?_append {negative : Bool} {literal : Literal}
    (read : magnitude? negative input = some (literal, rest)) (left : rest ≠ []) (more : Bytes) :
    magnitude? negative (input ++ more) = some (literal, rest ++ more) := by
  rw [magnitude?] at read
  obtain ⟨⟨whole, afterWhole⟩, readWhole, read⟩ := Option.bind_eq_some_iff.mp read
  dsimp only at read
  split at read
  · cases read
  · rename_i allowed
    obtain ⟨⟨fraction, afterFraction⟩, readFraction, read⟩ := Option.bind_eq_some_iff.mp read
    obtain ⟨⟨exponent, after⟩, readExponent, same⟩ := Option.bind_eq_some_iff.mp read
    cases same
    -- what is left in the end was left by each part before
    have leftFraction : afterFraction ≠ [] := by
      rintro rfl
      cases readExponent
      exact left rfl
    have leftWhole : afterWhole ≠ [] := by
      rintro rfl
      cases readFraction
      exact leftFraction rfl
    rw [magnitude?, someDigits?_append readWhole leftWhole]
    dsimp only [Option.bind_eq_bind, Option.bind_some]
    rw [if_neg allowed, fraction?_append readFraction leftFraction]
    dsimp only [Option.bind_some]
    rw [exponent?_append readExponent left]
    rfl

theorem magnitude?_head {negative : Bool} {literal : Literal}
    (read : magnitude? negative input = some (literal, rest)) :
    ∃ byte tail, input = byte :: tail ∧ isDigit byte = true := by
  rw [magnitude?] at read
  obtain ⟨⟨whole, afterWhole⟩, readWhole, _⟩ := Option.bind_eq_some_iff.mp read
  cases input with
  | nil => cases readWhole
  | cons byte tail =>
      refine ⟨byte, tail, rfl, ?_⟩
      cases first : isDigit byte with
      | true => rfl
      | false =>
          rw [someDigits?, digits, List.takeWhile_cons_of_neg (by rw [first]; decide)] at readWhole
          cases readWhole

/-! ### Scalars -/

theorem scalar?_digit {byte : UInt8} (digit : isDigit byte = true) (tail : Bytes) :
    scalar? (byte :: tail) =
      (magnitude? false (byte :: tail)).map (fun (literal, after) => (number literal, after)) := by
  have unlike : ∀ {mark : UInt8}, isDigit mark = false → ∀ other, byte :: tail ≠ mark :: other := by
    intro mark notDigit other same
    rw [(List.cons.inj same).1, notDigit] at digit
    cases digit
  rw [scalar?]
  · exact fun other => unlike (by decide) other
  · exact fun other => unlike (by decide) other
  · exact fun other => unlike (by decide) _
  · exact fun other => unlike (by decide) _
  · exact fun other => unlike (by decide) _

theorem scalar?_append {document : Document} (read : scalar? input = some (document, rest))
    (left : rest ≠ []) (more : Bytes) :
    scalar? (input ++ more) = some (document, rest ++ more) := by
  unfold scalar? at read
  split at read
  · exact map_append read fun _ inner => string?_append inner more
  · exact map_append read fun _ inner => magnitude?_append inner left more
  · cases read
    rfl
  · cases read
    rfl
  · cases read
    rfl
  · obtain ⟨⟨literal, after⟩, inner, _⟩ := Option.map_eq_some_iff.mp read
    obtain ⟨byte, tail, rfl, digit⟩ := magnitude?_head inner
    rw [List.cons_append, scalar?_digit digit]
    exact map_append read fun _ inner => magnitude?_append inner left more

theorem scalar?_ne_object {members : List (List Piece × Document)} :
    scalar? input ≠ some (.object members, rest) := by
  intro read
  unfold scalar? at read
  split at read
  · obtain ⟨_, _, same⟩ := Option.map_eq_some_iff.mp read
    cases same
  · obtain ⟨_, _, same⟩ := Option.map_eq_some_iff.mp read
    cases same
  · cases read
  · cases read
  · cases read
  · obtain ⟨_, _, same⟩ := Option.map_eq_some_iff.mp read
    cases same

/-! ### What reading a value comes to -/

/-- How a value was read, by the byte that it begins with. -/
inductive ReadValue (fuel : Nat) : Bytes → Document → Bytes → Prop where
  | emptyArray {inside after : Bytes} (closed : skipBlank inside = 0x5D :: after) :
      ReadValue fuel (0x5B :: inside) (.array []) after
  | array {inside after : Bytes} {items : List Document}
      (filled : ∀ behind, skipBlank inside ≠ 0x5D :: behind)
      (read : items? fuel inside = some (items, after)) :
      ReadValue fuel (0x5B :: inside) (.array items) after
  | emptyObject {inside after : Bytes} (closed : skipBlank inside = 0x7D :: after) :
      ReadValue fuel (0x7B :: inside) (.object []) after
  | object {inside after : Bytes} {members : List (List Piece × Document)}
      (filled : ∀ behind, skipBlank inside ≠ 0x7D :: behind)
      (read : members? fuel inside = some (members, after)) :
      ReadValue fuel (0x7B :: inside) (.object members) after
  | scalar {byte : UInt8} {tail after : Bytes} {document : Document}
      (opens : opensScalar byte = true) (read : scalar? (byte :: tail) = some (document, after)) :
      ReadValue fuel (byte :: tail) document after

theorem scalar?_opens {byte : UInt8} {tail : Bytes} {document : Document}
    (notBlank : isBlank byte = false) (notArray : byte ≠ 0x5B) (notObject : byte ≠ 0x7B)
    (read : scalar? (byte :: tail) = some (document, rest)) : opensScalar byte = true := by
  have notClosing : byte ≠ 0x5D := by
    rintro rfl
    cases read
  rw [opensScalar, notBlank, bne_iff_ne.mpr notArray, bne_iff_ne.mpr notClosing,
    bne_iff_ne.mpr notObject]
  rfl

theorem value?_cases {fuel : Nat} {document : Document}
    (read : value? fuel input = some (document, rest)) :
    ∃ less, fuel = less + 1 ∧ ReadValue less (skipBlank input) document rest := by
  cases fuel with
  | zero => cases read
  | succ less =>
      refine ⟨less, rfl, ?_⟩
      rw [← value?_skipBlank] at read
      cases first : skipBlank input with
      | nil =>
          rw [first] at read
          cases read
      | cons byte tail =>
          rw [first] at read
          have notBlank := notBlank_of_skipBlank first
          by_cases isArray : byte = 0x5B
          · subst isArray
            by_cases closed : ∃ after, skipBlank tail = 0x5D :: after
            · obtain ⟨after, closed⟩ := closed
              rw [value?_emptyArray closed] at read
              cases read
              exact .emptyArray closed
            · have filled := not_exists.mp closed
              rw [value?_array filled] at read
              obtain ⟨⟨items, after⟩, inner, same⟩ := Option.map_eq_some_iff.mp read
              cases same
              exact .array filled inner
          · by_cases isObject : byte = 0x7B
            · subst isObject
              by_cases closed : ∃ after, skipBlank tail = 0x7D :: after
              · obtain ⟨after, closed⟩ := closed
                rw [value?_emptyObject closed] at read
                cases read
                exact .emptyObject closed
              · have filled := not_exists.mp closed
                rw [value?_object filled] at read
                obtain ⟨⟨members, after⟩, inner, same⟩ := Option.map_eq_some_iff.mp read
                cases same
                exact .object filled inner
            · have scalar : value? (less + 1) (byte :: tail) = scalar? (byte :: tail) := by
                rw [value?, skipBlank_cons notBlank]
                split
                · rename_i same
                  exact absurd (List.cons.inj same).1 isArray
                · rename_i same
                  exact absurd (List.cons.inj same).1 isObject
                · rfl
              rw [scalar] at read
              exact .scalar (scalar?_opens notBlank isArray isObject read) read

theorem items?_cases {fuel : Nat} {items : List Document}
    (read : items? fuel input = some (items, rest)) :
    ∃ less first behind, fuel = less + 1 ∧ value? less input = some (first, behind) ∧
      ((skipBlank behind = 0x5D :: rest ∧ items = [first]) ∨
        ∃ later others, skipBlank behind = 0x2C :: later ∧
          items? less later = some (others, rest) ∧ items = first :: others) := by
  cases fuel with
  | zero => cases read
  | succ less =>
      rw [items?] at read
      obtain ⟨⟨first, behind⟩, value, read⟩ := Option.bind_eq_some_iff.mp read
      refine ⟨less, first, behind, rfl, value, ?_⟩
      dsimp only at read
      split at read
      · rename_i closed
        cases read
        exact .inl ⟨closed, rfl⟩
      · rename_i later parted
        obtain ⟨⟨others, after⟩, inner, same⟩ := Option.bind_eq_some_iff.mp read
        cases same
        exact .inr ⟨later, others, parted, inner, rfl⟩
      · cases read

theorem members?_cases {fuel : Nat} {members : List (List Piece × Document)}
    (read : members? fuel input = some (members, rest)) :
    ∃ less pieces inside first behind, fuel = less + 1 ∧ Named input pieces inside ∧
      value? less inside = some (first, behind) ∧
      ((skipBlank behind = 0x7D :: rest ∧ members = [(pieces, first)]) ∨
        ∃ later others, skipBlank behind = 0x2C :: later ∧
          members? less later = some (others, rest) ∧ members = (pieces, first) :: others) := by
  cases fuel with
  | zero => cases read
  | succ less =>
      rw [members?] at read
      split at read
      · rename_i named quoted
        obtain ⟨⟨pieces, colon⟩, spelled, read⟩ := Option.bind_eq_some_iff.mp read
        dsimp only at read
        split at read
        · rename_i inside parted
          obtain ⟨⟨first, behind⟩, value, read⟩ := Option.bind_eq_some_iff.mp read
          refine ⟨less, pieces, inside, first, behind, rfl, ⟨named, colon, quoted, spelled, parted⟩,
            value, ?_⟩
          dsimp only at read
          split at read
          · rename_i closed
            cases read
            exact .inl ⟨closed, rfl⟩
          · rename_i later parted
            obtain ⟨⟨others, after⟩, inner, same⟩ := Option.bind_eq_some_iff.mp read
            cases same
            exact .inr ⟨later, others, parted, inner, rfl⟩
          · cases read
        · cases read
      · cases read

/-! ### More bytes and more fuel -/

/-- What is read stays so where more bytes follow and more fuel is given. -/
def Lasts {Value : Type} (read : Nat → Bytes → Option (Value × Bytes)) (fuel : Nat) (input : Bytes)
    (value : Value) (rest : Bytes) : Prop :=
  ∀ larger more, fuel ≤ larger → read larger (input ++ more) = some (value, rest ++ more)

/-- A value ends before what is left behind it; only an object is sure to end without that. -/
def Ended (input rest : Bytes) : Prop :=
  rest ≠ [] ∨ ∃ inside, skipBlank input = 0x7B :: inside

def ValuesLast (fuel : Nat) : Prop :=
  ∀ input document rest, value? fuel input = some (document, rest) → Ended input rest →
    Lasts value? fuel input document rest

def ItemsLast (fuel : Nat) : Prop :=
  ∀ input items rest, items? fuel input = some (items, rest) → Lasts items? fuel input items rest

def MembersLast (fuel : Nat) : Prop :=
  ∀ input members rest, members? fuel input = some (members, rest) →
    Lasts members? fuel input members rest

/-- The next mark behind a value is its end, whatever comes later. -/
theorem ended_of_skipBlank {mark : UInt8} {tail : Bytes} (next : skipBlank rest = mark :: tail)
    (input : Bytes) : Ended input rest :=
  .inl (filled_of_skipBlank next)

theorem value?_begins {fuel : Nat} {document : Document}
    (read : value? fuel input = some (document, rest)) : skipBlank input ≠ [] := by
  obtain ⟨less, _, view⟩ := value?_cases read
  intro nothing
  rw [nothing] at view
  cases view

/-- What stands inside brackets begins in the same way whatever comes behind it. -/
theorem open_append {inside : Bytes} {mark : UInt8} (begins : skipBlank inside ≠ [])
    (filled : ∀ behind, skipBlank inside ≠ mark :: behind) (more : Bytes) :
    ∀ behind, skipBlank (inside ++ more) ≠ mark :: behind := by
  cases first : skipBlank inside with
  | nil => exact absurd first begins
  | cons byte tail =>
      rw [first] at filled
      rw [skipBlank_append first, ← List.cons_append]
      exact unlike_append (List.cons_ne_nil byte tail) filled more

theorem Named.append {pieces : List Piece} (named : Named input pieces rest) (more : Bytes) :
    Named (input ++ more) pieces (rest ++ more) := by
  obtain ⟨name, colon, quoted, spelled, parted⟩ := named
  exact ⟨name ++ more, colon ++ more, skipBlank_append quoted more, string?_append spelled more,
    skipBlank_append parted more⟩

theorem valuesLast_succ {fuel : Nat} (itemsLast : ItemsLast fuel) (membersLast : MembersLast fuel) :
    ValuesLast (fuel + 1) := by
  intro input document rest read ended larger more enough
  obtain ⟨less, same, view⟩ := value?_cases read
  cases same
  obtain ⟨large, rfl⟩ : ∃ large, larger = large + 1 := ⟨larger - 1, by omega⟩
  have within : fuel ≤ large := Nat.le_of_succ_le_succ enough
  rw [← value?_skipBlank]
  generalize begun : skipBlank input = start at view
  cases view with
  | emptyArray closed =>
      rw [skipBlank_append begun, value?_emptyArray (skipBlank_append closed more)]
  | array filled inner =>
      obtain ⟨_, _, _, _, first, _⟩ := items?_cases inner
      rw [skipBlank_append begun, value?_array (open_append (value?_begins first) filled more),
        itemsLast _ _ _ inner large more within]
      rfl
  | emptyObject closed =>
      rw [skipBlank_append begun, value?_emptyObject (skipBlank_append closed more)]
  | object filled inner =>
      obtain ⟨_, _, _, _, _, _, ⟨_, _, quoted, _⟩, _⟩ := members?_cases inner
      have begins := quoted ▸ List.cons_ne_nil _ _
      rw [skipBlank_append begun, value?_object (open_append begins filled more),
        membersLast _ _ _ inner large more within]
      rfl
  | scalar opens inner =>
      have left : rest ≠ [] := by
        rcases ended with left | ⟨inside, isObject⟩
        · exact left
        · rw [begun] at isObject
          rw [(List.cons.inj isObject).1] at opens
          cases opens
      rw [skipBlank_append begun, value?_scalar large opens, ← List.cons_append,
        scalar?_append inner left]

theorem itemsLast_succ {fuel : Nat} (valuesLast : ValuesLast fuel) (itemsLast : ItemsLast fuel) :
    ItemsLast (fuel + 1) := by
  intro input items rest read larger more enough
  obtain ⟨less, first, behind, same, value, next⟩ := items?_cases read
  cases same
  obtain ⟨large, rfl⟩ : ∃ large, larger = large + 1 := ⟨larger - 1, by omega⟩
  have within : fuel ≤ large := Nat.le_of_succ_le_succ enough
  rcases next with ⟨closed, rfl⟩ | ⟨later, others, parted, inner, rfl⟩
  · have extended := valuesLast _ _ _ value (ended_of_skipBlank closed input) large more within
    exact items?_last extended (skipBlank_append closed more)
  · have extended := valuesLast _ _ _ value (ended_of_skipBlank parted input) large more within
    exact items?_more extended (skipBlank_append parted more)
      (itemsLast _ _ _ inner large more within)

theorem membersLast_succ {fuel : Nat} (valuesLast : ValuesLast fuel)
    (membersLast : MembersLast fuel) : MembersLast (fuel + 1) := by
  intro input members rest read larger more enough
  obtain ⟨less, pieces, inside, first, behind, same, named, value, next⟩ := members?_cases read
  cases same
  obtain ⟨large, rfl⟩ : ∃ large, larger = large + 1 := ⟨larger - 1, by omega⟩
  have within : fuel ≤ large := Nat.le_of_succ_le_succ enough
  rcases next with ⟨closed, rfl⟩ | ⟨later, others, parted, inner, rfl⟩
  · have extended := valuesLast _ _ _ value (ended_of_skipBlank closed inside) large more within
    exact members?_last (named.append more) extended (skipBlank_append closed more)
  · have extended := valuesLast _ _ _ value (ended_of_skipBlank parted inside) large more within
    exact members?_more (named.append more) extended (skipBlank_append parted more)
      (membersLast _ _ _ inner large more within)

/-- By induction on the fuel: a call hands less of it to each call inside. -/
theorem lasts (fuel : Nat) : ValuesLast fuel ∧ ItemsLast fuel ∧ MembersLast fuel := by
  induction fuel with
  | zero =>
      refine ⟨?_, ?_, ?_⟩
      · intro input document rest read
        cases read
      · intro input items rest read
        cases read
      · intro input members rest read
        cases read
  | succ fuel ih =>
      obtain ⟨values, items, members⟩ := ih
      exact ⟨valuesLast_succ items members, itemsLast_succ values items,
        membersLast_succ values members⟩

/-! ### Whole texts -/

theorem ofBytes?_cases {document : Document} (read : ofBytes? input = some document) :
    ∃ rest, value? (2 * input.length + 2) input = some (document, rest) ∧ skipBlank rest = [] := by
  rw [ofBytes?] at read
  obtain ⟨⟨found, rest⟩, value, read⟩ := Option.bind_eq_some_iff.mp read
  dsimp only at read
  split at read
  · rename_i blank
    cases read
    exact ⟨rest, value, List.isEmpty_iff.mp blank⟩
  · cases read

/-- The text of an object begins with its opening brace. -/
theorem object_opens {fuel : Nat} {members : List (List Piece × Document)}
    (read : value? fuel input = some (.object members, rest)) :
    ∃ inside, skipBlank input = 0x7B :: inside := by
  obtain ⟨less, _, view⟩ := value?_cases read
  generalize skipBlank input = start at view
  cases view with
  | emptyObject closed => exact ⟨_, rfl⟩
  | object filled inner => exact ⟨_, rfl⟩
  | scalar opens inner => exact absurd inner scalar?_ne_object

/-- No text is left where the end of an object is cut off, as what is left would be read as the
whole is read, and leave the closing brace behind. -/
theorem ofBytes?_cut {front back : Bytes} {members : List (List Piece × Document)}
    (read : ofBytes? (front ++ back) = some (.object members)) (cut : back ≠ [])
    (closed : (front ++ back).getLast? = some 0x7D) : ofBytes? front = none := by
  obtain ⟨behind, whole, blank⟩ := ofBytes?_cases read
  cases part : ofBytes? front with
  | none => rfl
  | some document =>
      obtain ⟨rest, value, _⟩ := ofBytes?_cases part
      obtain ⟨inside, opens⟩ := object_opens whole
      have begins : ∃ tail, skipBlank front = 0x7B :: tail := by
        cases first : skipBlank front with
        | nil => exact absurd first (value?_begins value)
        | cons byte tail =>
            rw [skipBlank_append first] at opens
            exact ⟨tail, congrArg (· :: tail) (List.cons.inj opens).1⟩
      have fuel : 2 * front.length + 2 ≤ 2 * (front ++ back).length + 2 := by
        rw [List.length_append]
        omega
      have extended := (lasts _).1 front document rest value (.inr begins) _ back fuel
      rw [whole] at extended
      cases extended
      rw [skipBlank, List.dropWhile_eq_nil_iff] at blank
      rw [List.getLast?_append_of_ne_nil _ cut] at closed
      have last := blank 0x7D (List.mem_append_right rest (List.mem_of_getLast? closed))
      cases last

end SignedRest.Json.Document
