/-
Strings that were written can be read. Whatever style a string is written in, reading gives its
characters back and stops behind the closing quotes, unless one more quote stands there.
-/

import SignedRest.Toml.Text

namespace SignedRest.Toml

/-! ### Escapes -/

/-- What spells a character, from a place inside its escape on. -/
inductive Spells : Place → List Char → Char → Prop where
  | short {mark c : Char} (step : escapeStep mark = some (some c, .plain)) :
      Spells .escape [mark] c
  | opened {mark c : Char} {place : Place} {digits : List Char}
      (step : escapeStep mark = some (none, place)) (later : Spells place digits c) :
      Spells .escape (mark :: digits) c
  | digit {missing value : Nat} {digit c : Char} {place : Place} {digits : List Char}
      (step : digitStep missing value digit = some (none, place))
      (later : Spells place digits c) : Spells (.digits missing value) (digit :: digits) c
  | last {missing value : Nat} {digit c : Char}
      (step : digitStep missing value digit = some (some c, .plain)) :
      Spells (.digits missing value) [digit] c

theorem digitOfChar?_upperDigit {value : Nat} (small : value < 16) :
    Number.digitOfChar? 16 (Number.upperDigit value) = some value := by
  have every : ∀ value < 16,
      Number.digitOfChar? 16 (Number.upperDigit value) = some value := by decide
  exact every value small

theorem charOf?_toNat (c : Char) : charOf? c.toNat = some c := by
  have valid : c.toNat.isValidChar := c.valid
  rw [charOf?, if_pos valid, Char.ofNat_toNat]

theorem spells_hex {c : Char} (small : c.toNat < 0x100) :
    Spells .escape
      ['u', '0', '0', Number.upperDigit (c.toNat / 16), Number.upperDigit (c.toNat % 16)] c := by
  have high : digitStep 2 0 (Number.upperDigit (c.toNat / 16)) =
      some (none, .digits 1 (c.toNat / 16)) := by
    rw [digitStep, digitOfChar?_upperDigit (by omega)]
    exact congrArg (fun total => some (none, Place.digits 1 total)) (by omega)
  have low : digitStep 1 (c.toNat / 16) (Number.upperDigit (c.toNat % 16)) =
      some (some c, .plain) := by
    have whole : c.toNat / 16 * 16 + c.toNat % 16 = c.toNat := by omega
    rw [digitStep, digitOfChar?_upperDigit (by omega)]
    simp only [Option.bind_eq_bind, Option.bind_some, if_true, whole, charOf?_toNat]
  exact .opened rfl (.digit rfl (.digit rfl (.digit high (.last low))))

/-- A control character is spelled after a backslash. -/
theorem escapeControl_spells {c : Char} (small : c.toNat < 0x100) :
    ∃ spelled, escapeControl c = '\\' :: spelled ∧ Spells .escape spelled c := by
  unfold escapeControl
  by_cases back : c = '\x08'
  · exact ⟨_, if_pos back, back ▸ .short rfl⟩
  rw [if_neg back]
  by_cases tab : c = '\t'
  · exact ⟨_, if_pos tab, tab ▸ .short rfl⟩
  rw [if_neg tab]
  by_cases feed : c = '\x0c'
  · exact ⟨_, if_pos feed, feed ▸ .short rfl⟩
  rw [if_neg feed]
  by_cases back : c = '\r'
  · exact ⟨_, if_pos back, back ▸ .short rfl⟩
  rw [if_neg back]
  exact ⟨_, rfl, spells_hex small⟩

theorem isControl_small {c : Char} (control : c = '\t' ∨ isControl c = true) :
    c.toNat < 0x100 := by
  rcases control with rfl | control
  · decide
  · simp only [isControl, Bool.or_eq_true, Bool.and_eq_true, decide_eq_true_eq] at control
    omega

/-! ### Basic strings on one line -/

theorem basic?_of_spells {place : Place} {spelled : List Char} {c : Char}
    (spells : Spells place spelled c) (rest : List Char) :
    basic? place (spelled ++ rest) = Reading.push c (basic? .plain rest) := by
  induction spells with
  | short step =>
      rw [List.cons_append, List.nil_append, basic?, step]
      rfl
  | opened step later ih =>
      rw [List.cons_append, basic?, step]
      exact ih
  | digit step later ih =>
      rw [List.cons_append, basic?, step]
      exact ih
  | last step =>
      rw [List.cons_append, List.nil_append, basic?, step]
      rfl

theorem basic?_plain (c : Char) (rest : List Char) :
    basic? .plain (c :: rest) =
      if c = '"' then some ([], rest)
      else if c = '\\' then basic? .escape rest
      else if isControl c then none
      else Reading.push c (basic? .plain rest) :=
  rfl

theorem basic?_escape {spelled : List Char} {c : Char} (spells : Spells .escape spelled c)
    (rest : List Char) :
    basic? .plain ('\\' :: spelled ++ rest) = Reading.push c (basic? .plain rest) :=
  basic?_of_spells spells rest

theorem basic?_basicChar (c : Char) (rest : List Char) :
    basic? .plain (basicChar c ++ rest) = Reading.push c (basic? .plain rest) := by
  unfold basicChar
  by_cases quote : c = '"'
  · rw [if_pos quote, quote]
    exact basic?_escape (.short rfl) rest
  rw [if_neg quote]
  by_cases slash : c = '\\'
  · rw [if_pos slash, slash]
    exact basic?_escape (.short rfl) rest
  rw [if_neg slash]
  by_cases break' : c = '\n'
  · rw [if_pos break', break']
    exact basic?_escape (.short rfl) rest
  rw [if_neg break']
  by_cases control : c = '\t' ∨ isControl c = true
  · obtain ⟨spelled, same, spells⟩ := escapeControl_spells (isControl_small control)
    rw [if_pos control, same]
    exact basic?_escape spells rest
  · rw [if_neg control, List.cons_append, List.nil_append, basic?_plain, if_neg quote,
      if_neg slash, if_neg (fun isIt => control (Or.inr isIt))]

theorem Reading.push_some (c : Char) (chars rest : List Char) :
    Reading.push c (some (chars, rest)) = some (c :: chars, rest) :=
  rfl

theorem basic?_written (chars rest : List Char) :
    basic? .plain (chars.flatMap basicChar ++ '"' :: rest) = some (chars, rest) := by
  induction chars with
  | nil => rfl
  | cons c others ih =>
      rw [List.flatMap_cons, List.append_assoc, basic?_basicChar, ih, Reading.push_some]

/-! ### Literal strings on one line -/

theorem literal?_written {chars : List Char}
    (plain : ∀ c ∈ chars, c ≠ '\'' ∧ isControl c = false) (rest : List Char) :
    literal? (chars ++ '\'' :: rest) = some (chars, rest) := by
  induction chars with
  | nil => rfl
  | cons c others ih =>
      obtain ⟨different, printed⟩ := plain c List.mem_cons_self
      rw [List.cons_append, literal?, if_neg different, if_neg (by rw [printed]; decide),
        ih (fun other member => plain other (List.mem_cons_of_mem c member)), Reading.push_some]

/-! ### Quotes in strings of several lines -/

theorem startsWithTwo_of_head {quote : Char} {chars : List Char}
    (different : chars.head? ≠ some quote) : startsWithTwo quote chars = false := by
  match chars with
  | [] => rfl
  | [_] => rfl
  | first :: second :: _ =>
      have other : first ≠ quote := fun same => different (congrArg some same)
      rw [startsWithTwo, decide_eq_false other, Bool.false_and]

theorem startsWithTwo_quote {quote : Char} {rest : List Char}
    (stops : rest.head? ≠ some quote) : startsWithTwo quote (quote :: rest) = false := by
  cases rest with
  | nil => rfl
  | cons second others =>
      have other : second ≠ quote := fun same => stops (congrArg some same)
      rw [startsWithTwo, decide_eq_false other, Bool.and_false]

theorem closingQuotes_of_head {quote : Char} {rest : List Char}
    (stops : rest.head? ≠ some quote) : closingQuotes quote rest = ([], rest) := by
  match rest with
  | [] => rfl
  | [first] => exact if_neg (fun same => stops (congrArg some same))
  | first :: second :: others =>
      have other : first ≠ quote := fun same => stops (congrArg some same)
      rw [closingQuotes, if_neg (fun both => other both.1), if_neg other]

theorem closingQuotes_quote {quote : Char} {rest : List Char}
    (stops : rest.head? ≠ some quote) : closingQuotes quote (quote :: rest) = ([quote], rest) := by
  cases rest with
  | nil => exact if_pos rfl
  | cons second others =>
      have other : second ≠ quote := fun same => stops (congrArg some same)
      rw [closingQuotes, if_neg (fun both => other both.2), if_pos rfl]

theorem closingQuotes_two (quote : Char) (rest : List Char) :
    closingQuotes quote (quote :: quote :: rest) = ([quote, quote], rest) :=
  if_pos ⟨rfl, rfl⟩

/-- A reader of a string that three quotes close, and that reads fewer as they are. -/
def ReadsQuotes (quote : Char) (reader : List Char → Reading) : Prop :=
  ∀ rest, reader (quote :: rest) =
    if startsWithTwo quote rest then some (closingQuotes quote (rest.drop 2))
    else Reading.push quote (reader rest)

section

variable {quote : Char} {reader : List Char → Reading} {rest : List Char}

theorem ReadsQuotes.run (reads : ReadsQuotes quote reader) {count : Nat} (few : count ≤ 2)
    (stops : rest.head? ≠ some quote) {chars after : List Char}
    (found : reader rest = some (chars, after)) :
    reader (List.replicate count quote ++ rest) =
      some (List.replicate count quote ++ chars, after) := by
  have single : reader (quote :: rest) = some (quote :: chars, after) := by
    rw [reads, startsWithTwo_of_head stops, if_neg Bool.false_ne_true, found, Reading.push_some]
  match count, few with
  | 0, _ => exact found
  | 1, _ => exact single
  | 2, _ =>
      change reader (quote :: quote :: rest) = some (quote :: quote :: chars, after)
      rw [reads, startsWithTwo_quote stops, if_neg Bool.false_ne_true, single, Reading.push_some]

/-- Up to two quotes of the string itself stand before the three that close it. -/
theorem ReadsQuotes.close (reads : ReadsQuotes quote reader) {count : Nat} (few : count ≤ 2)
    (stops : rest.head? ≠ some quote) :
    reader (List.replicate count quote ++ quote :: quote :: quote :: rest) =
      some (List.replicate count quote, rest) := by
  have closing (others : List Char) : reader (quote :: quote :: quote :: others) =
      some (closingQuotes quote others) := by
    rw [reads, startsWithTwo, decide_eq_true rfl, Bool.true_and, if_pos rfl]
    rfl
  match count, few with
  | 0, _ => exact (closing rest).trans (congrArg some (closingQuotes_of_head stops))
  | 1, _ => exact (closing (quote :: rest)).trans (congrArg some (closingQuotes_quote stops))
  | 2, _ =>
      exact (closing (quote :: quote :: rest)).trans
        (congrArg some (closingQuotes_two quote rest))

end

theorem replicate_append_cons (count : Nat) (quote : Char) (rest : List Char) :
    List.replicate count quote ++ quote :: rest = List.replicate (count + 1) quote ++ rest := by
  rw [List.replicate_succ', List.append_assoc, List.singleton_append]

/-! ### Basic strings of several lines -/

theorem longBasic?_plain (c : Char) (rest : List Char) :
    longBasic? .plain (c :: rest) =
      if Place.plain = .trim ∧ (isLineBlank c ∨ breaksLine c rest) then longBasic? .trim rest
      else if c = '"' ∧ startsWithTwo '"' rest then some (closingQuotes '"' (rest.drop 2))
      else if c = '\\' then longBasic? .escape rest
      else if isControl c ∧ ¬ breaksLine c rest then none
      else Reading.push c (longBasic? .plain rest) :=
  rfl

theorem longBasic?_quotes : ReadsQuotes '"' (longBasic? .plain) := by
  intro rest
  rw [longBasic?_plain, if_neg (fun both => nomatch both.1)]
  cases two : startsWithTwo '"' rest with
  | true => rfl
  | false => rfl

theorem longBasic?_raw {c : Char} (quote : c ≠ '"') (slash : c ≠ '\\')
    (printed : c = '\n' ∨ isControl c = false) (rest : List Char) :
    longBasic? .plain (c :: rest) = Reading.push c (longBasic? .plain rest) := by
  have accepted : ¬ (isControl c = true ∧ ¬ breaksLine c rest = true) := by
    rintro ⟨control, inside⟩
    rcases printed with rfl | printed
    · exact inside rfl
    · rw [printed] at control
      cases control
  rw [longBasic?_plain, if_neg (fun both => nomatch both.1), if_neg (fun both => quote both.1),
    if_neg slash, if_neg accepted]

/-- Escapes are not taken for a line break that a backslash hides. -/
theorem longBasic?_mark {mark : Char} (known : escapeStep mark ≠ none) (rest : List Char) :
    longBasic? .escape (mark :: rest) = (escapeStep mark).bind (fun (char, place) =>
      match char with
      | some char => Reading.push char (longBasic? place rest)
      | none => longBasic? place rest) := by
  have nothing : [' ', '\t', '\n', '\r'].all (fun c => (escapeStep c).isNone) = true := by decide
  have marks : mark ∉ [' ', '\t', '\n', '\r'] := fun member =>
    known (Option.isNone_iff_eq_none.mp (List.all_eq_true.mp nothing mark member))
  simp only [List.mem_cons, List.not_mem_nil, or_false, not_or] at marks
  obtain ⟨space, tab, feed, back⟩ := marks
  have blank : ¬ isLineBlank mark = true := by
    simp only [isLineBlank, decide_eq_false space, decide_eq_false tab, Bool.or_self,
      Bool.false_eq_true, not_false_eq_true]
  have breaks : ¬ breaksLine mark rest = true := by
    simp only [breaksLine, decide_eq_false feed, decide_eq_false back, Bool.false_and,
      Bool.or_self, Bool.false_eq_true, not_false_eq_true]
  rw [longBasic?, if_neg blank, if_neg breaks]
  rfl

theorem longBasic?_of_spells {place : Place} {spelled : List Char} {c : Char}
    (spells : Spells place spelled c) (rest : List Char) :
    longBasic? place (spelled ++ rest) = Reading.push c (longBasic? .plain rest) := by
  induction spells with
  | short step =>
      rw [List.cons_append, List.nil_append, longBasic?_mark (by rw [step]; exact nofun), step]
      rfl
  | opened step later ih =>
      rw [List.cons_append, longBasic?_mark (by rw [step]; exact nofun), step]
      exact ih
  | digit step later ih =>
      rw [List.cons_append, longBasic?, step]
      exact ih
  | last step =>
      rw [List.cons_append, List.nil_append, longBasic?, step]
      rfl

theorem longBasic?_escape {spelled : List Char} {c : Char} (spells : Spells .escape spelled c)
    (rest : List Char) :
    longBasic? .plain ('\\' :: spelled ++ rest) = Reading.push c (longBasic? .plain rest) :=
  longBasic?_of_spells spells rest

/-- A character that is no quote is written apart from what follows, and read as such. -/
theorem longBasicChars_cons {c : Char} (quote : c ≠ '"') (quotes : Nat) (others : List Char) :
    ∃ first more, longBasicChars quotes (c :: others) =
        first :: more ++ longBasicChars 0 others ∧
      (first = '\\' ∨ first = c ∧ (c = '\n' ∨ isControl c = false)) ∧
      ∀ rest, longBasic? .plain (first :: more ++ rest) =
        Reading.push c (longBasic? .plain rest) := by
  rw [longBasicChars, if_neg quote]
  by_cases slash : c = '\\'
  · rw [if_pos slash, slash]
    exact ⟨'\\', ['\\'], rfl, Or.inl rfl, longBasic?_escape (.short rfl)⟩
  rw [if_neg slash]
  by_cases break' : c = '\n'
  · rw [if_pos break', break']
    exact ⟨'\n', [], rfl, Or.inr ⟨rfl, Or.inl rfl⟩,
      longBasic?_raw (by decide) (by decide) (Or.inl rfl)⟩
  rw [if_neg break']
  by_cases control : c = '\t' ∨ isControl c = true
  · obtain ⟨spelled, same, spells⟩ := escapeControl_spells (isControl_small control)
    rw [if_pos control, same]
    exact ⟨'\\', spelled, rfl, Or.inl rfl, longBasic?_escape spells⟩
  · have printed : isControl c = false := Bool.eq_false_iff.mpr (fun isIt => control (Or.inr isIt))
    rw [if_neg control]
    exact ⟨c, [], rfl, Or.inr ⟨rfl, Or.inr printed⟩, longBasic?_raw quote slash (Or.inr printed)⟩

/-- The induction carries the quotes that stand before, since three in a row are read at once. -/
theorem longBasic?_written {rest : List Char} (stops : rest.head? ≠ some '"')
    (chars : List Char) (quotes : Nat) (few : quotes ≤ 2) :
    longBasic? .plain (List.replicate quotes '"' ++
        (longBasicChars quotes chars ++ '"' :: '"' :: '"' :: rest)) =
      some (List.replicate quotes '"' ++ chars, rest) := by
  induction chars generalizing quotes with
  | nil =>
      rw [List.append_nil]
      exact longBasic?_quotes.close few stops
  | cons c others ih =>
      by_cases quote : c = '"'
      · rw [longBasicChars, if_pos quote, quote, replicate_append_cons]
        by_cases full : quotes = 2
        · have escaped : longBasic? .plain
              ('\\' :: '"' :: (longBasicChars 0 others ++ '"' :: '"' :: '"' :: rest)) =
                some ('"' :: others, rest) := by
            have later := ih 0 (Nat.zero_le 2)
            rw [List.replicate_zero, List.nil_append, List.nil_append] at later
            rw [← Reading.push_some, ← later]
            exact longBasic?_escape (.short rfl) _
          rw [if_pos full, ← replicate_append_cons]
          exact longBasic?_quotes.run few (by simp) escaped
        · rw [if_neg full, List.cons_append, replicate_append_cons]
          exact ih (quotes + 1) (by omega)
      · obtain ⟨first, more, same, heads, reads⟩ := longBasicChars_cons quote quotes others
        have different : first ≠ '"' := by
          rcases heads with rfl | ⟨rfl, _⟩
          · decide
          · exact quote
        have later := ih 0 (Nat.zero_le 2)
        rw [List.replicate_zero, List.nil_append, List.nil_append] at later
        have found := reads (longBasicChars 0 others ++ '"' :: '"' :: '"' :: rest)
        rw [later, Reading.push_some] at found
        have stopped : (first :: more ++
            (longBasicChars 0 others ++ '"' :: '"' :: '"' :: rest)).head? ≠ some '"' :=
          fun equal => different (Option.some.inj equal)
        rw [same, List.append_assoc]
        exact longBasic?_quotes.run few stopped found

/-! ### Literal strings of several lines -/

theorem longLiteral?_cons (c : Char) (rest : List Char) :
    longLiteral? (c :: rest) =
      if c = '\'' ∧ startsWithTwo '\'' rest then some (closingQuotes '\'' (rest.drop 2))
      else if isControl c ∧ ¬ breaksLine c rest then none
      else Reading.push c (longLiteral? rest) :=
  rfl

theorem longLiteral?_quotes : ReadsQuotes '\'' longLiteral? := by
  intro rest
  rw [longLiteral?_cons]
  cases two : startsWithTwo '\'' rest with
  | true => rfl
  | false => rfl

theorem longLiteral?_raw {c : Char} (quote : c ≠ '\'')
    (printed : isControl c = true → c = '\n') (rest : List Char) :
    longLiteral? (c :: rest) = Reading.push c (longLiteral? rest) := by
  have accepted : ¬ (isControl c = true ∧ ¬ breaksLine c rest = true) := by
    rintro ⟨control, inside⟩
    rw [printed control] at inside
    exact inside rfl
  rw [longLiteral?_cons, if_neg (fun both => quote both.1), if_neg accepted]

theorem longLiteral?_written {rest : List Char} (stops : rest.head? ≠ some '\'')
    {chars : List Char} (printed : ∀ c ∈ chars, isControl c = true → c = '\n') (quotes : Nat)
    (few : longestRun '\'' quotes chars ≤ 2) :
    longLiteral? (List.replicate quotes '\'' ++ (chars ++ '\'' :: '\'' :: '\'' :: rest)) =
      some (List.replicate quotes '\'' ++ chars, rest) := by
  induction chars generalizing quotes with
  | nil =>
      rw [List.append_nil]
      exact longLiteral?_quotes.close few stops
  | cons c others ih =>
      have later := ih (fun other member => printed other (List.mem_cons_of_mem c member))
      rw [longestRun] at few
      by_cases quote : c = '\''
      · rw [if_pos quote] at few
        rw [quote, List.cons_append, replicate_append_cons, replicate_append_cons]
        exact later (quotes + 1) few
      · rw [if_neg quote] at few
        have found := longLiteral?_raw quote (printed c List.mem_cons_self)
          (others ++ '\'' :: '\'' :: '\'' :: rest)
        have shorter := later 0 (by omega)
        rw [List.replicate_zero, List.nil_append, List.nil_append] at shorter
        rw [shorter, Reading.push_some] at found
        have stopped : (c :: (others ++ '\'' :: '\'' :: '\'' :: rest)).head? ≠ some '\'' :=
          fun equal => quote (Option.some.inj equal)
        exact longLiteral?_quotes.run (by omega) stopped found

/-! ### Styles -/

theorem le_longestRun (quote : Char) (run : Nat) (chars : List Char) :
    run ≤ longestRun quote run chars := by
  induction chars generalizing run with
  | nil => exact Nat.le_refl run
  | cons c others ih =>
      rw [longestRun]
      split
      · exact Nat.le_of_succ_le (ih (run + 1))
      · exact Nat.le_max_left _ _

theorem longestRun_pos {quote : Char} {chars : List Char} (member : quote ∈ chars) (run : Nat) :
    0 < longestRun quote run chars := by
  induction chars generalizing run with
  | nil => cases member
  | cons c others ih =>
      rw [longestRun]
      by_cases same : c = quote
      · rw [if_pos same]
        exact Nat.lt_of_lt_of_le (Nat.succ_pos run) (le_longestRun quote (run + 1) others)
      · rw [if_neg same]
        have later := ih ((List.mem_cons.mp member).resolve_left (Ne.symm same)) 0
        omega

theorem printed_of_controls {chars : List Char}
    (controls : chars.any (fun c => isControl c && c ≠ '\n') = false) :
    ∀ c ∈ chars, isControl c = true → c = '\n' := by
  intro c member control
  refine Decidable.byContradiction (fun other => ?_)
  refine Bool.eq_false_iff.mp controls (List.any_eq_true.mpr ⟨c, member, ?_⟩)
  rw [control, Bool.true_and]
  exact decide_eq_true other

/-- Only strings without controls are written as they are. -/
theorem styleOf_cases (chars : List Char) :
    styleOf chars = .basic ∨ styleOf chars = .longBasic ∨
      (styleOf chars = .literal ∧ ∀ c ∈ chars, c ≠ '\'' ∧ isControl c = false) ∨
      (styleOf chars = .longLiteral ∧ longestRun '\'' 0 chars ≤ 2 ∧
        ∀ c ∈ chars, isControl c = true → c = '\n') := by
  unfold styleOf
  dsimp only
  cases controls : chars.any (fun c => isControl c && c ≠ '\n') with
  | true =>
      simp only [Bool.not_true, Bool.false_and, Bool.false_eq_true, if_false]
      split
      · exact Or.inr (Or.inl rfl)
      · exact Or.inl rfl
  | false =>
      have printed := printed_of_controls controls
      split
      · exact Or.inl rfl
      split
      · rename_i plain
        simp only [Bool.not_false, Bool.true_and, Bool.and_eq_true, decide_eq_true_eq,
          Bool.not_eq_true', List.contains_eq_mem, decide_eq_false_iff_not] at plain
        refine Or.inr (Or.inr (Or.inl ⟨rfl, ?_⟩))
        intro c member
        have different : c ≠ '\'' := by
          rintro rfl
          exact absurd plain.1 (Nat.ne_of_gt (longestRun_pos member 0))
        refine ⟨different, Bool.eq_false_iff.mpr (fun control => plain.2 ?_)⟩
        rw [← printed c member control]
        exact member
      split
      · exact Or.inr (Or.inl rfl)
      split
      · rename_i few
        simp only [Bool.not_false, Bool.true_and, decide_eq_true_eq] at few
        exact Or.inr (Or.inr (Or.inr ⟨rfl, Nat.le_of_lt_succ few, printed⟩))
      split
      · exact Or.inr (Or.inl rfl)
      · exact Or.inl rfl

/-! ### Strings of any style -/

theorem string?_double {chars : List Char} (single : startsWithTwo '"' chars = false) :
    string? ('"' :: chars) = basic? .plain chars := by
  unfold string?
  split
  · rename_i same
    obtain ⟨_, rfl⟩ := List.cons.inj same
    cases single
  · rename_i same
    obtain ⟨_, rfl⟩ := List.cons.inj same
    rfl
  · rename_i same
    cases (List.cons.inj same).1
  · rename_i same
    cases (List.cons.inj same).1
  · rename_i other _ _
    exact absurd rfl (other chars)

theorem string?_single {chars : List Char} (single : startsWithTwo '\'' chars = false) :
    string? ('\'' :: chars) = literal? chars := by
  unfold string?
  split
  · rename_i same
    cases (List.cons.inj same).1
  · rename_i same
    cases (List.cons.inj same).1
  · rename_i same
    obtain ⟨_, rfl⟩ := List.cons.inj same
    cases single
  · rename_i same
    obtain ⟨_, rfl⟩ := List.cons.inj same
    rfl
  · rename_i other
    exact absurd rfl (other chars)

/-- The line break before a string of several lines is not part of it; without one, the string does
not begin with a line break of its own. -/
theorem dropFirstBreak_written {chars body : List Char}
    (heads : ∀ first, body.head? = some first → isControl first = true →
      first = '\n' ∧ first ∈ chars) :
    dropFirstBreak (firstBreak chars ++ body) = body := by
  unfold firstBreak
  by_cases lines : chars.contains '\n' = true
  · rw [if_pos lines]
    rfl
  · rw [if_neg lines, List.nil_append]
    unfold dropFirstBreak
    split
    · exact absurd (List.contains_iff_mem.mpr (heads '\n' rfl rfl).2) lines
    · exact absurd (heads '\r' rfl rfl).1 (by decide)
    · rfl

/-- Nothing that a reader takes for the end of a string follows. -/
def Unquoted (rest : List Char) : Prop :=
  rest.head? ≠ some '"' ∧ rest.head? ≠ some '\''

theorem string?_basic {rest : List Char} (after : Unquoted rest) (chars : List Char) :
    string? ('"' :: (chars.flatMap basicChar ++ '"' :: rest)) = some (chars, rest) := by
  rw [string?_double, basic?_written]
  cases chars with
  | nil => exact startsWithTwo_quote after.1
  | cons c others =>
      refine startsWithTwo_of_head ?_
      rw [List.flatMap_cons, List.append_assoc]
      unfold basicChar
      split
      · exact nofun
      split
      · exact nofun
      split
      · exact nofun
      split
      · rename_i control
        obtain ⟨spelled, same, _⟩ := escapeControl_spells (isControl_small control)
        rw [same]
        exact nofun
      · rename_i quote _ _ _
        exact fun same => quote (Option.some.inj same)

theorem string?_literal {rest : List Char} (after : Unquoted rest) {chars : List Char}
    (plain : ∀ c ∈ chars, c ≠ '\'' ∧ isControl c = false) :
    string? ('\'' :: (chars ++ '\'' :: rest)) = some (chars, rest) := by
  rw [string?_single, literal?_written plain]
  cases chars with
  | nil => exact startsWithTwo_quote after.2
  | cons c others =>
      exact startsWithTwo_of_head
        (fun same => (plain c List.mem_cons_self).1 (Option.some.inj same))

theorem longBasicChars_head {chars rest : List Char} {first : Char}
    (same : (longBasicChars 0 chars ++ '"' :: rest).head? = some first)
    (control : isControl first = true) : first = '\n' ∧ first ∈ chars := by
  cases chars with
  | nil =>
      rw [← Option.some.inj same] at control
      cases control
  | cons c others =>
      by_cases quote : c = '"'
      · rw [quote, longBasicChars, if_pos rfl, if_neg (by decide)] at same
        rw [← Option.some.inj same] at control
        cases control
      · obtain ⟨head, more, written, heads, _⟩ := longBasicChars_cons quote 0 others
        rw [written] at same
        obtain rfl := Option.some.inj same
        rcases heads with rfl | ⟨rfl, feed | printed⟩
        · cases control
        · exact ⟨feed, List.mem_cons_self⟩
        · rw [printed] at control
          cases control

theorem string?_longBasic {rest : List Char} (after : Unquoted rest) (chars : List Char) :
    string? ('"' :: '"' :: '"' :: (firstBreak chars ++
      (longBasicChars 0 chars ++ '"' :: '"' :: '"' :: rest))) = some (chars, rest) := by
  have reads := longBasic?_written after.1 chars 0 (Nat.zero_le 2)
  rw [List.replicate_zero, List.nil_append, List.nil_append] at reads
  rw [string?, dropFirstBreak_written (fun _ => longBasicChars_head), reads]

theorem string?_longLiteral {rest : List Char} (after : Unquoted rest) {chars : List Char}
    (few : longestRun '\'' 0 chars ≤ 2) (printed : ∀ c ∈ chars, isControl c = true → c = '\n') :
    string? ('\'' :: '\'' :: '\'' :: (firstBreak chars ++
      (chars ++ '\'' :: '\'' :: '\'' :: rest))) = some (chars, rest) := by
  have reads := longLiteral?_written after.2 printed 0 few
  rw [List.replicate_zero, List.nil_append, List.nil_append] at reads
  rw [string?, dropFirstBreak_written, reads]
  intro first same control
  cases chars with
  | nil =>
      rw [← Option.some.inj same] at control
      cases control
  | cons c others =>
      obtain rfl := Option.some.inj same
      exact ⟨printed c List.mem_cons_self control, List.mem_cons_self⟩

theorem string?_written {rest : List Char} (after : Unquoted rest) (chars : List Char) :
    string? (writeChars chars ++ rest) = some (chars, rest) := by
  unfold writeChars
  rcases styleOf_cases chars with style | style | ⟨style, plain⟩ | ⟨style, few, printed⟩
  · rw [style]
    simp only [List.cons_append, List.append_assoc, List.nil_append]
    exact string?_basic after chars
  · rw [style]
    simp only [List.cons_append, List.append_assoc, List.nil_append]
    exact string?_longBasic after chars
  · rw [style]
    simp only [List.cons_append, List.append_assoc, List.nil_append]
    exact string?_literal after plain
  · rw [style]
    simp only [List.cons_append, List.append_assoc, List.nil_append]
    exact string?_longLiteral after few printed

end SignedRest.Toml
