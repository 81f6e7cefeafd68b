/-
Signing times as they are written. A text tells the second, and no two seconds have the same text;
within four-digit years its fields stand at fixed places, so texts come in the order of the times.
-/

import SignedRest.Proofs.Text.Utf8
import SignedRest.Proofs.Time.Calendar
import SignedRest.Proofs.Time.Timestamp

namespace SignedRest

namespace Time

/-! ### Padded numbers -/

theorem padded_one (value : Nat) : padded 1 value = Nat.toDigits 10 value := by
  have filled := Nat.length_toDigits_pos (b := 10) (n := value)
  have none : 1 - (Nat.toDigits 10 value).length = 0 := by omega
  rw [padded, none]
  rfl

/-- The last digit of a padded number stands apart. -/
theorem padded_succ {width : Nat} (positive : 0 < width) (value : Nat) :
    padded (width + 1) value = padded width (value / 10) ++ [(value % 10).digitChar] := by
  unfold padded
  by_cases small : value < 10
  · obtain ⟨before, rfl⟩ := Nat.exists_eq_succ_of_ne_zero positive.ne'
    rw [Nat.toDigits_of_lt_base small, Nat.div_eq_of_lt small, Nat.toDigits_zero,
      Nat.mod_eq_of_lt small]
    simp [List.replicate_succ']
  · rw [Nat.toDigits_of_base_le (by decide) (Nat.not_lt.mp small)]
    simp

theorem length_padded {width value : Nat} (positive : 0 < width) (small : value < 10 ^ width) :
    (padded width value).length = width := by
  have digits := (Nat.length_toDigits_le_iff (by decide) positive).mpr small
  rw [padded, List.length_append, List.length_replicate]
  omega

/-- Zeros in front do not change the number. -/
theorem ofChars?_padded {width : Nat} (positive : 0 < width) (value : Nat) :
    Number.ofChars? 10 (padded width value) = some value := by
  induction width, positive using Nat.le_induction generalizing value with
  | base => rw [padded_one, Number.ofChars?_toDigits]
  | succ width positive ih =>
      rw [padded_succ positive, Number.ofChars?_concat (ih (value / 10)) (Nat.mod_lt value (by decide)),
        Nat.div_add_mod']

theorem padded_injective {width left right : Nat} (positive : 0 < width)
    (same : padded width left = padded width right) : left = right := by
  have read := ofChars?_padded positive left
  rw [same, ofChars?_padded positive] at read
  exact (Option.some.inj read).symm

/-! ### The order of texts -/

theorem append_lt_append_iff {front other : List Char} (same : front.length = other.length)
    (rest later : List Char) :
    front ++ rest < other ++ later ↔ front < other ∨ front = other ∧ rest < later := by
  induction front generalizing other with
  | nil =>
      rw [List.length_eq_zero_iff.mp same.symm]
      simp
  | cons c front ih =>
      cases other with
      | nil => cases same
      | cons d other =>
          rw [List.cons_append, List.cons_append, List.cons_lt_cons_iff, List.cons_lt_cons_iff,
            ih (Nat.succ.inj same), List.cons.injEq]
          tauto

theorem mark_cons_lt_iff (mark : Char) (rest later : List Char) :
    mark :: rest < mark :: later ↔ rest < later := by
  simp

theorem digitChar_lt_iff {left right : Nat} (leftSmall : left < 10) (rightSmall : right < 10) :
    left.digitChar < right.digitChar ↔ left < right := by
  have table : ∀ left < 10, ∀ right < 10, left.digitChar < right.digitChar ↔ left < right := by
    decide
  exact table left leftSmall right rightSmall

/-- Numbers that are padded to one width come in the order of their digits. -/
theorem padded_lt_iff {width left right : Nat} (positive : 0 < width) (leftSmall : left < 10 ^ width)
    (rightSmall : right < 10 ^ width) : padded width left < padded width right ↔ left < right := by
  induction width, positive using Nat.le_induction generalizing left right with
  | base =>
      have leftDigit : left < 10 := leftSmall
      have rightDigit : right < 10 := rightSmall
      rw [padded_one, padded_one, Nat.toDigits_of_lt_base leftDigit,
        Nat.toDigits_of_lt_base rightDigit, List.cons_lt_cons_iff,
        digitChar_lt_iff leftDigit rightDigit]
      simp
  | succ width positive ih =>
      have leftFront : left / 10 < 10 ^ width := by
        rw [pow_succ] at leftSmall
        omega
      have rightFront : right / 10 < 10 ^ width := by
        rw [pow_succ] at rightSmall
        omega
      have last : [(left % 10).digitChar] < [(right % 10).digitChar] ↔ left % 10 < right % 10 := by
        rw [List.cons_lt_cons_iff,
          digitChar_lt_iff (Nat.mod_lt _ (by decide)) (Nat.mod_lt _ (by decide))]
        simp
      have fronts : padded width (left / 10) = padded width (right / 10) ↔
          left / 10 = right / 10 :=
        ⟨padded_injective positive, congrArg (padded width)⟩
      rw [padded_succ positive, padded_succ positive, append_lt_append_iff, ih leftFront rightFront,
        fronts, last]
      · omega
      · rw [length_padded positive leftFront, length_padded positive rightFront]

theorem padded_append_lt_iff {width left right : Nat} (positive : 0 < width)
    (leftSmall : left < 10 ^ width) (rightSmall : right < 10 ^ width) (rest later : List Char) :
    padded width left ++ rest < padded width right ++ later ↔
      left < right ∨ left = right ∧ rest < later := by
  have fronts : padded width left = padded width right ↔ left = right :=
    ⟨padded_injective positive, congrArg (padded width)⟩
  rw [append_lt_append_iff, padded_lt_iff positive leftSmall rightSmall, fronts]
  rw [length_padded positive leftSmall, length_padded positive rightSmall]

theorem padded_append_inj_iff {width left right : Nat} (positive : 0 < width)
    (leftSmall : left < 10 ^ width) (rightSmall : right < 10 ^ width) (rest later : List Char) :
    padded width left ++ rest = padded width right ++ later ↔ left = right ∧ rest = later := by
  constructor
  · intro same
    obtain ⟨fronts, backs⟩ := List.append_inj same
      ((length_padded positive leftSmall).trans (length_padded positive rightSmall).symm)
    exact ⟨padded_injective positive fronts, backs⟩
  · rintro ⟨rfl, rfl⟩
    rfl

theorem yearText_injective {left right : Int} (same : yearText left = yearText right) :
    left = right := by
  have unsigned : ∀ width value : Nat, ∀ rest : List Char, padded width value ≠ '-' :: rest := by
    intro width value rest signed
    have digit := mem_padded (signed ▸ List.mem_cons_self : '-' ∈ padded width value)
    exact absurd digit.1 (by decide)
  unfold yearText at same
  split_ifs at same with leftNegative rightNegative rightNegative
  · have magnitudes := padded_injective (by decide) (List.cons.inj same).2
    omega
  · exact absurd same.symm (unsigned _ _ _)
  · exact absurd same (unsigned _ _ _)
  · have magnitudes := padded_injective (by decide) same
    omega

namespace Civil

variable {left right : Civil} {leftInstant rightInstant : Int}

/-- What follows the year. -/
def laterChars (civil : Civil) : List Char :=
  '-' :: (padded 2 civil.date.month ++ '-' :: (padded 2 civil.date.day ++
    'T' :: (padded 2 civil.hour ++ ':' :: (padded 2 civil.minute ++
      ':' :: (padded 2 civil.second ++ ['Z'])))))

theorem toList_signingText (civil : Civil) :
    civil.signingText.toList = yearText civil.date.year ++ civil.laterChars := by
  simp [signingText, timeText, laterChars]

/-- Every field behind the year has two digits. -/
structure TwoDigits (civil : Civil) : Prop where
  month : civil.date.month < 10 ^ 2
  day : civil.date.day < 10 ^ 2
  hour : civil.hour < 10 ^ 2
  minute : civil.minute < 10 ^ 2
  second : civil.second < 10 ^ 2

theorem IsAt.twoDigits (leftAt : left.IsAt leftInstant) : left.TwoDigits := by
  obtain ⟨hour, minute, second, day, counted, -⟩ := leftAt
  obtain ⟨valid, -⟩ := Date.isDay_iff.mp counted
  obtain ⟨⟨-, month⟩, -, inMonth⟩ := (Date.isValid_iff left.date).mp valid
  have most := Date.daysInMonth_le left.date.year left.date.month
  constructor <;> omega

theorem length_laterChars (digits : left.TwoDigits) : left.laterChars.length = 16 := by
  have two {value : Nat} (small : value < 10 ^ 2) : (padded 2 value).length = 2 :=
    length_padded Nat.two_pos small
  simp [laterChars, two digits.month, two digits.day, two digits.hour, two digits.minute,
    two digits.second]

theorem eq_of_laterChars (leftDigits : left.TwoDigits) (rightDigits : right.TwoDigits)
    (years : left.date.year = right.date.year) (same : left.laterChars = right.laterChars) :
    left = right := by
  obtain ⟨⟨leftYear, leftMonth, leftDay⟩, leftHour, leftMinute, leftSecond⟩ := left
  obtain ⟨⟨rightYear, rightMonth, rightDay⟩, rightHour, rightMinute, rightSecond⟩ := right
  simp only [laterChars, List.cons.injEq, true_and,
    padded_append_inj_iff Nat.two_pos leftDigits.month rightDigits.month,
    padded_append_inj_iff Nat.two_pos leftDigits.day rightDigits.day,
    padded_append_inj_iff Nat.two_pos leftDigits.hour rightDigits.hour,
    padded_append_inj_iff Nat.two_pos leftDigits.minute rightDigits.minute,
    padded_append_inj_iff Nat.two_pos leftDigits.second rightDigits.second] at same
  simp_all

theorem laterChars_lt_iff (leftDigits : left.TwoDigits) (rightDigits : right.TwoDigits)
    (years : left.date.year = right.date.year) :
    left.laterChars < right.laterChars ↔ left.Before right := by
  obtain ⟨⟨leftYear, leftMonth, leftDay⟩, leftHour, leftMinute, leftSecond⟩ := left
  obtain ⟨⟨rightYear, rightMonth, rightDay⟩, rightHour, rightMinute, rightSecond⟩ := right
  have last : ¬ ['Z'] < ['Z'] := List.lt_irrefl _
  rw [laterChars, laterChars, mark_cons_lt_iff,
    padded_append_lt_iff Nat.two_pos leftDigits.month rightDigits.month, mark_cons_lt_iff,
    padded_append_lt_iff Nat.two_pos leftDigits.day rightDigits.day, mark_cons_lt_iff,
    padded_append_lt_iff Nat.two_pos leftDigits.hour rightDigits.hour, mark_cons_lt_iff,
    padded_append_lt_iff Nat.two_pos leftDigits.minute rightDigits.minute, mark_cons_lt_iff,
    padded_append_lt_iff Nat.two_pos leftDigits.second rightDigits.second]
  dsimp only at years
  simp only [Before, Date.Before, Date.mk.injEq, last, and_false, or_false]
  omega

/-- The fields stand in the text, so it tells them all. -/
theorem eq_of_signingText (leftDigits : left.TwoDigits) (rightDigits : right.TwoDigits)
    (same : left.signingText = right.signingText) : left = right := by
  have texts := congrArg String.toList same
  rw [toList_signingText, toList_signingText] at texts
  obtain ⟨years, fields⟩ := List.append_inj' texts
    ((length_laterChars leftDigits).trans (length_laterChars rightDigits).symm)
  exact eq_of_laterChars leftDigits rightDigits (yearText_injective years) fields

/-- Four digits without a sign. -/
def IsFourDigitYear (year : Int) : Prop :=
  0 ≤ year ∧ year < 10000

theorem yearText_of_fourDigits {year : Int} (four : IsFourDigitYear year) :
    yearText year = padded 4 year.toNat ∧ year.toNat < 10 ^ 4 := by
  obtain ⟨low, high⟩ := four
  exact ⟨if_neg (not_lt.mpr low), by omega⟩

theorem toList_lt_iff (leftDigits : left.TwoDigits) (rightDigits : right.TwoDigits)
    (leftYear : IsFourDigitYear left.date.year) (rightYear : IsFourDigitYear right.date.year) :
    left.signingText.toList < right.signingText.toList ↔ left.Before right := by
  obtain ⟨leftWritten, leftSmall⟩ := yearText_of_fourDigits leftYear
  obtain ⟨rightWritten, rightSmall⟩ := yearText_of_fourDigits rightYear
  rw [toList_signingText, toList_signingText, leftWritten, rightWritten,
    padded_append_lt_iff (by decide) leftSmall rightSmall]
  obtain ⟨leftLow, -⟩ := leftYear
  obtain ⟨rightLow, -⟩ := rightYear
  by_cases years : left.date.year = right.date.year
  · rw [years, laterChars_lt_iff leftDigits rightDigits years]
    simp
  · simp only [Before, Date.Before]
    have dates : left.date ≠ right.date := fun same => years (congrArg Date.year same)
    simp only [dates, years, false_and, or_false]
    omega

theorem length_signingText (digits : left.TwoDigits) (year : IsFourDigitYear left.date.year) :
    left.signingText.length = 20 := by
  obtain ⟨written, small⟩ := yearText_of_fourDigits year
  rw [← String.length_toList, toList_signingText, written, List.length_append,
    length_padded (by decide) small, length_laterChars digits]

end Civil

/-! ### Reading -/

/-- So many decimal digits at the front, and what follows them. -/
def takeNumber? (width : Nat) (chars : List Char) : Option (Nat × List Char) :=
  if chars.length < width then none
  else (Number.ofChars? 10 (chars.take width)).map (fun value => (value, chars.drop width))

def afterMark? (mark : Char) : List Char → Option (List Char)
  | [] => none
  | c :: rest => if c = mark then some rest else none

/-- Reads a time such as `2024-01-02T03:04:05Z`, in which every field has its place. -/
def Civil.ofSigningText? (text : String) : Option Civil := do
  let (year, rest) ← takeNumber? 4 text.toList
  let (month, rest) ← takeNumber? 2 (← afterMark? '-' rest)
  let (day, rest) ← takeNumber? 2 (← afterMark? '-' rest)
  let (hour, rest) ← takeNumber? 2 (← afterMark? 'T' rest)
  let (minute, rest) ← takeNumber? 2 (← afterMark? ':' rest)
  let (second, rest) ← takeNumber? 2 (← afterMark? ':' rest)
  if rest = ['Z'] then some ⟨⟨year, month, day⟩, hour, minute, second⟩ else none

theorem takeNumber?_padded {width value : Nat} (positive : 0 < width) (small : value < 10 ^ width)
    (rest : List Char) : takeNumber? width (padded width value ++ rest) = some (value, rest) := by
  have length := length_padded positive small
  have enough : ¬ (padded width value ++ rest).length < width := by
    rw [List.length_append, length]
    omega
  rw [takeNumber?, if_neg enough, List.take_left' length, List.drop_left' length,
    ofChars?_padded positive]
  rfl

theorem afterMark?_cons (mark : Char) (rest : List Char) :
    afterMark? mark (mark :: rest) = some rest :=
  if_pos rfl

theorem Civil.ofSigningText?_signingText {civil : Civil} (digits : civil.TwoDigits)
    (year : IsFourDigitYear civil.date.year) : ofSigningText? civil.signingText = some civil := by
  obtain ⟨written, small⟩ := yearText_of_fourDigits year
  have yearBack : (civil.date.year.toNat : Int) = civil.date.year := Int.toNat_of_nonneg year.1
  simp only [ofSigningText?, toList_signingText, written, laterChars, Option.bind_eq_bind,
    takeNumber?_padded (by decide : 0 < 4) small, Option.bind_some, afterMark?_cons,
    takeNumber?_padded Nat.two_pos digits.month, takeNumber?_padded Nat.two_pos digits.day,
    takeNumber?_padded Nat.two_pos digits.hour, takeNumber?_padded Nat.two_pos digits.minute,
    takeNumber?_padded Nat.two_pos digits.second, if_pos, yearBack]

end Time

namespace Timestamp

open Time (Civil)
open Time.Civil (IsFourDigitYear)

/-- The seconds and the part of a second that may have another sign are rounded down together. -/
theorem second_ofParts {seconds nanoseconds : Int} {timestamp : Timestamp}
    (made : ofParts? seconds nanoseconds = some timestamp) :
    timestamp.second = if nanoseconds < 0 then seconds - 1 else seconds := by
  unfold ofParts? ofNanoseconds? at made
  split_ifs at made with range inside
  cases made
  simp only [second]
  split_ifs <;> omega

theorem second_floor (timestamp : Timestamp) :
    timestamp.second * 1000000000 ≤ timestamp.nanoseconds ∧
      timestamp.nanoseconds < (timestamp.second + 1) * 1000000000 := by
  simp only [second]
  omega

theorem isAt_civil (timestamp : Timestamp) : timestamp.civil.IsAt timestamp.second :=
  Civil.isAt_ofSeconds timestamp.second

/-- No timestamp is later than the last day of year 9999. -/
theorem isFourDigitYear_of_nonneg {timestamp : Timestamp} (year : 0 ≤ timestamp.civil.date.year) :
    IsFourDigitYear timestamp.civil.date.year := by
  refine ⟨year, ?_⟩
  by_contra late
  have upper := timestamp.upper
  have ended : Civil.Before ⟨⟨9999, 12, 31⟩, 0, 0, 0⟩ timestamp.civil := by
    refine Or.inl (Or.inl ?_)
    dsimp only
    omega
  have last : Civil.IsAt ⟨⟨9999, 12, 31⟩, 0, 0, 0⟩ 253402214400 :=
    ⟨by decide, by decide, by decide, 2932896, Time.Date.isDay_iff.mpr (by decide), rfl⟩
  have later := last.lt_of_before timestamp.isAt_civil ended
  simp only [second, greatestSecond] at later upper
  omega

theorem signingText_eq_iff (left right : Timestamp) :
    left.signingText = right.signingText ↔ left.second = right.second := by
  constructor
  · intro same
    have civils := Civil.eq_of_signingText left.isAt_civil.twoDigits right.isAt_civil.twoDigits same
    have leftAt := left.isAt_civil
    rw [civils] at leftAt
    exact leftAt.unique right.isAt_civil
  · intro same
    rw [signingText, civil, same]
    rfl

theorem encodeText_lt_iff {left right : Timestamp} (leftYear : 0 ≤ left.civil.date.year)
    (rightYear : 0 ≤ right.civil.date.year) :
    Utf8.encodeText left.signingText < Utf8.encodeText right.signingText ↔
      left.second < right.second := by
  have ascii : ∀ timestamp : Timestamp, ∀ c ∈ timestamp.signingText.toList, c.toNat < 0x80 := by
    intro timestamp c member
    have printable := (mem_signingText member).printable
    omega
  rw [Utf8.encodeText, Utf8.encodeText, Utf8.encode_lt_encode_iff (ascii left) (ascii right)]
  exact (Civil.toList_lt_iff left.isAt_civil.twoDigits right.isAt_civil.twoDigits
    (isFourDigitYear_of_nonneg leftYear) (isFourDigitYear_of_nonneg rightYear)).trans
      (left.isAt_civil.before_iff right.isAt_civil)

/-- Two times have one text exactly if they lie in the same second. From year 0 on the text has
twenty characters, is read back as the time of that second, and comes before another one, byte by
byte, exactly if its second does. -/
theorem signingText_tells_second (left right : Timestamp) :
    (∀ seconds nanoseconds, ofParts? seconds nanoseconds = some left →
      left.second = if nanoseconds < 0 then seconds - 1 else seconds) ∧
    (left.second * 1000000000 ≤ left.nanoseconds ∧
      left.nanoseconds < (left.second + 1) * 1000000000) ∧
    (left.signingText = right.signingText ↔ left.second = right.second) ∧
    (0 ≤ left.civil.date.year →
      left.signingText.length = 20 ∧
        ∃ read, Civil.ofSigningText? left.signingText = some read ∧ read.IsAt left.second) ∧
    (0 ≤ left.civil.date.year → 0 ≤ right.civil.date.year →
      (Utf8.encodeText left.signingText < Utf8.encodeText right.signingText ↔
        left.second < right.second)) := by
  have digits := left.isAt_civil.twoDigits
  refine ⟨fun _ _ => second_ofParts, left.second_floor, signingText_eq_iff left right, ?_,
    encodeText_lt_iff⟩
  intro year
  have four := isFourDigitYear_of_nonneg year
  exact ⟨Civil.length_signingText digits four, left.civil,
    Civil.ofSigningText?_signingText digits four, left.isAt_civil⟩

/-- Half a second before the year 2000, and the leap day of that year. -/
theorem signingText_tells_second_leap :
    let left : Timestamp := ⟨946684799500000000, by decide, by decide⟩
    let right : Timestamp := ⟨951782400000000000, by decide, by decide⟩
    ofParts? 946684800 (-500000000) = some left ∧ left.second = 946684799 ∧
      0 ≤ left.civil.date.year ∧ 0 ≤ right.civil.date.year ∧
      left.signingText.length = 20 ∧
      Utf8.encodeText left.signingText < Utf8.encodeText right.signingText := by
  intro left right
  have made : ofParts? 946684800 (-500000000) = some left := by decide
  have leftYear : 0 ≤ left.civil.date.year := by decide
  have rightYear : 0 ≤ right.civil.date.year := by decide
  have earlier : left.second < right.second := by decide
  obtain ⟨floored, -, -, readable, ordered⟩ := signingText_tells_second left right
  exact ⟨made, floored _ _ made, leftYear, rightYear, (readable leftYear).1,
    (ordered leftYear rightYear).mpr earlier⟩

end Timestamp

end SignedRest
