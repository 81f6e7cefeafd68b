/-
What reading a domain name leaves alone. A dot divides a name into names that are read apart, and a
name of small letters and digits is read as itself.
-/

import SignedRest.Domain
import SignedRest.Proofs.Result
import SignedRest.Proofs.Text.LetterCase
import SignedRest.Proofs.Text.Separated

namespace SignedRest

/-! ### Composed ASCII text -/

namespace Unicode

variable {c : Char}

theorem combiningClass_ascii (ascii : c.toNat < 0x80) : combiningClass c = 0 :=
  if_pos (Nat.lt_trans ascii (by decide))

theorem takenApart_ascii (ascii : c.toNat < 0x80) : takenApart c = [c] := by
  have noSyllable : syllable? c = none :=
    if_neg (fun both => absurd (Nat.lt_of_le_of_lt both.1 ascii) (by decide))
  have noParts : parts? c = none := if_pos (Nat.lt_trans ascii (by decide))
  rw [takenApart, noSyllable]
  dsimp only
  rw [greatestNesting, takenApartWithin, noParts]

theorem putMark_ascii (c : Char) {rest : List Char}
    (ascii : ∀ other ∈ rest, other.toNat < 0x80) : putMark c rest = c :: rest := by
  cases rest with
  | nil => rfl
  | cons first rest =>
      rw [putMark, combiningClass_ascii (ascii first List.mem_cons_self)]
      exact if_neg (fun both => absurd both.1 (by decide))

theorem sortMarks_ascii {chars : List Char} (ascii : ∀ c ∈ chars, c.toNat < 0x80) :
    sortMarks chars = chars := by
  induction chars with
  | nil => rfl
  | cons first rest ih =>
      have later := (List.forall_mem_cons.mp ascii).2
      rw [sortMarks, List.foldr_cons, ← sortMarks, ih later, putMark_ascii first later]

theorem combined?_ascii (first : Char) (ascii : c.toNat < 0x80) : combined? first c = none := by
  have outside : ∀ start count : Nat, 0x80 ≤ start → placeFrom? start count c = none :=
    fun start count high => if_neg (fun both => absurd (Nat.lt_of_lt_of_le ascii high)
      (Nat.not_lt.mpr both.1))
  have noComposite : composite? first c = none := if_pos (Nat.lt_trans ascii (by decide))
  have noSyllable : joinedSyllable? first c = none := by
    rw [joinedSyllable?, outside firstVowel _ (by decide), outside (beforeTails + 1) _ (by decide)]
    split
    · rename_i impossible
      cases impossible
    · split
      · rename_i impossible
        cases impossible
      · rfl
  rw [combined?, noSyllable, noComposite]
  rfl

theorem combineAfter_ascii (base : Char) {chars : List Char}
    (ascii : ∀ c ∈ chars, c.toNat < 0x80) : combineAfter base [] chars = base :: chars := by
  induction chars generalizing base with
  | nil => rfl
  | cons first rest ih =>
      obtain ⟨here, later⟩ := List.forall_mem_cons.mp ascii
      rw [combineAfter, combined?_ascii base here, ite_self]
      dsimp only
      rw [if_pos (combiningClass_ascii here), ih first later]
      rfl

theorem composed_ascii {chars : List Char} (ascii : ∀ c ∈ chars, c.toNat < 0x80) :
    composed chars = chars := by
  have whole : chars.flatMap takenApart = chars := by
    induction chars with
    | nil => rfl
    | cons first rest ih =>
        obtain ⟨here, later⟩ := List.forall_mem_cons.mp ascii
        rw [List.flatMap_cons, takenApart_ascii here, ih later]
        rfl
  rw [composed, whole, sortMarks_ascii ascii]
  cases chars with
  | nil => rfl
  | cons first rest =>
      obtain ⟨here, later⟩ := List.forall_mem_cons.mp ascii
      rw [combine, if_pos (combiningClass_ascii here), combineAfter_ascii first later]

end Unicode

namespace Domain

/-! ### Small names -/

/-- Letters, digits and dots, as in the names that services are given. -/
def isSmall (c : Char) : Bool :=
  c.isLower || c.isDigit || c = '.'

def IsSmallName (name : List Char) : Prop :=
  ∀ c ∈ name, isSmall c = true

variable {c : Char}

theorem toNat_small (small : isSmall c = true) :
    97 ≤ c.toNat ∧ c.toNat ≤ 122 ∨ 48 ≤ c.toNat ∧ c.toNat ≤ 57 ∨ c.toNat = 46 := by
  rw [isSmall, Bool.or_eq_true, Bool.or_eq_true, decide_eq_true_eq] at small
  rcases small with (lower | digit) | dot
  · exact Or.inl (Text.range_of_isLower lower)
  · have bounds := Bool.and_eq_true_iff.mp digit
    exact Or.inr (Or.inl ⟨of_decide_eq_true bounds.1, of_decide_eq_true bounds.2⟩)
  · rw [dot]
    exact Or.inr (Or.inr rfl)

theorem ascii_small (small : isSmall c = true) : c.toNat < 0x80 := by
  have range := toNat_small small
  omega

theorem toLower_small (small : isSmall c = true) : c.toLower = c := by
  have range := toNat_small small
  apply Char.toNat_inj.mp
  rw [Text.toNat_toLower]
  split
  · omega
  · rfl

theorem replacement?_small (small : isSmall c = true) : replacement? c = some [c] := by
  rw [replacement?, if_pos (ascii_small small), toLower_small small]

/-! ### Labels one by one -/

theorem mapM_ne_nil {Item Found : Type} {read : Item → Option Found} {items : List Item}
    (filled : items ≠ []) {found : List Found} (answers : items.mapM read = some found) :
    found ≠ [] := by
  cases items with
  | nil => exact absurd rfl filled
  | cons item rest =>
      rw [List.mapM_cons] at answers
      obtain ⟨first, _first, answers⟩ := Option.bind_eq_some_iff.mp answers
      obtain ⟨others, _others, answers⟩ := Option.bind_eq_some_iff.mp answers
      rw [← Option.some.inj answers]
      exact List.cons_ne_nil first others

theorem mapM_append_eq_some {Item Found : Type} {read : Item → Option Found}
    {front rest : List Item} {found : List Found}
    (answers : (front ++ rest).mapM read = some found) :
    ∃ first last, front.mapM read = some first ∧ rest.mapM read = some last ∧
      found = first ++ last := by
  rw [List.mapM_append] at answers
  obtain ⟨first, frontAnswers, answers⟩ := Option.bind_eq_some_iff.mp answers
  obtain ⟨last, restAnswers, answers⟩ := Option.bind_eq_some_iff.mp answers
  exact ⟨first, last, frontAnswers, restAnswers, (Option.some.inj answers).symm⟩

theorem mapM_eq_self {Item : Type} {read : Item → Option Item} {items : List Item}
    (kept : ∀ item ∈ items, read item = some item) : items.mapM read = some items :=
  (Result.mapM_eq_map kept).trans (congrArg some (List.map_id' items))

/-- The labels of a name in ASCII, whatever their directions. -/
def asciiLabels? (name : List Char) : Option (List (List Char)) :=
  (labels? name).bind (fun labels => (labels.mapM characters?).bind (·.mapM asciiLabel?))

theorem labels?_append {front rest : List Char} {labels : List (List Char)}
    (read : labels? (front ++ '.' :: rest) = some labels) :
    ∃ first last, labels? front = some first ∧ labels? rest = some last ∧
      labels = first ++ last := by
  obtain ⟨pieces, mapped, rfl⟩ := Option.map_eq_some_iff.mp read
  obtain ⟨frontPieces, others, frontMapped, othersMapped, rfl⟩ := mapM_append_eq_some mapped
  rw [List.mapM_cons] at othersMapped
  obtain ⟨dot, dotMapped, othersMapped⟩ := Option.bind_eq_some_iff.mp othersMapped
  obtain ⟨restPieces, restMapped, othersMapped⟩ := Option.bind_eq_some_iff.mp othersMapped
  rw [replacement?_small (by decide)] at dotMapped
  refine ⟨_, _, congrArg (Option.map _) frontMapped, congrArg (Option.map _) restMapped, ?_⟩
  rw [← Option.some.inj othersMapped, ← Option.some.inj dotMapped, List.flatten_append,
    List.flatten_cons, List.singleton_append, Text.split_append, List.map_append]

theorem asciiLabels?_append {front rest : List Char} {labels : List (List Char)}
    (read : asciiLabels? (front ++ '.' :: rest) = some labels) :
    ∃ first last, asciiLabels? front = some first ∧ asciiLabels? rest = some last ∧
      labels = first ++ last := by
  obtain ⟨mapped, found, read⟩ := Option.bind_eq_some_iff.mp read
  obtain ⟨chars, checked, written⟩ := Option.bind_eq_some_iff.mp read
  obtain ⟨frontMapped, restMapped, frontFound, restFound, rfl⟩ := labels?_append found
  obtain ⟨frontChars, restChars, frontChecked, restChecked, rfl⟩ := mapM_append_eq_some checked
  obtain ⟨first, last, frontWritten, restWritten, rfl⟩ := mapM_append_eq_some written
  refine ⟨first, last, ?_, ?_, rfl⟩
  · rw [asciiLabels?, frontFound, Option.bind_some, frontChecked, Option.bind_some, frontWritten]
  · rw [asciiLabels?, restFound, Option.bind_some, restChecked, Option.bind_some, restWritten]

theorem asciiLabels?_ne_nil {name : List Char} {labels : List (List Char)}
    (read : asciiLabels? name = some labels) : labels ≠ [] := by
  obtain ⟨mapped, found, read⟩ := Option.bind_eq_some_iff.mp read
  obtain ⟨chars, checked, written⟩ := Option.bind_eq_some_iff.mp read
  obtain ⟨pieces, _mapped, rfl⟩ := Option.map_eq_some_iff.mp found
  have filled : (Text.split '.' pieces.flatten).map Unicode.composed ≠ [] :=
    mt List.map_eq_nil_iff.mp (Text.split_ne_nil '.' pieces.flatten)
  exact mapM_ne_nil (mapM_ne_nil filled checked) written

/-! ### Small labels -/

theorem isSmallName_of_mem_split {name label : List Char} (small : IsSmallName name)
    (present : label ∈ Text.split '.' name) : IsSmallName label :=
  fun c inside => small c (Text.mem_of_mem_split present inside)

theorem all_isAscii_small {name : List Char} (small : IsSmallName name) :
    name.all isAscii = true :=
  List.all_eq_true.mpr (fun c member => decide_eq_true (ascii_small (small c member)))

theorem map_toLower_small {name : List Char} (small : IsSmallName name) :
    name.map Char.toLower = name :=
  (List.map_congr_left (fun c member => toLower_small (small c member))).trans (List.map_id name)

theorem labels?_small {name : List Char} (small : IsSmallName name) :
    labels? name = some (Text.split '.' name) := by
  have mapped : name.mapM replacement? = some (name.map (fun c => [c])) := by
    induction name with
    | nil => rfl
    | cons c rest ih =>
        obtain ⟨here, later⟩ := List.forall_mem_cons.mp small
        rw [List.mapM_cons, replacement?_small here, ih later]
        rfl
  have composed : (Text.split '.' name).map Unicode.composed = Text.split '.' name := by
    refine (List.map_congr_left (fun label member => ?_)).trans (List.map_id _)
    exact Unicode.composed_ascii
      (fun c inside => ascii_small (isSmallName_of_mem_split small member c inside))
  rw [labels?, mapped, Option.map_some, ← List.flatMap_def, List.flatMap_singleton', composed]

theorem characters?_small {label : List Char} (small : IsSmallName label) :
    characters? label = some label := by
  have unmarked : ¬ isMarked label = true := by
    intro marked
    have dash : '-' ∈ label := (List.isPrefixOf_iff_prefix.mp marked).subset (by decide)
    have notSmall : ¬ isSmall '-' = true := by decide
    exact notSmall (small '-' dash)
  rw [characters?, if_neg unmarked]
  exact if_pos (Or.inl (all_isAscii_small small))

theorem asciiLabels?_small {name : List Char} (small : IsSmallName name) :
    asciiLabels? name = some (Text.split '.' name) := by
  have checked : ∀ label ∈ Text.split '.' name, characters? label = some label :=
    fun label member => characters?_small (isSmallName_of_mem_split small member)
  have written : ∀ label ∈ Text.split '.' name, asciiLabel? label = some label :=
    fun label member => if_pos (all_isAscii_small (isSmallName_of_mem_split small member))
  rw [asciiLabels?, labels?_small small, Option.bind_some, mapM_eq_self checked,
    Option.bind_some, mapM_eq_self written]

/-! ### Names around a dot -/

theorem eq_of_allowed? {name allowed : List Char} (passed : allowed? name = some allowed) :
    allowed = name := by
  rw [allowed?] at passed
  split at passed
  · cases passed
  · exact (Option.some.inj passed).symm

/-- A name is in small letters throughout, or joined of labels in ASCII. -/
theorem toAscii?_cases {name ascii : List Char} (written : toAscii? name = some ascii) :
    ascii = name.map Char.toLower ∨
      ∃ labels, asciiLabels? name = some labels ∧ ascii = Text.join '.' labels := by
  unfold toAscii? at written
  dsimp only at written
  split at written
  · exact Or.inl (eq_of_allowed? written)
  · obtain ⟨mapped, found, written⟩ := Option.bind_eq_some_iff.mp written
    obtain ⟨chars, checked, written⟩ := Option.bind_eq_some_iff.mp written
    split at written
    · obtain ⟨labels, joined, written⟩ := Option.bind_eq_some_iff.mp written
      refine Or.inr ⟨labels, ?_, eq_of_allowed? written⟩
      rw [asciiLabels?, found, Option.bind_some, checked, Option.bind_some, joined]
    · cases written

/-- The names on both sides of a dot are read apart, and a small one stays. -/
theorem toAscii?_append {front rest ascii : List Char}
    (written : toAscii? (front ++ '.' :: rest) = some ascii) :
    ∃ first last, ascii = first ++ '.' :: last ∧ (IsSmallName front → first = front) ∧
      (IsSmallName rest → last = rest) := by
  rcases toAscii?_cases written with lowered | ⟨labels, found, joined⟩
  · refine ⟨front.map Char.toLower, rest.map Char.toLower, ?_, map_toLower_small,
      map_toLower_small⟩
    rw [lowered, List.map_append, List.map_cons]
    rfl
  · obtain ⟨first, last, frontFound, restFound, rfl⟩ := asciiLabels?_append found
    refine ⟨Text.join '.' first, Text.join '.' last, ?_, ?_, ?_⟩
    · rw [joined]
      exact Text.join_append (asciiLabels?_ne_nil frontFound) (asciiLabels?_ne_nil restFound)
    · intro small
      rw [asciiLabels?_small small] at frontFound
      rw [← Option.some.inj frontFound, Text.join_split]
    · intro small
      rw [asciiLabels?_small small] at restFound
      rw [← Option.some.inj restFound, Text.join_split]

end Domain

end SignedRest
