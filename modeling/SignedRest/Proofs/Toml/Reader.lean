/-
Documents that were written can be read. A document is put together from lines; each line gives its
statements whatever follows it, so the statements of a document are those of its lines in a row.
-/

import SignedRest.Proofs.Toml.Scalar
import SignedRest.Proofs.Toml.Text
import SignedRest.Toml.Reader

namespace SignedRest.Toml

/-! ### Values at the end of a line -/

/-- A form of a value: reading it stops at the line break behind it. -/
structure Written (value : Toml) (text : List Char) : Prop where
  reads : ∀ fuel depth rest,
    value? (fuel + 2) (depth + 1) (text ++ '\n' :: rest) = some (value, '\n' :: rest)
  starts : ∀ rest, skipBlank (text ++ '\n' :: rest) = text ++ '\n' :: rest

theorem skipBlank_of_head {c : Char} (filled : isLineBlank c = false) (rest : List Char) :
    skipBlank (c :: rest) = c :: rest :=
  List.dropWhile_cons_of_neg (by rw [filled]; decide)

theorem unquoted_break (rest : List Char) : Unquoted ('\n' :: rest) :=
  ⟨nofun, nofun⟩

theorem writeChars_head (chars : List Char) :
    ∃ quote others, writeChars chars = quote :: others ∧ (quote = '"' ∨ quote = '\'') := by
  unfold writeChars
  dsimp only
  split
  · exact ⟨_, _, rfl, Or.inl rfl⟩
  · exact ⟨_, _, rfl, Or.inr rfl⟩
  · exact ⟨_, _, rfl, Or.inl rfl⟩
  · exact ⟨_, _, rfl, Or.inr rfl⟩

theorem written_text (value : String) : Written (.text value) (writeText value) := by
  obtain ⟨quote, others, same, isQuote⟩ := writeChars_head value.toList
  have reads (rest : List Char) : text? (writeChars value.toList ++ '\n' :: rest) =
      some (.text value, '\n' :: rest) := by
    rw [text?, string?_written (unquoted_break rest), Option.map_some]
    exact congrArg (fun found => some (text found, '\n' :: rest)) String.ofList_toList
  refine ⟨?_, ?_⟩
  · intro fuel depth rest
    rw [writeText, ← reads, same]
    rcases isQuote with rfl | rfl
    · rfl
    · rfl
  · intro rest
    rw [writeText, same]
    rcases isQuote with rfl | rfl
    · exact skipBlank_of_head rfl _
    · exact skipBlank_of_head rfl _

theorem toDigits_head (number : Nat) :
    ∃ first others, Nat.toDigits 10 number = first :: others ∧
      48 ≤ first.toNat ∧ first.toNat ≤ 57 := by
  obtain ⟨digits, read, spelled⟩ := Number.toDigits_spelled number
  cases same : Nat.toDigits 10 number with
  | nil =>
      rw [same] at read
      exact absurd (Option.some.inj read).symm spelled.filled
  | cons first others =>
      exact ⟨first, others, rfl, Number.isDigit_of_mem_toDigits (same ▸ List.mem_cons_self)⟩

theorem written_integer {number : Nat} (small : number < Nat.pow 2 128) :
    Written (.integer number) (Nat.toDigits 10 number) := by
  obtain ⟨first, others, same, low, high⟩ := toDigits_head number
  have different : ∀ mark : Char, mark.toNat < 48 ∨ 57 < mark.toNat → first ≠ mark := by
    rintro mark outside rfl
    omega
  refine ⟨?_, ?_⟩
  · intro fuel depth rest
    have front := scalarText_toDigits number rest
    have read := scalar?_toDigits small
    rw [same] at front read ⊢
    rw [List.cons_append] at front ⊢
    rw [value?]
    · rw [front]
      dsimp only
      rw [read]
      rfl
    · exact fun _ equal => different '[' (by decide) (List.cons.inj equal).1
    · exact fun _ equal => different '\x7b' (by decide) (List.cons.inj equal).1
    · exact fun _ equal => different '"' (by decide) (List.cons.inj equal).1
    · exact fun _ equal => different '\'' (by decide) (List.cons.inj equal).1
  · intro rest
    rw [same]
    refine skipBlank_of_head ?_ _
    rw [isLineBlank, decide_eq_false (different ' ' (by decide)),
      decide_eq_false (different '\t' (by decide)), Bool.or_self]

theorem written_empty : Written (.array []) ['[', ']'] :=
  ⟨fun _ _ _ => rfl, fun _ => rfl⟩

/-! ### Keys -/

/-- A key that needs no quotes. -/
def IsBare (name : String) : Prop :=
  name.toList ≠ [] ∧ ∀ c ∈ name.toList, isKeyChar c = true

instance (name : String) : Decidable (IsBare name) :=
  decidable_of_iff (name.toList ≠ [] ∧ name.toList.all isKeyChar = true)
    (and_congr_right fun _ => List.all_eq_true)

theorem key?_bare {name : String} (bare : IsBare name) {rest : List Char}
    (stops : rest.head?.all (!isKeyChar ·)) : key? (name.toList ++ rest) = some (name, rest) := by
  obtain ⟨filled, keys⟩ := bare
  obtain ⟨front, back⟩ := run_append keys stops
  have quotes : ∀ mark, isKeyChar mark = false → ∀ more, name.toList ++ rest ≠ mark :: more := by
    intro mark quote more same
    cases chars : name.toList with
    | nil => exact filled chars
    | cons first others =>
        rw [chars] at same keys
        rw [← (List.cons.inj same).1, keys first List.mem_cons_self] at quote
        cases quote
  unfold key?
  split
  · rename_i same
    exact absurd same (quotes '"' rfl _)
  · rename_i same
    exact absurd same (quotes '\'' rfl _)
  · rename_i same
    exact absurd same (quotes '"' rfl _)
  · rename_i same
    exact absurd same (quotes '\'' rfl _)
  · rw [front, back]
    dsimp only
    rw [if_neg (by simpa using filled), String.ofList_toList]

theorem IsBare.head {name : String} (bare : IsBare name) :
    ∃ first others, name.toList = first :: others ∧ isKeyChar first = true := by
  cases chars : name.toList with
  | nil => exact absurd chars bare.1
  | cons first others =>
      exact ⟨first, others, rfl, bare.2 first (chars ▸ List.mem_cons_self)⟩

theorem isKeyChar_ne {c mark : Char} (key : isKeyChar c = true) (other : isKeyChar mark = false) :
    c ≠ mark := by
  rintro rfl
  rw [other] at key
  cases key

theorem skipBlank_bare {name : String} (bare : IsBare name) (rest : List Char) :
    skipBlank (name.toList ++ rest) = name.toList ++ rest := by
  obtain ⟨first, others, same, key⟩ := bare.head
  rw [same]
  refine skipBlank_of_head ?_ _
  rw [isLineBlank, decide_eq_false (isKeyChar_ne key rfl), decide_eq_false (isKeyChar_ne key rfl),
    Bool.or_self]

/-- One key, with what stands behind it on its line. -/
theorem pathOf?_bare {name : String} (bare : IsBare name) {rest : List Char}
    (stops : rest.head?.all (!isKeyChar ·)) (single : ∀ more, skipBlank rest ≠ '.' :: more) :
    pathOf? (name.toList ++ rest) = some ([name], skipBlank rest) := by
  rw [pathOf?, greatestDepth, path?, skipBlank_bare bare, key?_bare bare stops]
  simp only [Option.bind_eq_bind, Option.bind_some]

/-! ### Lines -/

theorem statement?_assign {name : String} (bare : IsBare name) {value : Toml} {text : List Char}
    (written : Written value text) (rest : List Char) :
    statement? (name.toList ++ (" = ".toList ++ (text ++ '\n' :: rest))) =
      some (.assign [name] value, '\n' :: rest) := by
  obtain ⟨first, others, same, key⟩ := bare.head
  have path : pathOf? (name.toList ++ (" = ".toList ++ (text ++ '\n' :: rest))) =
      some ([name], '=' :: ' ' :: (text ++ '\n' :: rest)) :=
    pathOf?_bare bare rfl nofun
  have blank : skipBlank (' ' :: (text ++ '\n' :: rest)) = text ++ '\n' :: rest :=
    written.starts rest
  rw [same, List.cons_append] at path ⊢
  rw [statement?]
  · rw [path]
    simp only [Option.bind_eq_bind, Option.bind_some, List.length_cons]
    rw [blank, Nat.mul_succ, greatestDepth, written.reads]
    rfl
  · exact fun _ equal => isKeyChar_ne key rfl (List.cons.inj equal).1
  · exact fun _ equal => isKeyChar_ne key rfl (List.cons.inj equal).1

/-- Lines that give statements, whatever follows them. -/
structure Reads (text : List Char) (statements : List Statement) : Prop where
  gives : ∀ fuel rest, statements? (fuel + statements.length) (text ++ rest) =
    (statements? fuel rest).map (statements ++ ·)
  length_le : statements.length ≤ text.length

theorem Reads.append {first second : List Char} {before after : List Statement}
    (reads : Reads first before) (later : Reads second after) :
    Reads (first ++ second) (before ++ after) where
  gives := by
    intro fuel rest
    rw [List.length_append, Nat.add_comm before.length, ← Nat.add_assoc, List.append_assoc,
      reads.gives, later.gives, Option.map_map]
    congr 1
    funext found
    exact (List.append_assoc before after found).symm
  length_le := by
    rw [List.length_append, List.length_append]
    exact Nat.add_le_add reads.length_le later.length_le

theorem reads_nothing : Reads [] [] where
  gives := fun _ _ => Option.map_id'.symm
  length_le := Nat.le_refl 0

theorem reads_break : Reads ['\n'] [] where
  gives := by
    intro fuel rest
    cases fuel with
    | zero => rfl
    | succ fuel => exact Option.map_id'.symm
  length_le := Nat.zero_le _

/-- A line that holds one statement and does not begin like a blank one. -/
theorem reads_line {first : Char} (body : List Char) {statement : Statement}
    (opens : isKeyChar first = true ∨ first = '[')
    (reads : ∀ rest, statement? (first :: (body ++ '\n' :: rest)) =
      some (statement, '\n' :: rest)) :
    Reads (first :: body ++ ['\n']) [statement] where
  gives := by
    intro fuel rest
    have skips (more : List Char) : skipLines? false (first :: more) = some (first :: more) := by
      have different : ∀ mark, isKeyChar mark = false → mark ≠ '[' → first ≠ mark := by
        intro mark other bracket
        rcases opens with key | rfl
        · exact isKeyChar_ne key other
        · exact bracket.symm
      have breaks : ¬ breaksLine first more = true := by
        rw [breaksLine, decide_eq_false (different '\n' rfl (by decide)),
          decide_eq_false (different '\r' rfl (by decide))]
        exact Bool.false_ne_true
      have blank : ¬ isLineBlank first = true := by
        rw [isLineBlank, decide_eq_false (different ' ' rfl (by decide)),
          decide_eq_false (different '\t' rfl (by decide))]
        exact Bool.false_ne_true
      rw [skipLines?, if_neg (different '\n' rfl (by decide)), if_neg breaks,
        if_neg Bool.false_ne_true, if_neg blank, if_neg (different '#' rfl (by decide))]
    rw [List.length_singleton, List.append_assoc, List.cons_append, List.singleton_append,
      statements?, skips]
    simp only [Option.bind_eq_bind, Option.bind_some]
    rw [reads]
    simp only [Option.bind_some, endLine?, if_true]
    cases statements? fuel rest with
    | none => rfl
    | some others => rfl
  length_le := Nat.le_add_left 1 _

theorem reads_assign {name : String} (bare : IsBare name) {value : Toml} {text : List Char}
    (written : Written value text) :
    Reads (name.toList ++ " = ".toList ++ text ++ ['\n']) [.assign [name] value] := by
  obtain ⟨first, others, same, key⟩ := bare.head
  have reads := statement?_assign bare written
  rw [same] at reads ⊢
  refine reads_line (others ++ " = ".toList ++ text) (Or.inl key) (fun rest => ?_)
  rw [List.append_assoc, List.append_assoc]
  exact reads rest

/-- The statements of a whole document. The reader's bound is never reached, since every line of a
statement has characters. -/
theorem Reads.document {text : List Char} {statements : List Statement}
    (reads : Reads text statements) : statements? (text.length + 1) text = some statements := by
  have bound := reads.length_le
  have given := reads.gives (text.length - statements.length + 1) []
  have enough : text.length - statements.length + 1 + statements.length = text.length + 1 := by
    omega
  rw [enough, List.append_nil] at given
  rw [given]
  exact congrArg some (List.append_nil statements)

end SignedRest.Toml
