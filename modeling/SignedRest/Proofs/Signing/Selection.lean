/-
What a choice of headers depends on. Under each name that is asked for, the last field that counts
is chosen, whatever stands between; so fields of different names may change places, and what was
chosen once is chosen again, by the same selection or by the names that came out of it.
-/

import SignedRest.Proofs.Header

namespace SignedRest.Header

/-! ### Names that are asked for -/

/-- The names that a selection is about. -/
def Selection.Names : Selection → String → Prop
  | default, name =>
      name ∈ [host, contentLength, contentType, contentMd5] ∨ serviceHeaders.toList <+: name.toList
  | only names, name => name ∈ names.keys

theorem wants_iff (selection : Selection) (name : String) :
    selection.wants name = true ↔ selection.Names name := by
  cases selection with
  | default =>
      simp only [Selection.wants, isSignedByDefault, Selection.Names, Bool.or_eq_true,
        decide_eq_true_eq, List.isPrefixOf_iff_prefix, List.mem_cons, List.not_mem_nil, or_false,
        or_assoc]
  | only names =>
      rw [Selection.wants, Selection.Names, Table.contains, Table.mem_keys_iff]

/-! ### The last field that counts -/

/-- A field counts under the name that its own folds to, unless its value is blank. -/
def Counts (name : String) (field : String × String) : Prop :=
  foldedName field.1 = name ∧ Text.trim field.2 ≠ ""

/-- A field that counts, and none after it does. -/
def IsLast (name : String) (fields : List (String × String)) (field : String × String) : Prop :=
  ∃ before after, fields = before ++ field :: after ∧ Counts name field ∧
    ∀ later ∈ after, ¬ Counts name later

theorem signedAs?_eq_some_iff (name value : String) (field : String × String) :
    signedAs? name field = some value ↔ Counts name field ∧ Text.trim field.2 = value := by
  unfold signedAs? signedValue? Counts
  by_cases same : foldedName field.1 = name
  · by_cases blank : Text.trim field.2 = ""
    · simp [same, blank]
    · simp [same, blank]
  · simp [same]

theorem signedAs?_eq_none_iff (name : String) (field : String × String) :
    signedAs? name field = none ↔ ¬ Counts name field := by
  rw [Option.eq_none_iff_forall_ne_some]
  constructor
  · intro none counts
    exact none _ ((signedAs?_eq_some_iff name _ field).mpr ⟨counts, rfl⟩)
  · intro uncounted value signed
    exact uncounted ((signedAs?_eq_some_iff name value field).mp signed).1

theorem lastSigned?_eq_some_iff (name value : String) (fields : List (String × String)) :
    lastSigned? name fields = some value ↔
      ∃ field, IsLast name fields field ∧ Text.trim field.2 = value := by
  rw [lastSigned?, List.getLast?_eq_some_iff]
  constructor
  · rintro ⟨earlier, listed⟩
    obtain ⟨before, rest, rfl, _, last⟩ := List.filterMap_eq_append_iff.mp listed
    obtain ⟨skipped, field, after, rfl, _, signed, ended⟩ := List.filterMap_eq_cons_iff.mp last
    obtain ⟨counts, same⟩ := (signedAs?_eq_some_iff name value field).mp signed
    refine ⟨field, ⟨before ++ skipped, after, (List.append_assoc _ _ _).symm, counts, ?_⟩, same⟩
    intro later member
    exact (signedAs?_eq_none_iff name later).mp (List.filterMap_eq_nil_iff.mp ended later member)
  · rintro ⟨field, ⟨before, after, rfl, counts, ended⟩, same⟩
    have signed := (signedAs?_eq_some_iff name value field).mpr ⟨counts, same⟩
    have unsigned : after.filterMap (signedAs? name) = [] :=
      List.filterMap_eq_nil_iff.mpr
        (fun later member => (signedAs?_eq_none_iff name later).mpr (ended later member))
    refine ⟨before.filterMap (signedAs? name), ?_⟩
    rw [List.filterMap_append, List.filterMap_cons_some signed, unsigned]

theorem lastSigned?_isSome_iff (name : String) (fields : List (String × String)) :
    (lastSigned? name fields).isSome = true ↔ ∃ field ∈ fields, Counts name field := by
  rw [lastSigned?, List.getLast?_isSome, ne_eq, List.filterMap_eq_nil_iff]
  simp only [signedAs?_eq_none_iff, not_forall, not_not, exists_prop]

/-- Fields of other names do not matter, nor does where they stand. -/
theorem lastSigned?_filter (name : String) (fields : List (String × String)) :
    lastSigned? name (fields.filter (fun field => foldedName field.1 = name)) =
      lastSigned? name fields := by
  have read : ∀ field : String × String,
      (if decide (foldedName field.1 = name) = true then signedAs? name field else none) =
        signedAs? name field := by
    intro field
    by_cases same : foldedName field.1 = name
    · rw [decide_eq_true same, if_pos rfl]
    · rw [signedAs?, if_neg same, ite_self]
  rw [lastSigned?, List.filterMap_filter, funext read, lastSigned?]

/-! ### What is chosen -/

section Chosen

variable (selection : Selection) (fields : List (String × String))

theorem mem_select_iff (name : String) :
    name ∈ (select selection fields).keys ↔
      selection.Names name ∧ ∃ field ∈ fields, Counts name field := by
  rw [Table.mem_keys_iff, select_get?, ← wants_iff, ← lastSigned?_isSome_iff]
  split
  · rename_i wanted
    exact (and_iff_right wanted).symm
  · rename_i unwanted
    exact iff_of_false Bool.false_ne_true (fun both => unwanted both.1)

theorem select_eq_some_iff (name value : String) :
    (select selection fields).get? name = some value ↔
      selection.Names name ∧ ∃ field, IsLast name fields field ∧ Text.trim field.2 = value := by
  rw [select_get?, ← wants_iff, ← lastSigned?_eq_some_iff]
  split
  · rename_i wanted
    exact (and_iff_right wanted).symm
  · rename_i unwanted
    exact iff_of_false (Option.some_ne_none value).symm (fun both => unwanted both.1)

theorem select_congr {fields other : List (String × String)}
    (alike : ∀ name, other.filter (fun field => foldedName field.1 = name) =
      fields.filter (fun field => foldedName field.1 = name)) :
    select selection other = select selection fields := by
  apply Table.ext_get?
  intro name
  rw [select_get?, select_get?, ← lastSigned?_filter name other, alike name, lastSigned?_filter]

theorem foldedName_foldedName (name : String) : foldedName (foldedName name) = foldedName name := by
  rw [foldedName, foldedName, Text.trim_toLower, Text.trim_trim, Text.toLower_toLower]

theorem foldedName_of_mem_select {name : String}
    (member : name ∈ (select selection fields).keys) : foldedName name = name := by
  obtain ⟨field, _present, rfl⟩ := exists_of_mem_select member
  exact foldedName_foldedName field.1

/-- What was chosen has folded names and trimmed values, which choosing leaves alone. -/
theorem lastSigned?_select (name : String) :
    lastSigned? name (select selection fields).entries = (select selection fields).get? name := by
  rw [lastSigned?_of_spelled]
  · cases chosen : (select selection fields).get? name with
    | none => rfl
    | some value =>
        obtain ⟨_named, field, ⟨_, _, _, ⟨_, filled⟩, _⟩, rfl⟩ :=
          (select_eq_some_iff selection fields name value).mp chosen
        rw [Option.bind_some, signedValue?, Text.trim_trim, if_neg]
        rwa [String.isEmpty_iff]
  · intro field member
    rw [foldedName_of_mem_select selection fields (List.mem_map_of_mem member)]

theorem select_again {again : Selection}
    (kept : ∀ name ∈ (select selection fields).keys, again.wants name = true) :
    select again (select selection fields).entries = select selection fields := by
  apply Table.ext_get?
  intro name
  rw [select_get?, lastSigned?_select]
  split
  · rfl
  · rename_i unwanted
    rw [eq_comm, ← Option.not_isSome_iff_eq_none, ← Table.mem_keys_iff]
    exact mt (kept name) unwanted

theorem wants_of_mem_select {name : String} (member : name ∈ (select selection fields).keys) :
    selection.wants name = true :=
  (wants_iff selection name).mpr ((mem_select_iff selection fields name).mp member).1

/-- What a choice is, and what it may be made from instead. -/
structure Chooses (chosen : Fields) : Prop where
  names : ∀ name, name ∈ chosen.keys ↔
    selection.Names name ∧ ∃ field ∈ fields, Counts name field
  values : ∀ name value, chosen.get? name = some value ↔
    selection.Names name ∧ ∃ field, IsLast name fields field ∧ Text.trim field.2 = value
  reordered : ∀ other : List (String × String),
    (∀ name, other.filter (fun field => foldedName field.1 = name) =
      fields.filter (fun field => foldedName field.1 = name)) →
    select selection other = chosen
  again : select selection chosen.entries = chosen
  named : ∀ names : Table Unit, names.keys = chosen.keys →
    select (.only names) fields = chosen ∧ select (.only names) chosen.entries = chosen

theorem select_chooses : Chooses selection fields (select selection fields) where
  names := mem_select_iff selection fields
  values := select_eq_some_iff selection fields
  reordered := fun _other alike => select_congr selection alike
  again := select_again selection fields
    (fun _name member => wants_of_mem_select selection fields member)
  named := by
    intro names same
    have wanted : ∀ name, (Selection.only names).wants name = true ↔
        name ∈ (select selection fields).keys := by
      intro name
      rw [wants_iff, Selection.Names, same]
    constructor
    · apply Table.ext_get?
      intro name
      rw [select_get?]
      split
      · rename_i member
        exact (select_get?_of_mem ((wanted name).mp member)).symm
      · rename_i unwanted
        rw [eq_comm, ← Option.not_isSome_iff_eq_none, ← Table.mem_keys_iff]
        exact mt (wanted name).mpr unwanted
    · exact select_again selection fields (fun name => (wanted name).mpr)

end Chosen

end SignedRest.Header
