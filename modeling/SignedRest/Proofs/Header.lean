/-
The choice of the headers that a signature covers, name by name. The last field counts whose name
folds to the wanted one and whose value is not blank; where every name is folded already, this is
the field of that very name.
-/

import SignedRest.Header
import SignedRest.Proofs.Table
import SignedRest.Proofs.Text.Blank
import SignedRest.Proofs.Wire

namespace SignedRest.Header

/-! ### Folded names -/

/-- The names that the library itself uses. -/
def knownNames : List String :=
  [host, date, userAgent, contentType, contentLength, contentMd5, authorization, signingDate,
    securityToken, requestId]

theorem toLower_known (name : String) (known : name ∈ knownNames := by decide) :
    name.toLower = name := by
  have lowered : ∀ name ∈ knownNames, name.toList.map Char.toLower = name.toList := by decide
  exact Text.toLower_eq_self (lowered name known)

theorem toLower_foldedName (name : String) : (foldedName name).toLower = foldedName name :=
  Text.toLower_toLower (Text.trim name)

theorem foldedName_eq_self {name : String} (trimmed : Text.trim name = name)
    (lower : name.toLower = name) : foldedName name = name := by
  rw [foldedName, trimmed, lower]

theorem foldedName_known (name : String) (known : name ∈ knownNames := by decide) :
    foldedName name = name := by
  have trimmed : ∀ name ∈ knownNames, Text.trim name = name := by decide
  exact foldedName_eq_self (trimmed name known) (toLower_known name known)

theorem foldedName_token {name : String} (token : Wire.isToken (Utf8.encodeText name) = true) :
    foldedName name = name.toLower := by
  have clear : ∀ c ∈ name.toList, Text.isBlank c = false := by
    intro c member
    obtain ⟨low, high⟩ := Wire.token_range token member
    exact Text.isBlank_of_range low high
  rw [foldedName, Text.trim_of_clear clear]

theorem foldedName_of_token {name : String} (token : Wire.isToken (Utf8.encodeText name) = true)
    (lower : name.toLower = name) : foldedName name = name :=
  (foldedName_token token).trans lower

theorem wants_ofNames (names : List String) (name : String) :
    (Selection.ofNames names).wants name = true ↔ ∃ given ∈ names, foldedName given = name := by
  rw [Selection.ofNames, Selection.wants, Table.contains_ofList, List.map_map]
  exact List.mem_map

/-! ### The last field of a name -/

/-- The form in which a value is signed; a blank one is not. -/
def signedValue? (value : String) : Option String :=
  if (Text.trim value).isEmpty then none else some (Text.trim value)

def signedAs? (name : String) (field : String × String) : Option String :=
  if foldedName field.1 = name then signedValue? field.2 else none

def lastSigned? (name : String) (fields : List (String × String)) : Option String :=
  (fields.filterMap (signedAs? name)).getLast?

theorem lastSigned?_cons (name : String) (field : String × String)
    (rest : List (String × String)) :
    lastSigned? name (field :: rest) = (lastSigned? name rest).or (signedAs? name field) := by
  unfold lastSigned?
  cases signed : signedAs? name field with
  | none => rw [List.filterMap_cons_none signed, Option.or_none]
  | some value =>
      rw [List.filterMap_cons_some signed, List.getLast?_cons]
      cases (rest.filterMap (signedAs? name)).getLast? with
      | none => rfl
      | some later => rfl

/-- What one field adds to a choice. -/
def choose (selection : Selection) (chosen : Fields) (field : String × String) : Fields :=
  if (Text.trim field.2).isEmpty then chosen
  else if selection.wants (foldedName field.1) then
    chosen.insert (foldedName field.1) (Text.trim field.2)
  else chosen

theorem choose_get? (selection : Selection) (chosen : Fields) (field : String × String)
    (name : String) :
    (choose selection chosen field).get? name =
      if selection.wants name then (signedAs? name field).or (chosen.get? name)
      else chosen.get? name := by
  unfold choose signedAs? signedValue?
  by_cases blank : (Text.trim field.2).isEmpty = true
  · simp only [if_pos blank, ite_self, Option.none_or]
  · simp only [if_neg blank]
    by_cases same : foldedName field.1 = name
    · subst same
      rw [if_pos rfl, Option.some_or]
      split
      · exact Table.get?_insert_self _ _ _
      · rfl
    · rw [if_neg same, Option.none_or, ite_self]
      split
      · exact Table.get?_insert_of_ne _ _ (Ne.symm same)
      · rfl

theorem foldl_choose_get? (selection : Selection) (fields : List (String × String))
    (chosen : Fields) (name : String) :
    (fields.foldl (choose selection) chosen).get? name =
      if selection.wants name then (lastSigned? name fields).or (chosen.get? name)
      else chosen.get? name := by
  induction fields generalizing chosen with
  | nil => exact (ite_self _).symm
  | cons field rest ih =>
      rw [List.foldl_cons, ih, choose_get?, lastSigned?_cons]
      split
      · exact Option.or_assoc.symm
      · rfl

theorem select_get? (selection : Selection) (fields : List (String × String)) (name : String) :
    (select selection fields).get? name =
      if selection.wants name then lastSigned? name fields else none := by
  have folded := foldl_choose_get? selection fields Table.empty name
  rw [Table.get?_empty, Option.or_none] at folded
  exact folded

theorem select_get?_of_mem {selection : Selection} {fields : List (String × String)}
    {name : String} (member : name ∈ (select selection fields).keys) :
    (select selection fields).get? name = lastSigned? name fields := by
  rw [Table.mem_keys_iff, select_get?] at member
  rw [select_get?]
  split
  · rfl
  · rename_i unwanted
    rw [if_neg unwanted] at member
    cases member

theorem lastSigned?_eq_some {name value : String} {fields : List (String × String)}
    (found : lastSigned? name fields = some value) :
    ∃ field ∈ fields, foldedName field.1 = name ∧ value = Text.trim field.2 := by
  obtain ⟨field, member, signed⟩ := List.mem_filterMap.mp (List.mem_of_getLast? found)
  rw [signedAs?] at signed
  split at signed
  · rename_i same
    rw [signedValue?] at signed
    split at signed
    · cases signed
    · exact ⟨field, member, same, (Option.some.inj signed).symm⟩
  · cases signed

theorem exists_of_mem_select {selection : Selection} {fields : List (String × String)}
    {name : String} (member : name ∈ (select selection fields).keys) :
    ∃ field ∈ fields, foldedName field.1 = name := by
  have found := select_get?_of_mem member
  rw [Table.mem_keys_iff] at member
  obtain ⟨value, chosen⟩ := Option.isSome_iff_exists.mp member
  rw [chosen] at found
  obtain ⟨field, present, same, _⟩ := lastSigned?_eq_some found.symm
  exact ⟨field, present, same⟩

/-! ### Names of one spelling -/

/-- Where no other spelling folds to a name, the field of that name is the last one. -/
theorem lastSigned?_of_spelled {fields : Fields} {name : String}
    (spelled : ∀ field ∈ fields.entries, foldedName field.1 = name ↔ field.1 = name) :
    lastSigned? name fields.entries = (fields.get? name).bind signedValue? := by
  have found : ∀ entries : List (String × String),
      entries.Pairwise (fun left right => left.1 < right.1) →
        (∀ field ∈ entries, foldedName field.1 = name ↔ field.1 = name) →
          lastSigned? name entries =
            ((entries.find? (fun entry => entry.1 = name)).map Prod.snd).bind signedValue? := by
    intro entries
    induction entries with
    | nil => intro _sorted _spelled; rfl
    | cons field rest ih =>
        intro sorted spelled
        obtain ⟨below, sortedRest⟩ := List.pairwise_cons.mp sorted
        obtain ⟨here, later⟩ := List.forall_mem_cons.mp spelled
        rw [lastSigned?_cons, ih sortedRest later, signedAs?]
        by_cases same : field.1 = name
        · have absent : rest.find? (fun entry => entry.1 = name) = none := by
            apply List.find?_eq_none.mpr
            intro entry member equal
            have less := below entry member
            rw [of_decide_eq_true equal, same] at less
            exact String.lt_irrefl name less
          have first : (field :: rest).find? (fun entry => entry.1 = name) = some field :=
            List.find?_cons_of_pos (decide_eq_true same)
          rw [absent, first, if_pos (here.mpr same)]
          rfl
        · have passed : (field :: rest).find? (fun entry => entry.1 = name) =
              rest.find? (fun entry => entry.1 = name) :=
            List.find?_cons_of_neg (by rw [decide_eq_false same]; decide)
          rw [passed, if_neg (mt here.mp same), Option.or_none]
  exact found fields.entries fields.sorted spelled

/-- A field of another name does not touch the last one. -/
theorem lastSigned?_insert (fields : Fields) {name other : String} (value : String)
    (apart : foldedName other ≠ name) :
    lastSigned? name (fields.insert other value).entries = lastSigned? name fields.entries := by
  unfold lastSigned?
  rw [Table.filterMap_insert fields value (fun _ => if_neg apart)]

theorem select_insert_of_unwanted {selection : Selection} {name : String}
    (folded : foldedName name = name) (unwanted : selection.wants name = false) (fields : Fields)
    (value : String) :
    select selection (fields.insert name value).entries = select selection fields.entries := by
  apply Table.ext_get?
  intro other
  rw [select_get?, select_get?]
  split
  · rename_i wanted
    apply lastSigned?_insert
    rw [folded]
    rintro rfl
    rw [unwanted] at wanted
    cases wanted
  · rfl

end SignedRest.Header
