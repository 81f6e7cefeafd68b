/-
Tables seen through their look-ups. A name has at most one entry, so an entry stands in a table
exactly when its name is found with its value, and two tables with the same look-ups are equal.
-/

import SignedRest.Table

namespace SignedRest.Table

variable {Value : Type}

theorem get?_eq_some_iff (table : Table Value) (name : String) (value : Value) :
    table.get? name = some value ↔ (name, value) ∈ table.entries := by
  have found : ∀ entries : List (String × Value),
      entries.Pairwise (fun left right => left.1 < right.1) →
        ((entries.find? (fun entry => entry.1 = name)).map Prod.snd = some value ↔
          (name, value) ∈ entries) := by
    intro entries
    induction entries with
    | nil => intro _sorted; simp
    | cons first tail ih =>
        intro sorted
        obtain ⟨head, old⟩ := first
        obtain ⟨below, rest⟩ := List.pairwise_cons.mp sorted
        by_cases same : head = name
        · subst same
          have absent : (head, value) ∉ tail := fun member =>
            String.lt_irrefl head (below (head, value) member)
          simp [absent, eq_comm]
        · have apart : (name, value) ≠ (head, old) := fun equal =>
            same (congrArg Prod.fst equal).symm
          simp [same, apart, ih rest]
  exact found table.entries table.sorted

theorem get?_insert (table : Table Value) (name other : String) (value : Value) :
    (table.insert name value).get? other =
      if other = name then some value else table.get? other := by
  by_cases same : other = name
  · rw [if_pos same, same, get?_insert_self]
  · rw [if_neg same, get?_insert_of_ne table value same]

theorem mem_keys_iff (table : Table Value) (name : String) :
    name ∈ table.keys ↔ (table.get? name).isSome := by
  rw [keys, List.mem_map, Option.isSome_iff_exists]
  constructor
  · rintro ⟨⟨_, value⟩, member, rfl⟩
    exact ⟨value, (table.get?_eq_some_iff _ value).mpr member⟩
  · rintro ⟨value, found⟩
    exact ⟨(name, value), (table.get?_eq_some_iff name value).mp found, rfl⟩

theorem contains_insert (table : Table Value) (name other : String) (value : Value) :
    (table.insert name value).contains other = true ↔
      other = name ∨ table.contains other = true := by
  rw [contains, get?_insert, contains]
  split
  · rename_i same
    exact iff_of_true rfl (Or.inl same)
  · rename_i different
    exact (or_iff_right different).symm

theorem contains_ofList (pairs : List (String × Value)) (name : String) :
    (ofList pairs).contains name = true ↔ name ∈ pairs.map Prod.fst := by
  have folded : ∀ table : Table Value,
      (pairs.foldl (fun table pair => table.insert pair.1 pair.2) table).contains name = true ↔
        table.contains name = true ∨ name ∈ pairs.map Prod.fst := by
    induction pairs with
    | nil =>
        intro table
        rw [List.foldl_nil, List.map_nil]
        exact (or_iff_left List.not_mem_nil).symm
    | cons pair rest ih =>
        intro table
        rw [List.foldl_cons, ih, contains_insert, List.map_cons, List.mem_cons, or_assoc,
          or_left_comm]
  have absent : ¬ (empty : Table Value).contains name = true := Bool.false_ne_true
  exact (folded empty).trans (or_iff_right absent)

/-- Later pairs replace earlier ones, and those that the table had. -/
def insertMany (table : Table Value) (pairs : List (String × Value)) : Table Value :=
  pairs.foldl (fun table pair => table.insert pair.1 pair.2) table

theorem insertMany_append (table : Table Value) (front rest : List (String × Value)) :
    table.insertMany (front ++ rest) = (table.insertMany front).insertMany rest :=
  List.foldl_append

theorem get?_insertMany (table : Table Value) (pairs : List (String × Value)) (name : String) :
    (table.insertMany pairs).get? name =
      ((pairs.filter (fun pair => pair.1 = name)).getLast?.map Prod.snd).or (table.get? name) := by
  induction pairs generalizing table with
  | nil => rfl
  | cons pair rest ih =>
      change ((table.insert pair.1 pair.2).insertMany rest).get? name = _
      rw [ih, get?_insert]
      by_cases same : pair.1 = name
      · rw [if_pos same.symm, List.filter_cons, if_pos (decide_eq_true same), List.getLast?_cons]
        cases (rest.filter (fun pair => pair.1 = name)).getLast? with
        | none => rfl
        | some later => rfl
      · rw [if_neg (Ne.symm same), List.filter_cons, if_neg (mt of_decide_eq_true same)]

theorem get?_ofList (pairs : List (String × Value)) (name : String) :
    (ofList pairs).get? name =
      (pairs.filter (fun pair => pair.1 = name)).getLast?.map Prod.snd := by
  have found := get?_insertMany empty pairs name
  rwa [get?_empty, Option.or_none] at found

/-- What is read off the other entries stays the same when one is written. -/
theorem filterMap_insert {Found : Type} (table : Table Value) {name : String} (value : Value)
    {read : String × Value → Option Found} (unread : ∀ other, read (name, other) = none) :
    (table.insert name value).entries.filterMap read = table.entries.filterMap read := by
  have found : ∀ entries : List (String × Value),
      (insertEntry name value entries).filterMap read = entries.filterMap read := by
    intro entries
    induction entries with
    | nil => rw [insertEntry, List.filterMap_cons_none (unread value)]
    | cons first tail ih =>
        obtain ⟨head, old⟩ := first
        rw [insertEntry]
        split
        · rw [List.filterMap_cons_none (unread value)]
        · split
          · rename_i same
            subst same
            rw [List.filterMap_cons_none (unread value), List.filterMap_cons_none (unread old)]
          · rw [List.filterMap_cons, List.filterMap_cons, ih]
  exact found table.entries

theorem keys_sorted (table : Table Value) : table.keys.Pairwise (· < ·) :=
  List.pairwise_map.mpr table.sorted

theorem keys_nodup (table : Table Value) : table.keys.Nodup := by
  apply table.keys_sorted.imp
  intro left right less same
  rw [same] at less
  exact String.lt_irrefl right less

theorem entries_nodup (table : Table Value) : table.entries.Nodup :=
  List.Pairwise.of_map Prod.fst (fun _ _ apart same => apart (congrArg Prod.fst same))
    table.keys_nodup

/-- The order of the entries is no more than their names tell. -/
theorem eq_of_perm {left right : Table Value} (perm : left.entries.Perm right.entries) :
    left = right := by
  have same : left.entries = right.entries :=
    List.Perm.eq_of_pairwise
      (fun _ _ _ _ less greater => absurd greater (String.lt_asymm less))
      left.sorted right.sorted perm
  cases left
  cases right
  cases same
  rfl

theorem ext_get? {left right : Table Value} (same : ∀ name, left.get? name = right.get? name) :
    left = right := by
  apply eq_of_perm
  rw [List.perm_ext_iff_of_nodup left.entries_nodup right.entries_nodup]
  rintro ⟨name, value⟩
  rw [← get?_eq_some_iff, ← get?_eq_some_iff, same name]

theorem ofList_entries (table : Table Value) : ofList table.entries = table := by
  apply ext_get?
  intro name
  rw [get?_ofList]
  cases last : (table.entries.filter (fun entry => entry.1 = name)).getLast? with
  | none =>
      have absent := List.filter_eq_nil_iff.mp (List.getLast?_eq_none_iff.mp last)
      rw [get?, List.find?_eq_none.mpr absent]
  | some entry =>
      obtain ⟨present, named⟩ := List.mem_filter.mp (List.mem_of_getLast? last)
      rw [decide_eq_true_eq] at named
      exact (named ▸ (table.get?_eq_some_iff entry.1 entry.2).mpr present).symm

/-- The last value of a name counts. -/
theorem insert_insert (table : Table Value) (name : String) (earlier later : Value) :
    (table.insert name earlier).insert name later = table.insert name later := by
  apply ext_get?
  intro other
  rw [get?_insert, get?_insert, get?_insert]
  split
  · rfl
  · rfl

end SignedRest.Table
