/-
Finite maps from text. The entries are kept in strictly increasing order of their names, so two
tables are equal exactly when every name has the same value in both. Text is ordered by code point,
which is also the order of its UTF-8 bytes.
-/

namespace SignedRest

structure Table (Value : Type) where
  entries : List (String × Value)
  sorted : entries.Pairwise (fun left right => left.1 < right.1)
deriving DecidableEq

namespace Table

variable {Value : Type}

def empty : Table Value := ⟨[], List.Pairwise.nil⟩

/-- An entry of the same name is replaced. -/
def insertEntry (name : String) (value : Value) : List (String × Value) → List (String × Value)
  | [] => [(name, value)]
  | (head, old) :: tail =>
      if name < head then (name, value) :: (head, old) :: tail
      else if name = head then (name, value) :: tail
      else (head, old) :: insertEntry name value tail

theorem mem_insertEntry {name : String} {value : Value} {entry : String × Value}
    {entries : List (String × Value)} (member : entry ∈ insertEntry name value entries) :
    entry = (name, value) ∨ entry ∈ entries := by
  induction entries with
  | nil => simpa [insertEntry] using member
  | cons first tail ih =>
      obtain ⟨head, old⟩ := first
      rw [insertEntry] at member
      split at member
      · simpa [List.mem_cons] using member
      · split at member
        · rcases List.mem_cons.mp member with same | later
          · exact Or.inl same
          · exact Or.inr (List.mem_cons_of_mem _ later)
        · rcases List.mem_cons.mp member with same | later
          · exact Or.inr (same ▸ List.mem_cons_self)
          · exact (ih later).imp_right (List.mem_cons_of_mem _)

theorem insertEntry_sorted {name : String} {value : Value} {entries : List (String × Value)}
    (sorted : entries.Pairwise (fun left right => left.1 < right.1)) :
    (insertEntry name value entries).Pairwise (fun left right => left.1 < right.1) := by
  induction entries with
  | nil => exact List.pairwise_singleton _ _
  | cons first tail ih =>
      obtain ⟨head, old⟩ := first
      have below := (List.pairwise_cons.mp sorted).1
      have rest := (List.pairwise_cons.mp sorted).2
      rw [insertEntry]
      split
      · rename_i less
        refine List.pairwise_cons.mpr ⟨fun entry member => ?_, sorted⟩
        rcases List.mem_cons.mp member with same | later
        · exact same ▸ less
        · exact String.lt_trans less (below entry later)
      · rename_i notLess
        split
        · rename_i same
          exact List.pairwise_cons.mpr ⟨fun entry member => same ▸ below entry member, rest⟩
        · rename_i different
          refine List.pairwise_cons.mpr ⟨fun entry member => ?_, ih rest⟩
          rcases mem_insertEntry member with same | later
          · subst same
            exact Std.lt_of_le_of_ne (String.not_lt.mp notLess) (fun equal => different equal.symm)
          · exact below entry later

def insert (table : Table Value) (name : String) (value : Value) : Table Value :=
  ⟨insertEntry name value table.entries, insertEntry_sorted table.sorted⟩

/-- Later pairs replace earlier ones of the same name. -/
def ofList (pairs : List (String × Value)) : Table Value :=
  pairs.foldl (fun table pair => table.insert pair.1 pair.2) empty

def erase (table : Table Value) (name : String) : Table Value :=
  ⟨table.entries.filter (fun entry => entry.1 ≠ name), table.sorted.filter _⟩

def get? (table : Table Value) (name : String) : Option Value :=
  (table.entries.find? (fun entry => entry.1 = name)).map Prod.snd

def contains (table : Table Value) (name : String) : Bool :=
  (table.get? name).isSome

def keys (table : Table Value) : List String :=
  table.entries.map Prod.fst

def isEmpty (table : Table Value) : Bool :=
  table.entries.isEmpty

instance : Inhabited (Table Value) := ⟨empty⟩

@[simp] theorem get?_empty (name : String) : (empty : Table Value).get? name = none := rfl

theorem get?_insert_self (table : Table Value) (name : String) (value : Value) :
    (table.insert name value).get? name = some value := by
  have found : ∀ entries : List (String × Value),
      ((insertEntry name value entries).find? (fun entry => entry.1 = name)).map Prod.snd =
        some value := by
    intro entries
    induction entries with
    | nil => simp [insertEntry]
    | cons first tail ih =>
        obtain ⟨head, old⟩ := first
        rw [insertEntry]
        split
        · simp
        · split
          · simp
          · rename_i different
            simp [Ne.symm different, ih]
  exact found table.entries

theorem get?_insert_of_ne (table : Table Value) {name other : String} (value : Value)
    (different : other ≠ name) : (table.insert name value).get? other = table.get? other := by
  have found : ∀ entries : List (String × Value),
      (insertEntry name value entries).find? (fun entry => entry.1 = other) =
        entries.find? (fun entry => entry.1 = other) := by
    intro entries
    induction entries with
    | nil => simp [insertEntry, Ne.symm different]
    | cons first tail ih =>
        obtain ⟨head, old⟩ := first
        rw [insertEntry]
        split
        · simp [List.find?_cons, Ne.symm different]
        · split
          · rename_i same
            subst same
            simp [Ne.symm different]
          · by_cases equal : head = other <;> simp [equal, ih]
  exact congrArg (Option.map Prod.snd) (found table.entries)

end Table

end SignedRest
