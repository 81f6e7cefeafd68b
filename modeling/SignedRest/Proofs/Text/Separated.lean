/-
Dividing and joining are inverse. Pieces that do not hold the separator are read back from the list
they were joined to, and the first separator divides a list in one way only.
-/

import SignedRest.Text.Separated

namespace SignedRest.Text

variable {Item : Type} {separator : Item}

/-! ### Joined lists -/

theorem mem_join {pieces : List (List Item)} {item : Item}
    (member : item ∈ join separator pieces) :
    item = separator ∨ ∃ piece ∈ pieces, item ∈ piece := by
  induction pieces with
  | nil => exact absurd member List.not_mem_nil
  | cons piece more ih =>
      cases more with
      | nil => exact Or.inr ⟨piece, List.mem_cons_self, member⟩
      | cons next rest =>
          rw [join] at member
          · rcases List.mem_append.mp member with here | later
            · exact Or.inr ⟨piece, List.mem_cons_self, here⟩
            · rcases List.mem_cons.mp later with same | beyond
              · exact Or.inl same
              · rcases ih beyond with same | ⟨other, present, inside⟩
                · exact Or.inl same
                · exact Or.inr ⟨other, List.mem_cons_of_mem piece present, inside⟩
          · exact List.cons_ne_nil next rest

theorem join_cons (piece : List Item) {more : List (List Item)} (filled : more ≠ []) :
    join separator (piece :: more) = piece ++ separator :: join separator more := by
  cases more with
  | nil => exact absurd rfl filled
  | cons next rest => rfl

theorem join_append {front rest : List (List Item)} (filled : front ≠ []) (restFilled : rest ≠ []) :
    join separator (front ++ rest) = join separator front ++ separator :: join separator rest := by
  induction front with
  | nil => exact absurd rfl filled
  | cons piece more ih =>
      rw [List.cons_append, join_cons piece (List.append_ne_nil_of_right_ne_nil more restFilled)]
      cases more with
      | nil => rfl
      | cons next others =>
          have later := List.cons_ne_nil next others
          rw [ih later, join_cons piece later, List.append_assoc, List.cons_append]

theorem join_eq_nil_iff {pieces : List (List Item)} (filled : ∀ piece ∈ pieces, piece ≠ []) :
    join separator pieces = [] ↔ pieces = [] := by
  cases pieces with
  | nil => exact iff_of_true rfl rfl
  | cons piece more =>
      refine iff_of_false (fun empty => ?_) (List.cons_ne_nil piece more)
      cases more with
      | nil => exact filled piece List.mem_cons_self empty
      | cons next rest =>
          rw [join] at empty
          · exact List.cons_ne_nil _ _ (List.append_eq_nil_iff.mp empty).2
          · exact List.cons_ne_nil next rest

section Dividing

variable [DecidableEq Item]

/-! ### At the first separator -/

theorem cut_append_cons {front : List Item} (clear : separator ∉ front) (rest : List Item) :
    cut separator (front ++ separator :: rest) = (front, some rest) := by
  induction front with
  | nil => simp [cut]
  | cons item front ih =>
      have different := List.ne_of_not_mem_cons clear
      have clearRest := List.not_mem_of_not_mem_cons clear
      rw [List.cons_append, cut, if_neg (Ne.symm different), ih clearRest]

theorem cut_of_not_mem {items : List Item} (clear : separator ∉ items) :
    cut separator items = (items, none) := by
  induction items with
  | nil => rfl
  | cons item rest ih =>
      have different := List.ne_of_not_mem_cons clear
      have clearRest := List.not_mem_of_not_mem_cons clear
      rw [cut, if_neg (Ne.symm different), ih clearRest]

theorem cut_subset (items : List Item) : (cut separator items).1 ⊆ items := by
  induction items with
  | nil => exact List.Subset.refl []
  | cons item rest ih =>
      rw [cut]
      split
      · exact List.nil_subset _
      · exact List.cons_subset_cons item ih

theorem append_cons_inj {front other : List Item} (clear : separator ∉ front)
    (otherClear : separator ∉ other) {rest otherRest : List Item} :
    front ++ separator :: rest = other ++ separator :: otherRest ↔
      front = other ∧ rest = otherRest := by
  constructor
  · intro same
    have divided := congrArg (cut separator) same
    rw [cut_append_cons clear, cut_append_cons otherClear] at divided
    exact ⟨congrArg Prod.fst divided, Option.some.inj (congrArg Prod.snd divided)⟩
  · rintro ⟨rfl, rfl⟩
    rfl

/-! ### At every separator -/

theorem split_of_not_mem {items : List Item} (clear : separator ∉ items) :
    split separator items = [items] := by
  induction items with
  | nil => rfl
  | cons item rest ih =>
      have different := List.ne_of_not_mem_cons clear
      have clearRest := List.not_mem_of_not_mem_cons clear
      rw [split, if_neg (Ne.symm different), ih clearRest]

theorem split_append_cons {piece : List Item} (clear : separator ∉ piece) (rest : List Item) :
    split separator (piece ++ separator :: rest) = piece :: split separator rest := by
  induction piece with
  | nil => simp [split]
  | cons item piece ih =>
      have different := List.ne_of_not_mem_cons clear
      have clearRest := List.not_mem_of_not_mem_cons clear
      rw [List.cons_append, split, if_neg (Ne.symm different), ih clearRest]

theorem split_append (front rest : List Item) :
    split separator (front ++ separator :: rest) =
      split separator front ++ split separator rest := by
  induction front with
  | nil => simp [split]
  | cons item front ih =>
      rw [List.cons_append, split, split, ih]
      split
      · rfl
      · cases pieces : split separator front with
        | nil => exact absurd pieces (split_ne_nil separator front)
        | cons piece more => rfl

theorem length_split (items : List Item) :
    (split separator items).length = items.count separator + 1 := by
  induction items with
  | nil => rfl
  | cons item rest ih =>
      rw [split]
      split
      · rename_i same
        rw [List.length_cons, ih, same, List.count_cons_self]
      · rename_i different
        rw [List.count_cons_of_ne different]
        cases pieces : split separator rest with
        | nil => exact absurd pieces (split_ne_nil separator rest)
        | cons piece more =>
            rw [pieces] at ih
            exact ih

theorem mem_of_mem_split {items piece : List Item} {item : Item}
    (present : piece ∈ split separator items) (inside : item ∈ piece) : item ∈ items := by
  induction items generalizing piece with
  | nil =>
      rw [List.mem_singleton.mp present] at inside
      cases inside
  | cons first rest ih =>
      rw [split] at present
      split at present
      · rcases List.mem_cons.mp present with empty | later
        · rw [empty] at inside
          cases inside
        · exact List.mem_cons_of_mem first (ih later inside)
      · cases pieces : split separator rest with
        | nil => exact absurd pieces (split_ne_nil separator rest)
        | cons other more =>
            rw [pieces] at present ih
            rcases List.mem_cons.mp present with same | later
            · rw [same] at inside
              rcases List.mem_cons.mp inside with here | beyond
              · exact here ▸ List.mem_cons_self
              · exact List.mem_cons_of_mem first (ih List.mem_cons_self beyond)
            · exact List.mem_cons_of_mem first (ih (List.mem_cons_of_mem other later) inside)

theorem not_mem_of_mem_split {items piece : List Item} (present : piece ∈ split separator items) :
    separator ∉ piece := by
  induction items generalizing piece with
  | nil =>
      rw [List.mem_singleton.mp present]
      exact List.not_mem_nil
  | cons item rest ih =>
      rw [split] at present
      split at present
      · rcases List.mem_cons.mp present with empty | later
        · rw [empty]
          exact List.not_mem_nil
        · exact ih later
      · rename_i different
        cases pieces : split separator rest with
        | nil => exact absurd pieces (split_ne_nil separator rest)
        | cons other more =>
            rw [pieces] at present ih
            rcases List.mem_cons.mp present with same | later
            · rw [same]
              exact List.not_mem_cons_of_ne_of_not_mem (Ne.symm different)
                (ih List.mem_cons_self)
            · exact ih (List.mem_cons_of_mem other later)

theorem split_join {pieces : List (List Item)} (nonempty : pieces ≠ [])
    (clear : ∀ piece ∈ pieces, separator ∉ piece) :
    split separator (join separator pieces) = pieces := by
  induction pieces with
  | nil => exact absurd rfl nonempty
  | cons piece more ih =>
      have here := clear piece List.mem_cons_self
      cases more with
      | nil => exact split_of_not_mem here
      | cons next rest =>
          have later := ih (List.cons_ne_nil next rest)
            (fun other member => clear other (List.mem_cons_of_mem piece member))
          rw [join, split_append_cons here, later]
          exact List.cons_ne_nil next rest

theorem join_inj {left right : List (List Item)} (leftNonempty : left ≠ [])
    (rightNonempty : right ≠ []) (leftClear : ∀ piece ∈ left, separator ∉ piece)
    (rightClear : ∀ piece ∈ right, separator ∉ piece) :
    join separator left = join separator right ↔ left = right := by
  constructor
  · intro same
    have divided := congrArg (split separator) same
    rwa [split_join leftNonempty leftClear, split_join rightNonempty rightClear] at divided
  · rintro rfl
    rfl

/-- Without empty pieces, no pieces at all can be told from one. -/
theorem join_inj_of_filled {left right : List (List Item)}
    (leftFilled : ∀ piece ∈ left, piece ≠ []) (rightFilled : ∀ piece ∈ right, piece ≠ [])
    (leftClear : ∀ piece ∈ left, separator ∉ piece)
    (rightClear : ∀ piece ∈ right, separator ∉ piece) :
    join separator left = join separator right ↔ left = right := by
  by_cases leftEmpty : left = []
  · rw [leftEmpty, join, eq_comm, join_eq_nil_iff rightFilled, eq_comm]
  · by_cases rightEmpty : right = []
    · rw [rightEmpty, join, join_eq_nil_iff leftFilled]
    · exact join_inj leftEmpty rightEmpty leftClear rightClear

end Dividing

/-! ### Joined texts -/

theorem intercalate_eq_join (separator : Item) (pieces : List (List Item)) :
    List.intercalate [separator] pieces = join separator pieces := by
  induction pieces with
  | nil => rfl
  | cons piece more ih =>
      cases more with
      | nil => simp [List.intercalate, join]
      | cons next rest =>
          rw [join, ← ih]
          · simp [List.intercalate]
          · exact List.cons_ne_nil next rest

theorem toList_joinText {separator : String} {mark : Char} (single : separator.toList = [mark])
    (pieces : List String) :
    (joinText separator pieces).toList = join mark (pieces.map String.toList) := by
  rw [joinText, String.toList_ofList, single, intercalate_eq_join]

/-- No pieces at all read back as one empty piece. -/
theorem split_joinText {separator : String} {mark : Char} (single : separator.toList = [mark])
    {pieces : List String} (clear : ∀ piece ∈ pieces, mark ∉ piece.toList) :
    (split mark (joinText separator pieces).toList).map String.ofList =
      if pieces = [] then [""] else pieces := by
  rw [toList_joinText single]
  split
  · rename_i empty
    rw [empty]
    rfl
  · rename_i nonempty
    rw [split_join (mt List.map_eq_nil_iff.mp nonempty), List.map_map]
    · exact (List.map_congr_left (fun piece _ => String.ofList_toList)).trans (List.map_id' pieces)
    · intro chars member
      obtain ⟨piece, present, same⟩ := List.mem_map.mp member
      exact same ▸ clear piece present

end SignedRest.Text
