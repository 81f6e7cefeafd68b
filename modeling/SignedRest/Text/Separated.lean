/-
Lists divided at a separator. `split` never answers with the empty list: a list without the
separator is one piece. Joining the pieces gives the list back.
-/

namespace SignedRest.Text

variable {Item : Type} [DecidableEq Item]

def split (separator : Item) : List Item → List (List Item)
  | [] => [[]]
  | item :: rest =>
      if item = separator then [] :: split separator rest
      else match split separator rest with
        | [] => [[item]]
        | piece :: more => (item :: piece) :: more

def join (separator : Item) : List (List Item) → List Item
  | [] => []
  | [piece] => piece
  | piece :: more => piece ++ separator :: join separator more

/-- The part before the first separator, and the part after it if there is one. -/
def cut (separator : Item) : List Item → List Item × Option (List Item)
  | [] => ([], none)
  | item :: rest =>
      if item = separator then ([], some rest)
      else ((item :: (cut separator rest).1), (cut separator rest).2)

theorem split_ne_nil (separator : Item) (items : List Item) : split separator items ≠ [] := by
  cases items with
  | nil => simp [split]
  | cons item rest =>
      rw [split]
      split
      · simp
      · split <;> simp

theorem join_split (separator : Item) (items : List Item) :
    join separator (split separator items) = items := by
  induction items with
  | nil => rfl
  | cons item rest ih =>
      rw [split]
      split
      · rename_i same
        cases pieces : split separator rest with
        | nil => exact absurd pieces (split_ne_nil separator rest)
        | cons piece more =>
            rw [pieces] at ih
            rw [join, ih, same, List.nil_append]
            simp
      · cases pieces : split separator rest with
        | nil => exact absurd pieces (split_ne_nil separator rest)
        | cons piece more =>
            rw [pieces] at ih
            cases more <;> simp_all [join]

/-- Text pieces with a separating text between them. -/
def joinText (separator : String) (pieces : List String) : String :=
  String.ofList (List.intercalate separator.toList (pieces.map String.toList))

def splitText (separator : Char) (text : String) : List String :=
  (split separator text.toList).map String.ofList

end SignedRest.Text
