/-
Trimmed text. A text whose ends are not blank is left as it stands, and what trimming leaves is such
a text; a change of case makes no character blank that was not.
-/

import SignedRest.Proofs.Text.LetterCase
import Mathlib.Data.List.TakeWhile

namespace SignedRest.Text

/-! ### Stripped lists -/

section Stripping

variable {Item : Type} {drops : Item → Bool} {items : List Item}

theorem stripWhere_eq_self (first : ∀ item, items.head? = some item → drops item = false)
    (last : ∀ item, items.getLast? = some item → drops item = false) :
    stripWhere drops items = items := by
  have kept : ∀ list : List Item, (∀ item, list.head? = some item → drops item = false) →
      list.dropWhile drops = list := by
    intro list head
    cases list with
    | nil => rfl
    | cons item rest =>
        exact List.dropWhile_cons_of_neg (by rw [head item rfl]; exact Bool.false_ne_true)
  rw [stripWhere, kept items first, kept items.reverse, List.reverse_reverse]
  intro item head
  rw [List.head?_reverse] at head
  exact last item head

theorem head?_dropWhile {item : Item} (first : (items.dropWhile drops).head? = some item) :
    drops item = false := by
  have stops := List.head?_dropWhile_not drops items
  rw [first] at stops
  exact stops

/-- What is stripped off the end is not what comes first. -/
theorem head?_stripWhere {item : Item} (first : (stripWhere drops items).head? = some item) :
    drops item = false := by
  have front : stripWhere drops items <+: items.dropWhile drops := by
    rw [← List.reverse_reverse (items.dropWhile drops), stripWhere, List.reverse_prefix]
    exact List.dropWhile_suffix drops
  obtain ⟨rest, whole⟩ := front
  have kept : (items.dropWhile drops).head? = some item := by
    rw [← whole, List.head?_append, first, Option.some_or]
  exact head?_dropWhile kept

theorem getLast?_stripWhere {item : Item} (last : (stripWhere drops items).getLast? = some item) :
    drops item = false := by
  rw [stripWhere, List.getLast?_reverse] at last
  exact head?_dropWhile last

theorem stripWhere_stripWhere :
    stripWhere drops (stripWhere drops items) = stripWhere drops items :=
  stripWhere_eq_self (fun _ first => head?_stripWhere first)
    (fun _ last => getLast?_stripWhere last)

theorem stripWhere_map {Other : Type} (change : Other → Item) (others : List Other) :
    stripWhere drops (others.map change) = (stripWhere (drops ∘ change) others).map change := by
  rw [stripWhere, stripWhere, List.dropWhile_map, ← List.map_reverse, List.dropWhile_map,
    List.map_reverse]

end Stripping

/-! ### Blank characters -/

theorem isBlank_of_range {c : Char} (low : 0x20 < c.toNat) (high : c.toNat < 0x7F) :
    isBlank c = false := by
  rw [← Bool.not_eq_true]
  intro blank
  simp only [isBlank, Bool.or_eq_true, Bool.and_eq_true, decide_eq_true_eq, beq_iff_eq] at blank
  omega

theorem isBlank_toLower (c : Char) : isBlank c.toLower = isBlank c := by
  by_cases letter : 65 ≤ c.toNat ∧ c.toNat ≤ 90
  · have lower : c.toLower.toNat = c.toNat + 32 := by rw [toNat_toLower, if_pos letter]
    rw [isBlank_of_range (by omega) (by omega), isBlank_of_range (by omega) (by omega)]
  · have kept : c.toLower = c := by rw [← Char.toNat_inj, toNat_toLower, if_neg letter]
    rw [kept]

/-! ### Trimmed texts -/

theorem trim_of_clear {text : String} (clear : ∀ c ∈ text.toList, isBlank c = false) :
    trim text = text := by
  rw [trim, stripWhere_eq_self, String.ofList_toList]
  · exact fun c first => clear c (List.mem_of_head? first)
  · exact fun c last => clear c (List.mem_of_getLast? last)

theorem trim_trim (text : String) : trim (trim text) = trim text := by
  rw [trim, trim, String.toList_ofList, stripWhere_stripWhere]

theorem trim_toLower (text : String) : trim text.toLower = (trim text).toLower := by
  have alike : isBlank ∘ Char.toLower = isBlank := funext isBlank_toLower
  rw [← String.toList_inj, toList_toLower, trim, trim, String.toList_ofList, String.toList_ofList,
    toList_toLower, stripWhere_map, alike]

theorem isBlankText_iff (text : String) : isBlankText text = true ↔ trim text = "" := by
  rw [isBlankText, trim, ← String.toList_inj, String.toList_ofList]
  change _ ↔ stripWhere isBlank text.toList = []
  rw [stripWhere, List.reverse_eq_nil_iff, List.dropWhile_eq_nil_iff, List.all_eq_true]
  constructor
  · intro blank c member
    exact blank c ((List.dropWhile_suffix isBlank).subset (List.mem_reverse.mp member))
  · intro blank
    cases left : text.toList.dropWhile isBlank with
    | nil => exact List.dropWhile_eq_nil_iff.mp left
    | cons c rest =>
        rw [left] at blank
        have white := blank c (List.mem_reverse.mpr List.mem_cons_self)
        have first := head?_dropWhile (congrArg List.head? left)
        rw [white] at first
        cases first

end SignedRest.Text
