/-
Upper and lower case of ASCII letters. All other characters stay as they are, so that blanks and
separators neither come nor go when the case of a text changes.
-/

import SignedRest.Text.Blank

namespace SignedRest.Text

/-! ### One character -/

theorem range_of_isLower {c : Char} (lower : c.isLower = true) :
    97 ≤ c.toNat ∧ c.toNat ≤ 122 := by
  have bounds := Bool.and_eq_true_iff.mp lower
  exact ⟨of_decide_eq_true bounds.1, of_decide_eq_true bounds.2⟩

theorem isAlphanum_iff (c : Char) :
    c.isAlphanum = true ↔ (48 ≤ c.toNat ∧ c.toNat ≤ 57) ∨ (65 ≤ c.toNat ∧ c.toNat ≤ 90) ∨
      (97 ≤ c.toNat ∧ c.toNat ≤ 122) := by
  have digit : c.isDigit = true ↔ 48 ≤ c.toNat ∧ c.toNat ≤ 57 :=
    Bool.and_eq_true_iff.trans (and_congr decide_eq_true_iff decide_eq_true_iff)
  have upper : c.isUpper = true ↔ 65 ≤ c.toNat ∧ c.toNat ≤ 90 := decide_eq_true_iff
  have lower : c.isLower = true ↔ 97 ≤ c.toNat ∧ c.toNat ≤ 122 :=
    Bool.and_eq_true_iff.trans (and_congr decide_eq_true_iff decide_eq_true_iff)
  change (c.isUpper || c.isLower || c.isDigit) = true ↔ _
  rw [Bool.or_eq_true, Bool.or_eq_true, digit, upper, lower]
  omega

theorem toNat_toLower (c : Char) :
    c.toLower.toNat = if 65 ≤ c.toNat ∧ c.toNat ≤ 90 then c.toNat + 32 else c.toNat := by
  by_cases upper : c.val ≥ 'A'.val ∧ c.val ≤ 'Z'.val
  · have range : 65 ≤ c.toNat ∧ c.toNat ≤ 90 := upper
    have lowered : c.toLower.val = c.val + 32 := congrArg Char.val (dif_pos upper)
    have size : c.toLower.toNat = (c.toNat + 32) % 2 ^ 32 := congrArg UInt32.toNat lowered
    rw [if_pos range, size, Nat.mod_eq_of_lt (by omega)]
  · have kept : c.toLower = c := dif_neg upper
    have outside : ¬ (65 ≤ c.toNat ∧ c.toNat ≤ 90) := upper
    rw [if_neg outside, kept]

/-- The case is changed by a sum that overflows. -/
theorem toNat_toUpper (c : Char) :
    c.toUpper.toNat = if 97 ≤ c.toNat ∧ c.toNat ≤ 122 then c.toNat - 32 else c.toNat := by
  by_cases lower : 'a'.val ≤ c.val ∧ c.val ≤ 'z'.val
  · have range : 97 ≤ c.toNat ∧ c.toNat ≤ 122 := lower
    have raised : c.toUpper.val = c.val + ('A'.val - 'a'.val) := by
      change Char.val (dite _ _ _) = _
      rw [dif_pos lower]
    have difference : ('A'.val - 'a'.val).toNat = 2 ^ 32 - 32 := by decide
    have size : c.toUpper.toNat = (c.toNat + (2 ^ 32 - 32)) % 2 ^ 32 := by
      rw [Char.toNat, raised, UInt32.toNat_add, difference]
      rfl
    rw [if_pos range, size]
    omega
  · have kept : c.toUpper = c := dif_neg lower
    have outside : ¬ (97 ≤ c.toNat ∧ c.toNat ≤ 122) := lower
    rw [if_neg outside, kept]

theorem char_toLower_toLower (c : Char) : c.toLower.toLower = c.toLower := by
  rw [← Char.toNat_inj, toNat_toLower, toNat_toLower]
  split
  · rw [if_neg (by omega)]
  · rfl

theorem char_toUpper_eq_iff (left right : Char) :
    left.toUpper = right.toUpper ↔ left.toLower = right.toLower := by
  rw [← Char.toNat_inj, ← Char.toNat_inj, toNat_toUpper, toNat_toUpper, toNat_toLower,
    toNat_toLower]
  split <;> split <;> split <;> split <;> omega

/-- Whatever is no letter of either case is not the other case of anything. -/
theorem eq_of_toLower_eq {c mark : Char} (low : mark.toNat < 65) (same : c.toLower = mark) :
    c = mark := by
  rw [← Char.toNat_inj, toNat_toLower] at same
  rw [← Char.toNat_inj]
  split at same <;> omega

theorem eq_of_toUpper_eq {c mark : Char} (low : mark.toNat < 65) (same : c.toUpper = mark) :
    c = mark := by
  rw [← Char.toNat_inj, toNat_toUpper] at same
  rw [← Char.toNat_inj]
  split at same <;> omega

/-! ### Whole texts -/

theorem toList_toLower (text : String) : text.toLower.toList = text.toList.map Char.toLower :=
  String.toList_map

theorem toList_toUpper (text : String) : text.toUpper.toList = text.toList.map Char.toUpper :=
  String.toList_map

theorem toLower_eq_self {text : String} (lower : text.toList.map Char.toLower = text.toList) :
    text.toLower = text := by
  rw [← String.toList_inj, toList_toLower, lower]

theorem toLower_toLower (text : String) : text.toLower.toLower = text.toLower := by
  rw [← String.toList_inj, toList_toLower, toList_toLower, List.map_map]
  exact List.map_congr_left (fun c _ => char_toLower_toLower c)

theorem toUpper_eq_iff (left right : String) :
    left.toUpper = right.toUpper ↔ left.toLower = right.toLower := by
  have pointwise : ∀ chars other : List Char,
      chars.map Char.toUpper = other.map Char.toUpper ↔
        chars.map Char.toLower = other.map Char.toLower := by
    intro chars
    induction chars with
    | nil =>
        intro other
        rw [List.map_nil, List.map_nil, List.nil_eq, List.nil_eq, List.map_eq_nil_iff,
          List.map_eq_nil_iff]
    | cons first rest ih =>
        intro other
        cases other with
        | nil => simp
        | cons next more =>
            rw [List.map_cons, List.map_cons, List.map_cons, List.map_cons, List.cons.injEq,
              List.cons.injEq, char_toUpper_eq_iff, ih more]
  rw [← String.toList_inj, ← String.toList_inj, toList_toUpper, toList_toUpper, toList_toLower,
    toList_toLower]
  exact pointwise left.toList right.toList

theorem mem_toUpper {text : String} {mark : Char} (low : mark.toNat < 65)
    (member : mark ∈ text.toUpper.toList) : mark ∈ text.toList := by
  rw [toList_toUpper] at member
  obtain ⟨c, present, same⟩ := List.mem_map.mp member
  exact eq_of_toUpper_eq low same ▸ present

theorem mem_toLower {text : String} {mark : Char} (low : mark.toNat < 65)
    (member : mark ∈ text.toLower.toList) : mark ∈ text.toList := by
  rw [toList_toLower] at member
  obtain ⟨c, present, same⟩ := List.mem_map.mp member
  exact eq_of_toLower_eq low same ▸ present

end SignedRest.Text
