/-
How much of a body is read. The sizes in which it arrives do not matter: reading gives the bytes up
to the limit, and fails only where the body ends before the limit and breaks off there.
-/

import SignedRest.Reply

namespace SignedRest.Body

theorem portion_le_room (body : Body) (room : Nat) : body.portion room ≤ room := by
  rw [portion]
  split <;> omega

theorem portion_le_length (body : Body) (room : Nat) :
    body.portion room ≤ body.content.length := by
  rw [portion]
  exact Nat.min_le_right _ _

theorem readUpTo_eq (body : Body) (limit : Nat) :
    body.readUpTo limit =
      ⟨body.content.take limit, decide (limit ≤ body.content.length) || !body.breaksOff⟩ := by
  induction limit using Nat.strongRecOn generalizing body with
  | ind limit ih =>
      rw [readUpTo]
      by_cases none : limit = 0
      · rw [if_pos none, none, List.take_zero, decide_eq_true (Nat.zero_le _), Bool.true_or]
      · rw [if_neg none]
        by_cases empty : body.content.length = 0
        · have nothing : body.content = [] := List.length_eq_zero_iff.mp empty
          rw [if_pos empty, empty, nothing, List.take_nil, decide_eq_false (by omega),
            Bool.false_or]
        · have advances := portion_pos none empty
          have fits := portion_le_room body limit
          have present := portion_le_length body limit
          have whole : body.portion limit + (limit - body.portion limit) = limit := by omega
          have shorter : limit - body.portion limit ≤
              (body.advance (body.portion limit)).content.length ↔
                limit ≤ body.content.length := by
            rw [content_advance, List.length_drop]
            omega
          have later := ih (limit - body.portion limit) (by omega)
            (body.advance (body.portion limit))
          rw [if_neg empty]
          dsimp only
          rw [later, decide_eq_decide.mpr shorter, content_advance, breaksOff_advance,
            ← List.take_add, whole]

theorem readAll_eq (body : Body) : body.readAll = ⟨body.content, !body.breaksOff⟩ := by
  rw [readAll, readUpTo_eq, List.take_of_length_le (by omega), decide_eq_false (by omega),
    Bool.false_or]

end SignedRest.Body
