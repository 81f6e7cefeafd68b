/-
Steps that can fail. Steps one after another succeed only if each of them does, and a check that is
passed leaves no trace.
-/

namespace SignedRest.Result

variable {Cause First Last : Type}

theorem map_eq_ok_iff {result : Except Cause First} {next : First → Last} {value : Last} :
    result.map next = .ok value ↔ ∃ first, result = .ok first ∧ next first = value := by
  cases result with
  | error cause =>
      exact iff_of_false (fun impossible => nomatch impossible)
        (fun ⟨_, impossible, _⟩ => nomatch impossible)
  | ok first =>
      rw [Except.map, Except.ok.injEq]
      constructor
      · intro same
        exact ⟨first, rfl, same⟩
      · rintro ⟨other, same, rfl⟩
        rw [Except.ok.inj same]

theorem ok_of_bind {first : Except Cause First} {next : First → Except Cause Last} {value : Last}
    (answers : (first >>= next) = .ok value) :
    ∃ middle, first = .ok middle ∧ next middle = .ok value := by
  cases first with
  | error cause => cases answers
  | ok middle => exact ⟨middle, rfl, answers⟩

theorem ok_of_refusal {condition : Prop} [Decidable condition] {cause : Cause}
    {next : PUnit → Except Cause Last} {value : Last}
    (answers : (if condition then (throw cause : Except Cause PUnit) >>= next else next ()) =
      .ok value) : next () = .ok value := by
  split at answers
  · cases answers
  · exact answers

theorem ok_of_toOption {result : Except Cause Last} {value : Last}
    (found : result.toOption = some value) : result = .ok value := by
  cases result with
  | error cause => cases found
  | ok other => exact congrArg _ (Option.some.inj found)

/-- Where each step succeeds, all of them do. -/
theorem mapM_eq_map {Item Found : Type} {read : Item → Option Found} {meaning : Item → Found}
    {items : List Item} (told : ∀ item ∈ items, read item = some (meaning item)) :
    items.mapM read = some (items.map meaning) := by
  induction items with
  | nil => rfl
  | cons item rest ih =>
      obtain ⟨here, later⟩ := List.forall_mem_cons.mp told
      rw [List.mapM_cons, here, ih later]
      rfl

end SignedRest.Result
