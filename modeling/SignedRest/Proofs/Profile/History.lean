/-
What a file of profiles holds follows from what was done with it. It is a map from names to
profiles, in the order in which they were written last; a row of operations is followed event by
event.
-/

import SignedRest.Proofs.Profile.Safety

namespace SignedRest.ProfileStore

namespace Event

/-! ### What an event did -/

def changed? (event : Event) : Option String :=
  if event.answer.isOk then event.operation.subject? else none

def written? (event : Event) : Option Profile :=
  if event.answer.isOk then event.operation.profile? else none

theorem changed?_written? {event : Event} {profile : Profile}
    (written : event.written? = some profile) : event.changed? = some profile.name := by
  rw [written?] at written
  split at written
  · rename_i works
    rw [changed?, if_pos works]
    exact Operation.subject?_profile? written
  · cases written

theorem changed?_error (operation : Operation) (error : Error) :
    changed? ⟨operation, .error error⟩ = none := rfl

theorem changed?_ok (operation : Operation) (answer : Answer) :
    changed? ⟨operation, .ok answer⟩ = operation.subject? := rfl

theorem written?_of_changed?_none {event : Event} (unchanged : event.changed? = none) :
    event.written? = none := by
  cases written : event.written? with
  | none => rfl
  | some profile => cases unchanged.symm.trans (changed?_written? written)

end Event

/-! ### What a history says -/

/-- The profile that was last written under a name, unless it was removed since. -/
def current? (name : String) (events : List Event) : Option Profile :=
  (events.reverse.find? (fun event => event.changed? = some name)).bind Event.written?

/-- The profiles that were written and neither replaced nor removed since, in the order of the
events that wrote them. -/
def kept : List Event → List Profile
  | [] => []
  | event :: later =>
      match event.written? with
      | some profile =>
          if later.any (fun other => other.changed? = some profile.name) then kept later
          else profile :: kept later
      | none => kept later

theorem current?_concat (name : String) (events : List Event) (event : Event) :
    current? name (events ++ [event]) =
      if event.changed? = some name then event.written? else current? name events := by
  rw [current?, List.reverse_append, List.reverse_singleton, List.singleton_append,
    List.find?_cons]
  by_cases changes : event.changed? = some name
  · rw [decide_eq_true changes, if_pos changes]
    rfl
  · rw [decide_eq_false changes, if_neg changes]
    rfl

theorem kept_concat (events : List Event) (event : Event) :
    kept (events ++ [event]) =
      (kept events).filter (fun profile => event.changed? ≠ some profile.name) ++
        event.written?.toList := by
  induction events with
  | nil =>
      have single : kept [event] = event.written?.toList := by
        unfold kept
        cases event.written? with
        | none => rfl
        | some profile => rfl
      rw [List.nil_append, single]
      rfl
  | cons first later ih =>
      rw [List.cons_append, kept, kept]
      cases written : first.written? with
      | none => exact ih
      | some profile =>
          dsimp only
          -- What `first` wrote is gone if it was replaced, and goes now if `event` is about it.
          rw [List.any_append, List.any_cons, List.any_nil, Bool.or_false]
          by_cases replaced : later.any (fun other => other.changed? = some profile.name) = true
          · rw [replaced, Bool.true_or, if_pos rfl, if_pos rfl, ih]
          · rw [Bool.eq_false_iff.mpr replaced, Bool.false_or, if_neg Bool.false_ne_true]
            by_cases changes : event.changed? = some profile.name
            · rw [if_pos (decide_eq_true changes), ih, List.filter_cons_of_neg]
              simpa using changes
            · rw [if_neg (by simpa using changes), ih, List.filter_cons_of_pos]
              · rfl
              · simpa using changes

theorem find?_others (changed : Option String) (name : String) (profiles : List Profile) :
    (profiles.filter (fun profile => changed ≠ some profile.name)).find?
        (fun profile => profile.name = name) =
      if changed = some name then none
      else profiles.find? (fun profile => profile.name = name) := by
  rw [List.find?_filter]
  by_cases changes : changed = some name
  · rw [if_pos changes, List.find?_eq_none]
    intro profile _ both
    obtain ⟨other, same⟩ := of_decide_eq_true both
    exact of_decide_eq_true other (changes.trans (congrArg some (of_decide_eq_true same).symm))
  · rw [if_neg changes]
    refine congrArg (List.find? · profiles) (funext fun profile => ?_)
    by_cases same : profile.name = name
    · simp [same, changes]
    · simp [same]

theorem find?_kept (name : String) (events : List Event) :
    (kept events).find? (fun profile => profile.name = name) = current? name events := by
  -- By induction on the last event, where the search of `current?` begins.
  rw [← List.reverse_reverse events]
  induction events.reverse with
  | nil => rfl
  | cons event earlier ih =>
      rw [List.reverse_cons, kept_concat, current?_concat, List.find?_append, find?_others, ih]
      cases written : event.written? with
      | none =>
          rw [Option.toList_none, List.find?_nil, Option.or_none]
      | some profile =>
          have own := Event.changed?_written? written
          rw [Option.toList_some, List.find?_singleton]
          by_cases same : profile.name = name
          · have changes : event.changed? = some name := own.trans (congrArg some same)
            rw [if_pos changes, if_pos changes, Option.none_or, if_pos (decide_eq_true same)]
          · have unchanged : event.changed? ≠ some name := fun changes =>
              same (Option.some.inj (own.symm.trans changes))
            rw [if_neg unchanged, if_neg unchanged, if_neg (by simpa using same), Option.or_none]

theorem kept_distinct (events : List Event) : ((kept events).map Profile.name).Nodup := by
  rw [← List.reverse_reverse events]
  induction events.reverse with
  | nil => exact List.nodup_nil
  | cons event earlier ih =>
      rw [List.reverse_cons, kept_concat, List.map_append, List.nodup_append]
      have others := ih.sublist (List.filter_sublist.map Profile.name :
        (((kept earlier.reverse).filter
          (fun profile => event.changed? ≠ some profile.name)).map Profile.name).Sublist _)
      refine ⟨others, ?_, ?_⟩
      · cases event.written? with
        | none => exact List.nodup_nil
        | some profile => exact List.nodup_cons.mpr ⟨List.not_mem_nil, List.nodup_nil⟩
      · intro name old other new same
        obtain ⟨profile, inside, rfl⟩ := List.mem_map.mp old
        obtain ⟨written, member, rfl⟩ := List.mem_map.mp new
        have own := Event.changed?_written? (Option.mem_toList.mp member)
        have kept := of_decide_eq_true (List.mem_filter.mp inside).2
        exact kept (own.trans (congrArg some same.symm))

theorem kept_concat_unchanged (events : List Event) {event : Event}
    (unchanged : event.changed? = none) : kept (events ++ [event]) = kept events := by
  rw [kept_concat, Event.written?_of_changed?_none unchanged, unchanged, Option.toList_none,
    List.append_nil]
  exact List.filter_eq_self.mpr (fun _ _ => rfl)

/-! ### Operations in a row -/

/-- The place can hold a file, and what is loaded from it is what the events kept. -/
structure Holds (events : List Event) (store : ProfileStore) : Prop where
  place : store.IsOpen
  loads : store.load = .ok ⟨ProfileList.supportedVersion, kept events⟩

variable {events : List Event} {store : ProfileStore} {writer : ProfileList.Writer}
variable {operation : Operation}

theorem holds_absent : Holds [] absent := ⟨trivial, rfl⟩

theorem Holds.unchanged (holds : Holds events store) {event : Event}
    (unchanged : event.changed? = none) : Holds (events ++ [event]) store := by
  refine ⟨holds.place, ?_⟩
  rw [kept_concat_unchanged events unchanged]
  exact holds.loads

theorem Holds.edited (holds : Holds events store) {name : String}
    (subject : operation.subject? = some name) (fits : operation.Fits) {profiles : List Profile}
    (edits : operation.edit (kept events) = .ok profiles) (answer : Answer) :
    Holds (events ++ [⟨operation, .ok answer⟩])
      (⟨ProfileList.supportedVersion, profiles⟩ : ProfileList).file := by
  refine ⟨trivial, ?_⟩
  -- The edit takes away by name what `kept_concat` takes away by the subject of the event.
  have others : (fun profile : Profile => decide (profile.name ≠ name)) =
      fun profile => decide (operation.subject? ≠ some profile.name) := by
    rw [subject]
    funext profile
    simp [eq_comm]
  rw [Operation.load_edited subject holds.loads edits fits, kept_concat, Event.changed?_ok,
    Operation.edit_eq subject edits, others]
  rfl

theorem Holds.step (holds : Holds events store) (writer : ProfileList.Writer)
    (fits : operation.Fits) :
    Holds (events ++ [⟨operation, (operation.perform writer).answer store⟩])
      ((operation.perform writer).after store) := by
  obtain ⟨error, failed⟩ | ⟨reading, answer, done⟩ |
      ⟨name, list, profiles, subject, loads, edits, done⟩ :=
    Operation.perform_cases operation writer store
  · rw [Work.answer_error failed, Work.after_error failed]
    exact holds.unchanged (Event.changed?_error operation error)
  · rw [Work.answer_ok done, Work.after_ok done]
    exact holds.unchanged reading
  · obtain rfl := Except.ok.inj (holds.loads.symm.trans loads)
    rw [Work.answer_ok done, Work.after_ok done]
    exact holds.edited subject fits edits .done

theorem Holds.run (holds : Holds events store) (writer : ProfileList.Writer)
    {operations : List Operation} (fits : ∀ operation ∈ operations, operation.Fits) :
    Holds (events ++ (run writer operations store).1) (run writer operations store).2 := by
  induction operations generalizing events store with
  | nil =>
      rw [ProfileStore.run, List.append_nil]
      exact holds
  | cons operation others ih =>
      have first := holds.step writer (fits operation List.mem_cons_self)
      have rest := ih first (fun other member => fits other (List.mem_cons_of_mem _ member))
      rw [List.append_assoc, List.singleton_append] at rest
      exact rest

/-! ### Single operations -/

theorem any_kept (name : String) (events : List Event) :
    (kept events).any (fun profile => profile.name = name) = (current? name events).isSome := by
  rw [← find?_kept, List.isSome_find?]

theorem Holds.get (holds : Holds events store) (name : String) :
    (Work.get name).answer store =
      match current? name events with
      | some profile => .ok profile
      | none => .error (.profileNotFound name) := by
  have found := find?_kept name events
  cases current : current? name events with
  | some profile => exact Work.answer_ok (Work.get_some holds.loads (found.trans current))
  | none => exact Work.answer_error (Work.get_none holds.loads (found.trans current))

theorem Holds.contains (holds : Holds events store) (name : String) :
    (Work.contains name).answer store = .ok ((Work.get name).answer store).isOk := by
  rw [Work.answer_ok (Work.contains_ok holds.loads name), any_kept, holds.get]
  cases current? name events with
  | some profile => rfl
  | none => rfl

theorem Holds.add (holds : Holds events store) (writer : ProfileList.Writer) (profile : Profile) :
    (Work.add writer profile).answer store = .error (.profileExists profile.name) ↔
      (current? profile.name events).isSome := by
  rw [← any_kept]
  cases named : (kept events).any (fun other => other.name = profile.name) with
  | true =>
      have edits : added profile (kept events) = .error (.profileExists profile.name) := by
        rw [added, if_pos named]
      exact iff_of_true (Work.answer_error (Work.change_refused holds.loads edits)) rfl
  | false =>
      have edits : added profile (kept events) = .ok (kept events ++ [profile]) := by
        rw [added, named, if_neg Bool.false_ne_true]
      have other : Error.profileExists profile.name ≠ .profileOutput := Error.noConfusion
      exact iff_of_false (Work.change_answer_ne holds.place holds.loads edits other)
        Bool.false_ne_true

theorem Holds.remove (holds : Holds events store) (writer : ProfileList.Writer) (name : String) :
    (Work.remove writer name).answer store = .error (.profileNotFound name) ↔
      current? name events = none := by
  have missing : ((kept events).filter (fun other => other.name ≠ name)).length =
      (kept events).length ↔ current? name events = none := by
    rw [List.length_filter_eq_length_iff, ← find?_kept, List.find?_eq_none]
    simp
  by_cases same : ((kept events).filter (fun other => other.name ≠ name)).length =
      (kept events).length
  · have edits : removed name (kept events) = .error (.profileNotFound name) := by
      rw [removed, if_pos same]
    exact iff_of_true (Work.answer_error (Work.change_refused holds.loads edits))
      (missing.mp same)
  · have edits : removed name (kept events) =
        .ok ((kept events).filter (fun other => other.name ≠ name)) := by
      rw [removed, if_neg same]
    have other : Error.profileNotFound name ≠ .profileOutput := Error.noConfusion
    exact iff_of_false (Work.change_answer_ne holds.place holds.loads edits other)
      (fun gone => same (missing.mpr gone))

theorem Holds.set (holds : Holds events store) (writer : ProfileList.Writer) {profile : Profile}
    (fits : profile.Fits) (works : (Work.set writer profile).answer store = .ok ()) :
    Work.list.answer ((Work.set writer profile).after store) =
      .ok ((kept events).filter (fun other => other.name ≠ profile.name) ++ [profile]) := by
  obtain ⟨list, profiles, loads, edits, done⟩ | ⟨error, failed⟩ :=
    Work.change_cases writer (replaced profile) store
  · obtain rfl := Except.ok.inj (holds.loads.symm.trans loads)
    obtain rfl := Except.ok.inj edits
    have fitting : Operation.Fits (.set profile) := fun other same => Option.some.inj same ▸ fits
    have after := Work.after_ok done
    have replaces : Operation.edit (.set profile) (kept events) = .ok _ := edits
    have reads := Operation.load_edited rfl loads replaces fitting
    rw [Work.set, after, Work.answer_ok (Work.list_ok reads)]
  · cases works.symm.trans (Work.answer_error failed)

theorem Holds.change (holds : Holds events store) (writer : ProfileList.Writer)
    (writing : operation.subject? ≠ none) {profiles : List Profile}
    (edits : operation.edit (kept events) = .ok profiles) :
    (operation.perform writer).answer store =
      match writer.text? ⟨ProfileList.supportedVersion, profiles⟩ with
      | some _ => .ok .done
      | none => .error .profileOutput := by
  obtain ⟨name, subject⟩ := Option.ne_none_iff_exists'.mp writing
  rw [Operation.perform_change subject, Work.answer_return,
    Work.change_answer holds.place holds.loads edits]
  cases writer.text? ⟨ProfileList.supportedVersion, profiles⟩ with
  | some text => rfl
  | none => rfl

/-! ### A map in the order of writing -/

/-- What the operations do to a file with a history. -/
structure Follows (writer : ProfileList.Writer) (events : List Event) (store : ProfileStore) :
    Prop where
  list : Work.list.answer store = .ok (kept events)
  distinct : ((kept events).map Profile.name).Nodup
  /-- A name stands for the profile that was last written under it, unless it was removed. -/
  get : ∀ name, (Work.get name).answer store =
    match current? name events with
    | some profile => .ok profile
    | none => .error (.profileNotFound name)
  contains : ∀ name, (Work.contains name).answer store = .ok ((Work.get name).answer store).isOk
  add : ∀ profile, (Work.add writer profile).answer store =
      .error (.profileExists profile.name) ↔ (current? profile.name events).isSome
  remove : ∀ name, (Work.remove writer name).answer store = .error (.profileNotFound name) ↔
    current? name events = none
  set : ∀ profile, profile.Fits → (Work.set writer profile).answer store = .ok () →
    Work.list.answer ((Work.set writer profile).after store) =
      .ok ((kept events).filter (fun other => other.name ≠ profile.name) ++ [profile])
  /-- A change that is not refused is made unless the writer refuses the list. -/
  change : ∀ (operation : Operation) profiles, operation.subject? ≠ none →
    operation.edit (kept events) = .ok profiles →
      (operation.perform writer).answer store =
        match writer.text? ⟨ProfileList.supportedVersion, profiles⟩ with
        | some _ => .ok .done
        | none => .error .profileOutput
  failure : ∀ (operation : Operation) error,
    (operation.perform writer).answer store = .error error →
      (operation.perform writer).after store = store

theorem Holds.follows (holds : Holds events store) (writer : ProfileList.Writer) :
    Follows writer events store where
  list := Work.answer_ok (Work.list_ok holds.loads)
  distinct := kept_distinct events
  get := holds.get
  contains := holds.contains
  add := holds.add writer
  remove := holds.remove writer
  set := fun _ fits works => holds.set writer fits works
  change := fun _ _ writing edits => holds.change writer writing edits
  failure := fun _ _ failed => Operation.perform_failure failed

/-- After any row of operations, beginning where there is no file. -/
theorem run_follows (writer : ProfileList.Writer) (operations : List Operation)
    (fits : ∀ operation ∈ operations, operation.Fits) :
    Follows writer (run writer operations absent).1 (run writer operations absent).2 :=
  (holds_absent.run writer fits).follows writer

/-- Two profiles are added, one is removed and added again, and the other one is replaced. -/
theorem run_follows_reordering :
    let operations : List Operation :=
      [.add ⟨"a", "", "", none, "", .http, none, none⟩, .add Operation.newcomer, .remove "a",
        .remove "a", .add ⟨"a", "", "", none, "", .https, none, none⟩, .set Operation.newcomer]
    Follows .full (run .full operations absent).1 (run .full operations absent).2 := by
  refine run_follows .full _ ?_
  have plain : ∀ operation : Operation, operation.profile?.bind Profile.timeout = none →
      operation.Fits := by
    intro operation untimed profile written timeout given
    rw [written, Option.bind_some, given] at untimed
    cases untimed
  intro operation member
  simp only [List.mem_cons, List.not_mem_nil, or_false] at member
  rcases member with rfl | rfl | rfl | rfl | rfl | rfl
  · exact plain _ rfl
  · exact fun profile same => Option.some.inj same ▸ Operation.newcomer_fits
  · exact plain _ rfl
  · exact plain _ rfl
  · exact plain _ rfl
  · exact fun profile same => Option.some.inj same ▸ Operation.newcomer_fits

end SignedRest.ProfileStore
