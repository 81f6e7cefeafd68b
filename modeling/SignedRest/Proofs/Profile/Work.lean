/-
What work on the file of profiles does. Work that fails leaves the place of the file as it was, and
only a list that is saved in the end changes it.
-/

import SignedRest.Profile.Store

namespace SignedRest

/-- The file that a list is saved as. -/
def ProfileList.file (list : ProfileList) : ProfileStore :=
  .file (Utf8.encodeText list.toText) true

namespace ProfileStore

/-- A file can be at the place. -/
def IsOpen : ProfileStore → Prop
  | absent | file _ _ => True
  | directory | unreachable => False

instance : (store : ProfileStore) → Decidable store.IsOpen
  | absent | file _ _ => .isTrue trivial
  | directory | unreachable => .isFalse id

namespace Work

/-! ### Work in a row -/

section

variable {Value More : Type} {work : Work Value} {next : Value → Work More}
variable {store left : ProfileStore} {value : Value} {error : Error}

theorem bind_ok (done : work store = .ok value left) : (work >>= next) store = next value left := by
  change EStateM.bind work next store = _
  rw [EStateM.bind, done]

theorem bind_error (failed : work store = .error error left) :
    (work >>= next) store = .error error left := by
  change EStateM.bind work next store = _
  rw [EStateM.bind, failed]

theorem answer_ok (done : work store = .ok value left) : work.answer store = .ok value := by
  rw [answer, done]

theorem answer_error (failed : work store = .error error left) :
    work.answer store = .error error := by
  rw [answer, failed]

theorem after_ok (done : work store = .ok value left) : work.after store = left := by
  rw [after, done]

theorem after_error (failed : work store = .error error left) : work.after store = left := by
  rw [after, failed]

theorem answer_return (work : Work Value) (result : More) (store : ProfileStore) :
    (do let _ ← work; return result : Work More).answer store =
      (work.answer store).map (fun _ => result) := by
  cases done : work store with
  | ok value left =>
      have whole : (do let _ ← work; return result : Work More) store = .ok result left :=
        bind_ok done
      rw [answer_ok done, answer_ok whole]
      rfl
  | error error left =>
      rw [answer_error done, answer_error (bind_error done)]
      rfl

end

/-! ### Loading and saving -/

variable {store : ProfileStore} {list : ProfileList} {error : Error}
variable {writer : ProfileList.Writer}

theorem load_ok (loads : store.load = .ok list) : load store = .ok list store := by
  change (ofExcept store.load : Work ProfileList) store = _
  rw [loads]
  rfl

theorem load_error (fails : store.load = .error error) : load store = .error error store := by
  change (ofExcept store.load : Work ProfileList) store = _
  rw [fails]
  rfl

theorem write_makePrivate (place : store.IsOpen) (content : Bytes) :
    (do write content; makePrivate : Work Unit) store = .ok () (file content true) := by
  cases store with
  | absent => rfl
  | file before isPrivate => rfl
  | directory => exact place.elim
  | unreachable => exact place.elim

theorem makeDirectory_ok (place : store.IsOpen) : makeDirectory store = .ok () store := by
  cases store with
  | absent => rfl
  | file content isPrivate => rfl
  | directory => exact place.elim
  | unreachable => exact place.elim

theorem save_ok (place : store.IsOpen) {text : String} (written : writer.text? list = some text) :
    save writer list store = .ok () list.file := by
  rw [save, bind_ok (makeDirectory_ok place), written, ProfileList.file,
    ← writer.text?_eq written]
  exact write_makePrivate place _

theorem save_refused (place : store.IsOpen) (refused : writer.text? list = none) :
    save writer list store = .error .profileOutput store := by
  rw [save, bind_ok (makeDirectory_ok place), refused]
  rfl

theorem save_closed (place : ¬ store.IsOpen) :
    ∃ error, save writer list store = .error error store := by
  cases store with
  | absent => exact absurd trivial place
  | file content isPrivate => exact absurd trivial place
  | unreachable => exact ⟨_, bind_error rfl⟩
  | directory =>
      have made : makeDirectory directory = .ok () directory := rfl
      cases written : writer.text? list with
      | none => exact ⟨.profileOutput, by rw [save, bind_ok made, written]; rfl⟩
      | some text =>
          refine ⟨.stream "is a directory", ?_⟩
          rw [save, bind_ok made, written]
          exact bind_error rfl

theorem save_cases (writer : ProfileList.Writer) (list : ProfileList) (store : ProfileStore) :
    (store.IsOpen ∧ save writer list store = .ok () list.file) ∨
      ∃ error, save writer list store = .error error store := by
  by_cases place : store.IsOpen
  · cases written : writer.text? list with
    | some text => exact Or.inl ⟨place, save_ok place written⟩
    | none => exact Or.inr ⟨_, save_refused place written⟩
  · exact Or.inr (save_closed place)

/-! ### Operations -/

theorem list_ok (loads : store.load = .ok list) : Work.list store = .ok list.profiles store := by
  rw [Work.list, bind_ok (load_ok loads)]
  rfl

theorem get_some (loads : store.load = .ok list) {name : String} {profile : Profile}
    (found : list.profiles.find? (fun other => other.name = name) = some profile) :
    get name store = .ok profile store := by
  rw [get, bind_ok (load_ok loads), found]
  rfl

theorem get_none (loads : store.load = .ok list) {name : String}
    (missing : list.profiles.find? (fun other => other.name = name) = none) :
    get name store = .error (.profileNotFound name) store := by
  rw [get, bind_ok (load_ok loads), missing]
  rfl

theorem contains_ok (loads : store.load = .ok list) (name : String) :
    contains name store =
      .ok (list.profiles.any (fun profile => profile.name = name)) store := by
  rw [contains, bind_ok (load_ok loads)]
  rfl

variable {edit : List Profile → Result (List Profile)} {profiles : List Profile}

theorem change_ok (loads : store.load = .ok list) (edits : edit list.profiles = .ok profiles) :
    change writer edit store = save writer { list with profiles } store := by
  have edited : (ofExcept (edit list.profiles) : Work (List Profile)) store =
      .ok profiles store := by
    rw [edits]
    rfl
  rw [change, bind_ok (load_ok loads), bind_ok edited]

theorem change_refused (loads : store.load = .ok list) (fails : edit list.profiles = .error error) :
    change writer edit store = .error error store := by
  have refused : (ofExcept (edit list.profiles) : Work (List Profile)) store =
      .error error store := by
    rw [fails]
    rfl
  rw [change, bind_ok (load_ok loads), bind_error refused]

theorem change_answer (place : store.IsOpen) (loads : store.load = .ok list)
    (edits : edit list.profiles = .ok profiles) :
    (change writer edit).answer store =
      match writer.text? { list with profiles } with
      | some _ => .ok ()
      | none => .error .profileOutput := by
  cases written : writer.text? { list with profiles } with
  | some text => exact answer_ok ((change_ok loads edits).trans (save_ok place written))
  | none => exact answer_error ((change_ok loads edits).trans (save_refused place written))

theorem change_answer_ne (place : store.IsOpen) (loads : store.load = .ok list)
    (edits : edit list.profiles = .ok profiles) (other : error ≠ .profileOutput) :
    (change writer edit).answer store ≠ .error error := by
  rw [change_answer place loads edits]
  split
  · intro same
    cases same
  · intro same
    exact other (Except.error.inj same).symm

/-- A change is done in full or not at all: either all of it worked, or the place is as it was. -/
theorem change_cases (writer : ProfileList.Writer) (edit : List Profile → Result (List Profile))
    (store : ProfileStore) :
    (∃ list profiles, store.load = .ok list ∧ edit list.profiles = .ok profiles ∧
      change writer edit store = .ok () ({ list with profiles } : ProfileList).file) ∨
      ∃ error, change writer edit store = .error error store := by
  cases loads : store.load with
  | error error => exact Or.inr ⟨error, bind_error (load_error loads)⟩
  | ok list =>
      cases edits : edit list.profiles with
      | error error => exact Or.inr ⟨error, change_refused loads edits⟩
      | ok profiles =>
          have saves : change writer edit store = save writer { list with profiles } store :=
            change_ok loads edits
          obtain ⟨place, saved⟩ | ⟨error, failed⟩ :=
            save_cases writer { list with profiles } store
          · exact Or.inl ⟨list, profiles, rfl, edits, saves.trans saved⟩
          · exact Or.inr ⟨error, saves.trans failed⟩

end Work

end ProfileStore

end SignedRest
