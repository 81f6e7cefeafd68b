/-
Operations on the file of profiles are careful. Reading changes nothing, what fails changes nothing,
and a change of one profile leaves the others as they were, whatever the file held before.
-/

import SignedRest.Profile.Operation
import SignedRest.Proofs.Profile.RoundTrip

namespace SignedRest

namespace Profile

/-! ### Profiles that were read -/

theorem milliseconds?_lt {value : Toml} {number : Nat} (reads : milliseconds? value = some number) :
    number < UInt64.size := by
  have narrow (bound : Nat) (whole : Int) (inside : 0 ≤ whole ∧ whole < bound) :
      whole.toNat < bound := by omega
  cases value with
  | integer whole =>
      rw [milliseconds?] at reads
      split at reads
      · rename_i inside
        exact Option.some.inj reads ▸ narrow _ _ inside
      · cases reads
  | text _ | float | bool _ | datetime | array _ | table _ => cases reads

theorem of_optional? {Value : Type} {decode : Toml → Option Value} {given : Option Toml}
    {value : Value} (reads : optional? decode given = some (some value)) :
    ∃ written, decode written = some value := by
  cases given with
  | none => cases reads
  | some written =>
      rw [optional?, Option.map_eq_some_iff] at reads
      obtain ⟨found, read, same⟩ := reads
      exact ⟨written, Option.some.inj same ▸ read⟩

theorem optional?_milliseconds_lt {given : Option Toml} {number : Option Nat}
    (reads : optional? milliseconds? given = some number) : number.getD 50000 < UInt64.size := by
  cases number with
  | none => exact (by decide : 50000 < UInt64.size)
  | some number =>
      obtain ⟨written, read⟩ := of_optional? reads
      exact milliseconds?_lt read

theorem timeout?_fits {value : Toml} {timeout : Timeout} (reads : timeout? value = some timeout) :
    timeout.Fits := by
  obtain ⟨field, -, reads⟩ := Option.bind_eq_some_iff.mp reads
  obtain ⟨connect, isConnect, reads⟩ := Option.bind_eq_some_iff.mp reads
  obtain ⟨read, isRead, reads⟩ := Option.bind_eq_some_iff.mp reads
  cases reads
  exact ⟨optional?_milliseconds_lt isConnect, optional?_milliseconds_lt isRead⟩

theorem ofValue?_fits {value : Toml} {profile : Profile} (reads : ofValue? value = some profile) :
    profile.Fits := by
  obtain ⟨field, -, reads⟩ := Option.bind_eq_some_iff.mp reads
  obtain ⟨name, -, reads⟩ := Option.bind_eq_some_iff.mp reads
  obtain ⟨accessKey, -, reads⟩ := Option.bind_eq_some_iff.mp reads
  obtain ⟨secretKey, -, reads⟩ := Option.bind_eq_some_iff.mp reads
  obtain ⟨token, -, reads⟩ := Option.bind_eq_some_iff.mp reads
  obtain ⟨region, -, reads⟩ := Option.bind_eq_some_iff.mp reads
  obtain ⟨protocol, -, reads⟩ := Option.bind_eq_some_iff.mp reads
  obtain ⟨endpoint, -, reads⟩ := Option.bind_eq_some_iff.mp reads
  obtain ⟨timeout, isTimeout, reads⟩ := Option.bind_eq_some_iff.mp reads
  cases reads
  rintro given rfl
  obtain ⟨written, read⟩ := of_optional? isTimeout
  exact timeout?_fits read

end Profile

namespace ProfileList

theorem profiles?_fits {items : List Toml} {profiles : List Profile}
    (reads : profiles? (.array items) = some profiles) : ∀ profile ∈ profiles, profile.Fits := by
  rw [profiles?] at reads
  induction items generalizing profiles with
  | nil =>
      cases reads
      exact fun profile member => absurd member List.not_mem_nil
  | cons item others ih =>
      rw [List.mapM_cons] at reads
      obtain ⟨first, read, reads⟩ := Option.bind_eq_some_iff.mp reads
      obtain ⟨later, readsLater, reads⟩ := Option.bind_eq_some_iff.mp reads
      cases reads
      intro profile member
      rcases List.mem_cons.mp member with rfl | member
      · exact Profile.ofValue?_fits read
      · exact ih readsLater profile member

theorem ofText?_fits {text : String} {list : ProfileList} (reads : ofText? text = some list) :
    ∀ profile ∈ list.profiles, profile.Fits := by
  obtain ⟨members, -, reads⟩ := Option.bind_eq_some_iff.mp reads
  obtain ⟨version, -, reads⟩ := Option.bind_eq_some_iff.mp reads
  obtain ⟨profiles, isProfiles, reads⟩ := Option.bind_eq_some_iff.mp reads
  cases reads
  cases profiles with
  | none => exact fun profile member => absurd member List.not_mem_nil
  | some profiles =>
      obtain ⟨written, read⟩ := Profile.of_optional? isProfiles
      cases written with
      | array items => exact profiles?_fits read
      | text _ | integer _ | float | bool _ | datetime | table _ => cases read

theorem ofText?_version {text : String} {list : ProfileList} {members : List (String × Toml)}
    (reads : ofText? text = some list) (document : Toml.ofText? text = some members) :
    Toml.member? members "schema_version" = some (.integer list.version) := by
  obtain ⟨_, same, reads⟩ := Option.bind_eq_some_iff.mp reads
  obtain rfl := Option.some.inj (document.symm.trans same)
  obtain ⟨version, isVersion, reads⟩ := Option.bind_eq_some_iff.mp reads
  obtain ⟨profiles, -, reads⟩ := Option.bind_eq_some_iff.mp reads
  cases reads
  obtain ⟨value, found, read⟩ := Option.bind_eq_some_iff.mp isVersion
  rw [found]
  cases value with
  | integer whole =>
      rw [version?] at read
      split at read
      · rename_i inside
        rw [← Option.some.inj read, Int.toNat_of_nonneg inside.1]
      · cases read
  | text _ | float | bool _ | datetime | array _ | table _ => cases read

end ProfileList

namespace ProfileStore

/-! ### Loading -/

theorem load_file_eq_ok {content : Bytes} {isPrivate : Bool} {list : ProfileList}
    (loads : (file content isPrivate).load = .ok list) :
    ∃ text found, Utf8.decodeText? content = some text ∧ ProfileList.ofText? text = some found ∧
      found.version ≤ ProfileList.supportedVersion ∧
      list = { found with version := ProfileList.supportedVersion } := by
  rw [load] at loads
  split at loads
  · cases loads
  · rename_i text decoded
    split at loads
    · cases loads
    · rename_i found reads
      split at loads
      · cases loads
      · rename_i older
        exact ⟨text, found, decoded, reads, Nat.not_lt.mp older, (Except.ok.inj loads).symm⟩

theorem load_valid {store : ProfileStore} {list : ProfileList} (loads : store.load = .ok list) :
    list.version = ProfileList.supportedVersion ∧ ∀ profile ∈ list.profiles, profile.Fits := by
  cases store with
  | absent | unreachable =>
      cases loads
      exact ⟨rfl, fun profile member => absurd member List.not_mem_nil⟩
  | directory => cases loads
  | file content isPrivate =>
      obtain ⟨text, found, -, reads, -, rfl⟩ := load_file_eq_ok loads
      exact ⟨rfl, fun profile member => ProfileList.ofText?_fits reads profile member⟩

/-- The version that a file states, whatever else it says. -/
def version? : ProfileStore → Option Int
  | file content _ => do
      let members ← Toml.ofText? (← Utf8.decodeText? content)
      match Toml.member? members "schema_version" with
      | some (.integer version) => some version
      | _ => none
  | absent | directory | unreachable => none

theorem load_newer {store : ProfileStore} {version : Int} (states : store.version? = some version)
    (newer : version > ProfileList.supportedVersion) : ∃ error, store.load = .error error := by
  cases loads : store.load with
  | error error => exact ⟨error, rfl⟩
  | ok list =>
      cases store with
      | absent | directory | unreachable => cases states
      | file content isPrivate =>
          obtain ⟨text, found, decoded, reads, older, -⟩ := load_file_eq_ok loads
          obtain ⟨_, decoded', states⟩ := Option.bind_eq_some_iff.mp states
          obtain rfl := Option.some.inj (decoded.symm.trans decoded')
          obtain ⟨members, document, states⟩ := Option.bind_eq_some_iff.mp states
          rw [ProfileList.ofText?_version reads document] at states
          obtain rfl := Option.some.inj states
          omega

/-! ### Operations -/

namespace Operation

variable {operation : Operation} {writer : ProfileList.Writer} {store : ProfileStore}

theorem subject?_profile? {profile : Profile} (written : operation.profile? = some profile) :
    operation.subject? = some profile.name := by
  cases operation with
  | add new | set new => exact congrArg (fun found => found.map Profile.name) written
  | list | get _ | contains _ | remove _ => cases written

/-- Every change takes the profiles of its name away and puts the one to be written, if there is
one, behind the others. -/
theorem edit_eq {name : String} (subject : operation.subject? = some name)
    {before after : List Profile} (edits : operation.edit before = .ok after) :
    after = before.filter (fun profile => profile.name ≠ name) ++ operation.profile?.toList := by
  cases operation with
  | list | get _ | contains _ => cases subject
  | add profile =>
      cases subject
      rw [edit, added] at edits
      split at edits
      · cases edits
      · rename_i fresh
        cases edits
        have kept : before.filter (fun other => other.name ≠ profile.name) = before := by
          rw [List.filter_eq_self]
          intro other member
          have different : ¬ other.name = profile.name := fun same =>
            fresh (List.any_eq_true.mpr ⟨other, member, decide_eq_true same⟩)
          exact decide_eq_true different
        rw [kept]
        rfl
  | set profile =>
      cases subject
      cases edits
      rfl
  | remove other =>
      cases subject
      rw [edit, removed] at edits
      split at edits
      · cases edits
      · cases edits
        exact (List.append_nil _).symm

theorem edit_others {name : String} (subject : operation.subject? = some name)
    {before after : List Profile} (edits : operation.edit before = .ok after) :
    after.filter (fun profile => profile.name ≠ name) =
      before.filter (fun profile => profile.name ≠ name) := by
  -- Only the profile that was written could be new among the others, and it has the name.
  have own : operation.profile?.toList.filter (fun profile => profile.name ≠ name) = [] := by
    rw [List.filter_eq_nil_iff]
    intro profile member
    rw [Option.mem_toList] at member
    obtain rfl := Option.some.inj ((subject?_profile? member).symm.trans subject)
    simp
  rw [edit_eq subject edits, List.filter_append, List.filter_filter, own, List.append_nil]
  simp only [Bool.and_self]

theorem mem_edit {name : String} (subject : operation.subject? = some name)
    {before after : List Profile} (edits : operation.edit before = .ok after) {profile : Profile}
    (member : profile ∈ after) : profile ∈ before ∨ operation.profile? = some profile := by
  rw [edit_eq subject edits, List.mem_append, Option.mem_toList] at member
  exact member.imp_left (fun old => (List.mem_filter.mp old).1)

theorem perform_change {name : String} (subject : operation.subject? = some name) :
    operation.perform writer = do
      Work.change writer operation.edit
      return .done := by
  cases operation with
  | list | get _ | contains _ => cases subject
  | add profile | set profile | remove name => rfl

theorem perform_unloaded {error : Error} (fails : store.load = .error error) :
    operation.perform writer store = .error error store := by
  have failed : Work.load store = .error error store := Work.load_error fails
  cases operation <;> exact Work.bind_error (Work.bind_error failed)

theorem perform_reading (reading : operation.subject? = none) :
    (∃ error, operation.perform writer store = .error error store) ∨
      ∃ answer, operation.perform writer store = .ok answer store := by
  cases loads : store.load with
  | error error => exact Or.inl ⟨error, perform_unloaded loads⟩
  | ok found =>
      cases operation with
      | add _ | set _ | remove _ => cases reading
      | list => exact Or.inr ⟨_, Work.bind_ok (Work.list_ok loads)⟩
      | contains name => exact Or.inr ⟨_, Work.bind_ok (Work.contains_ok loads name)⟩
      | get name =>
          cases isThere : found.profiles.find? (fun profile => profile.name = name) with
          | some profile => exact Or.inr ⟨_, Work.bind_ok (Work.get_some loads isThere)⟩
          | none => exact Or.inl ⟨_, Work.bind_error (Work.get_none loads isThere)⟩

/-- The three ways an operation can go: it fails, it reads, or it saves a changed list. -/
theorem perform_cases (operation : Operation) (writer : ProfileList.Writer) (store : ProfileStore) :
    (∃ error, operation.perform writer store = .error error store) ∨
    (operation.subject? = none ∧ ∃ answer, operation.perform writer store = .ok answer store) ∨
    ∃ name list profiles, operation.subject? = some name ∧ store.load = .ok list ∧
      operation.edit list.profiles = .ok profiles ∧
      operation.perform writer store = .ok .done ({ list with profiles } : ProfileList).file := by
  cases subject : operation.subject? with
  | none => exact (perform_reading subject).imp_right (fun done => Or.inl ⟨rfl, done⟩)
  | some name =>
      rw [perform_change subject]
      obtain ⟨list, profiles, loads, edits, done⟩ | ⟨error, failed⟩ :=
        Work.change_cases writer operation.edit store
      · exact Or.inr (Or.inr ⟨name, list, profiles, rfl, loads, edits, Work.bind_ok done⟩)
      · exact Or.inl ⟨error, Work.bind_error failed⟩

def Fits (operation : Operation) : Prop :=
  ∀ profile, operation.profile? = some profile → profile.Fits

/-- What an operation leaves alone. -/
structure Careful (writer : ProfileList.Writer) (operation : Operation) (store : ProfileStore) :
    Prop where
  reading : operation.subject? = none → (operation.perform writer).after store = store
  failure : ∀ error, (operation.perform writer).answer store = .error error →
    (operation.perform writer).after store = store
  /-- What a newer version wrote is neither used nor changed. -/
  newer : ∀ version, store.version? = some version → version > ProfileList.supportedVersion →
    (∃ error, (operation.perform writer).answer store = .error error) ∧
      (operation.perform writer).after store = store
  /-- Profiles of other names are there afterwards as they were before, in the same order. -/
  others : ∀ name answer, operation.subject? = some name →
    (operation.perform writer).answer store = .ok answer →
      ∃ before later, store.load = .ok before ∧
        ((operation.perform writer).after store).load = .ok later ∧
        later.profiles.filter (fun profile => profile.name ≠ name) =
          before.profiles.filter (fun profile => profile.name ≠ name)

theorem load_edited {name : String} (subject : operation.subject? = some name)
    {list : ProfileList} (loads : store.load = .ok list) {profiles : List Profile}
    (edits : operation.edit list.profiles = .ok profiles) (fits : operation.Fits) :
    ({ list with profiles } : ProfileList).file.load = .ok { list with profiles } := by
  obtain ⟨version, valid⟩ := load_valid loads
  have afterwards : ∀ profile ∈ profiles, profile.Fits := by
    intro profile member
    rcases mem_edit subject edits member with old | new
    · exact valid profile old
    · exact fits profile new
  have reads := @load_file { list with profiles } (Nat.le_of_eq version) afterwards
  rw [reads, version]

theorem perform_reading_after (reading : operation.subject? = none) :
    (operation.perform writer).after store = store := by
  obtain ⟨error, failed⟩ | ⟨answer, done⟩ := @perform_reading operation writer store reading
  · exact Work.after_error failed
  · exact Work.after_ok done

theorem perform_failure {error : Error}
    (failed : (operation.perform writer).answer store = .error error) :
    (operation.perform writer).after store = store := by
  obtain ⟨_, same⟩ | ⟨reading, -⟩ | ⟨_, _, _, -, -, -, done⟩ := perform_cases operation writer store
  · exact Work.after_error same
  · exact perform_reading_after reading
  · cases (Work.answer_ok done).symm.trans failed

theorem perform_newer {version : Int} (states : store.version? = some version)
    (newer : version > ProfileList.supportedVersion) :
    (∃ error, (operation.perform writer).answer store = .error error) ∧
      (operation.perform writer).after store = store := by
  obtain ⟨error, fails⟩ := load_newer states newer
  have failed : operation.perform writer store = .error error store := perform_unloaded fails
  exact ⟨⟨error, Work.answer_error failed⟩, Work.after_error failed⟩

theorem perform_others (fits : operation.Fits) {name : String}
    (subject : operation.subject? = some name) {answer : Answer}
    (works : (operation.perform writer).answer store = .ok answer) :
    ∃ before later, store.load = .ok before ∧
      ((operation.perform writer).after store).load = .ok later ∧
      later.profiles.filter (fun profile => profile.name ≠ name) =
        before.profiles.filter (fun profile => profile.name ≠ name) := by
  obtain ⟨error, failed⟩ | ⟨reading, -⟩ | ⟨_, list, profiles, same, loads, edits, done⟩ :=
    perform_cases operation writer store
  · cases (Work.answer_error failed).symm.trans works
  · cases reading.symm.trans subject
  · obtain rfl := Option.some.inj (same.symm.trans subject)
    refine ⟨list, { list with profiles }, loads, ?_, edit_others subject edits⟩
    rw [Work.after_ok done, load_edited subject loads edits fits]

/-- Whatever is at the place of the file, and whatever the writer refuses. -/
theorem perform_careful (writer : ProfileList.Writer) {operation : Operation}
    (fits : operation.Fits) (store : ProfileStore) : Careful writer operation store where
  reading := perform_reading_after
  failure := fun _ failed => perform_failure failed
  newer := fun _ states newer => perform_newer states newer
  others := fun _ _ subject works => perform_others fits subject works

def newcomer : Profile := ⟨"c", "", "", none, "", .http, none, some ⟨1, 2⟩⟩

theorem newcomer_fits : newcomer.Fits := by
  intro timeout given
  cases given
  exact ⟨by decide, by decide⟩

/-- A file with two profiles of one name keeps both when a third one is added. -/
theorem perform_careful_duplicates :
    ∃ later, ((perform .full (.add newcomer)).after (⟨1, awkward⟩ : ProfileList).file).load =
        .ok later ∧
      later.profiles.filter (fun profile => profile.name ≠ "c") = awkward := by
  have fits : Fits (.add newcomer) := fun profile same => Option.some.inj same ▸ newcomer_fits
  have careful := perform_careful .full fits (⟨1, awkward⟩ : ProfileList).file
  have loads := @load_file ⟨1, awkward⟩ (by decide) awkward_fits
  have edits : added newcomer awkward = .ok (awkward ++ [newcomer]) := rfl
  have saves : Work.add .full newcomer (⟨1, awkward⟩ : ProfileList).file =
      .ok () (⟨1, awkward ++ [newcomer]⟩ : ProfileList).file := by
    rw [Work.add, Work.change_ok loads edits]
    exact Work.save_ok trivial rfl
  have works : (perform .full (.add newcomer)).answer (⟨1, awkward⟩ : ProfileList).file =
      .ok .done := by
    rw [perform]
    exact Work.answer_ok (Work.bind_ok saves)
  obtain ⟨before, later, loaded, left, same⟩ := careful.others "c" .done rfl works
  obtain rfl := Except.ok.inj (loads.symm.trans loaded)
  exact ⟨later, left, same.trans rfl⟩

end Operation

end ProfileStore

end SignedRest
