/-
The file that keeps profiles, and what is done with it. A file that is not there holds no profiles;
one that was written by a newer version is neither read nor overwritten.
-/

import SignedRest.Profile
import SignedRest.Text.Utf8

namespace SignedRest

/-- What the file says. -/
structure ProfileList where
  version : Nat := 1
  profiles : List Profile := []
deriving DecidableEq, Inhabited

namespace ProfileList

def supportedVersion : Nat := 1

def version? : Toml → Option Nat
  | .integer value => if 0 ≤ value ∧ value < UInt32.size then some value.toNat else none
  | _ => none

def profiles? : Toml → Option (List Profile)
  | .array items => items.mapM Profile.ofValue?
  | _ => none

def ofText? (text : String) : Option ProfileList := do
  let members ← Toml.ofText? text
  let version ← (Toml.member? members "schema_version").bind version?
  let profiles ← Profile.optional? profiles? (Toml.member? members "profiles")
  some ⟨version, profiles.getD []⟩

def write (list : ProfileList) : List Char :=
  Profile.line "schema_version" (Nat.toDigits 10 list.version) ++
    if list.profiles.isEmpty then Profile.line "profiles" ['[', ']']
    else list.profiles.flatMap Profile.lines

def toText (list : ProfileList) : String :=
  String.ofList list.write

/-- How a list becomes text. A writer may refuse a list; one that it does not refuse gets the one
text of the list. -/
structure Writer where
  text? : ProfileList → Option String
  text?_eq : ∀ {list text}, text? list = some text → text = list.toText

/-- The writer that is used refuses nothing. -/
def Writer.full : Writer where
  text? list := some list.toText
  text?_eq written := (Option.some.inj written).symm

end ProfileList

/-- What is at the place of the file. A place below something that is no directory, or whose name is
too long, can hold nothing. -/
inductive ProfileStore where
  | absent
  | file (content : Bytes) (isPrivate : Bool)
  | directory
  | unreachable
deriving DecidableEq, Inhabited

namespace ProfileStore

/-- The profiles in the file. What an older version wrote counts as written by this one. -/
def load : ProfileStore → Result ProfileList
  | absent | unreachable => .ok {}
  | directory => .error (.stream "is a directory")
  | file content _ =>
      match Utf8.decodeText? content with
      | none => .error (.stream "stream did not contain valid UTF-8")
      | some text =>
          match ProfileList.ofText? text with
          | none => .error .profileSyntax
          | some list =>
              if list.version > ProfileList.supportedVersion then
                .error (.config (.newerFile list.version ProfileList.supportedVersion))
              else .ok { list with version := ProfileList.supportedVersion }

/-! ### Changes of a list -/

/-- Only a new name is added. -/
def added (profile : Profile) (profiles : List Profile) : Result (List Profile) :=
  if profiles.any (fun other => other.name = profile.name) then
    .error (.profileExists profile.name)
  else .ok (profiles ++ [profile])

/-- A profile of the same name is replaced, and the new one stands last. -/
def replaced (profile : Profile) (profiles : List Profile) : Result (List Profile) :=
  .ok (profiles.filter (fun other => other.name ≠ profile.name) ++ [profile])

def removed (name : String) (profiles : List Profile) : Result (List Profile) :=
  let others := profiles.filter (fun other => other.name ≠ name)
  if others.length = profiles.length then .error (.profileNotFound name) else .ok others

/-! ### Work on the file -/

/-- Work gives a value or fails, and either way leaves something at the place of the file. -/
abbrev Work (Value : Type) := EStateM Error ProfileStore Value

namespace Work

variable {Value : Type}

def answer (work : Work Value) (store : ProfileStore) : Result Value :=
  match work store with
  | .ok value _ => .ok value
  | .error error _ => .error error

/-- What is at the place afterwards, whether the work failed or not. -/
def after (work : Work Value) (store : ProfileStore) : ProfileStore :=
  match work store with
  | .ok _ left | .error _ left => left

def load : Work ProfileList := do
  ofExcept (← EStateM.get).load

/-- The directory that is to hold the file. -/
def makeDirectory : Work Unit := fun store =>
  match store with
  | unreachable => .error (.stream "not a directory") store
  | _ => .ok () store

/-- What was in the file is gone. Everyone can read a new file. -/
def write (content : Bytes) : Work Unit := fun store =>
  match store with
  | absent => .ok () (file content false)
  | file _ isPrivate => .ok () (file content isPrivate)
  | directory => .error (.stream "is a directory") store
  | unreachable => .error (.stream "not a directory") store

/-- Only the owner can read the file from here on. -/
def makePrivate : Work Unit := fun store =>
  match store with
  | file content _ => .ok () (file content true)
  | directory => .ok () store
  | _ => .error (.stream "no such file") store

/-- The text is there before the file is opened. -/
def save (writer : ProfileList.Writer) (list : ProfileList) : Work Unit := do
  makeDirectory
  match writer.text? list with
  | some text =>
      write (Utf8.encodeText text)
      makePrivate
  | none => throw .profileOutput

def list : Work (List Profile) := do
  return (← load).profiles

def get (name : String) : Work Profile := do
  match (← load).profiles.find? (fun profile => profile.name = name) with
  | some profile => return profile
  | none => throw (.profileNotFound name)

def contains (name : String) : Work Bool := do
  return (← load).profiles.any (fun profile => profile.name = name)

/-- The profiles are loaded, changed and saved. -/
def change (writer : ProfileList.Writer) (edit : List Profile → Result (List Profile)) :
    Work Unit := do
  let found ← load
  let profiles ← ofExcept (edit found.profiles)
  save writer { found with profiles }

def add (writer : ProfileList.Writer) (profile : Profile) : Work Unit :=
  change writer (added profile)

def set (writer : ProfileList.Writer) (profile : Profile) : Work Unit :=
  change writer (replaced profile)

def remove (writer : ProfileList.Writer) (name : String) : Work Unit :=
  change writer (removed name)

/-- What is at the place when the work is done. -/
def saved (work : Work Unit) (store : ProfileStore) : Result ProfileStore :=
  match work store with
  | .ok _ left => .ok left
  | .error error _ => .error error

end Work

/-- Writes the file so that only its owner can read it. -/
def save (store : ProfileStore) (list : ProfileList) : Result ProfileStore :=
  (Work.save .full list).saved store

def list (store : ProfileStore) : Result (List Profile) :=
  Work.list.answer store

def get (store : ProfileStore) (name : String) : Result Profile :=
  (Work.get name).answer store

def contains (store : ProfileStore) (name : String) : Result Bool :=
  (Work.contains name).answer store

def add (store : ProfileStore) (profile : Profile) : Result ProfileStore :=
  (Work.add .full profile).saved store

def set (store : ProfileStore) (profile : Profile) : Result ProfileStore :=
  (Work.set .full profile).saved store

def remove (store : ProfileStore) (name : String) : Result ProfileStore :=
  (Work.remove .full name).saved store

/-! ### The place of the file -/

/-- The byte between the names of a path. -/
def separator : UInt8 := 0x2F

/-- A path below a directory. -/
def joinPath (directory name : Bytes) : Bytes :=
  if directory.isEmpty ∨ directory.getLast? = some separator then directory ++ name
  else directory ++ separator :: name

def fileName : Bytes := Utf8.encodeText "config.toml"

/-- The directory that is set, or a hidden one in the home directory. Paths are bytes; they show as
text with a mark for each damaged sequence. -/
def path (configured : Option Bytes) (home : String) : String :=
  let hidden := joinPath (Utf8.encodeText home) (Utf8.encodeText ".bce")
  String.ofList (Utf8.decodeLossy (joinPath (configured.getD hidden) fileName))

/-- How many bytes a name in a path has at most. -/
def greatestNameLength : Nat := 255

/-- How many bytes a path has at most. -/
def greatestPathLength : Nat := 4095

/-- Whether a file can be at a path. -/
def isPath (path : Bytes) : Bool :=
  !path.contains 0 && decide (path.length ≤ greatestPathLength) &&
    (path.splitOn separator).all (fun name => decide (name.length ≤ greatestNameLength))

/-- What is found in a directory where nothing was written. -/
def ofDirectory (directory : String) : ProfileStore :=
  if isPath (joinPath (Utf8.encodeText directory) fileName) then absent else unreachable

end ProfileStore

end SignedRest
