/-
Profiles that were written can be read. Every list of profiles has a text, and reading that text
gives the list back: the same profiles, field by field and in the same order.
-/

import SignedRest.Proofs.Profile.Work
import SignedRest.Proofs.Text.Utf8
import SignedRest.Proofs.Toml.Assembly
import SignedRest.Proofs.Toml.Reader

namespace SignedRest

open Toml (Members Node Reads Statement Written)

/-- Milliseconds are counted in sixty-four bits. -/
def Timeout.Fits (timeout : Timeout) : Prop :=
  timeout.connect < UInt64.size ∧ timeout.read < UInt64.size

def Profile.Fits (profile : Profile) : Prop :=
  ∀ timeout, profile.timeout = some timeout → timeout.Fits

namespace Profile

/-! ### The lines of a profile -/

def optionalField (name : String) : Option String → List (String × Toml)
  | some value => [(name, .text value)]
  | none => []

def fields (profile : Profile) : List (String × Toml) :=
  [("name", .text profile.name), ("access_key", .text profile.accessKey),
    ("secret_key", .text profile.secretKey)] ++
    optionalField "session_token" profile.sessionToken ++
    [("region", .text profile.region), ("protocol", .text profile.protocol.scheme)] ++
    optionalField "endpoint" profile.endpoint

def timeoutFields (timeout : Timeout) : List (String × Toml) :=
  [("connect_ms", .integer timeout.connect), ("read_ms", .integer timeout.read)]

def assigns (pairs : List (String × Toml)) : List Statement :=
  pairs.map (fun pair => .assign [pair.1] pair.2)

def optionalTimeoutLines : Option Timeout → List Char
  | some timeout => timeoutLines timeout
  | none => []

def timeoutStatements : Option Timeout → List Statement
  | some timeout => .declare ["profiles", "timeout"] :: assigns (timeoutFields timeout)
  | none => []

def statements (profile : Profile) : List Statement :=
  .append ["profiles"] :: assigns profile.fields ++ timeoutStatements profile.timeout

theorem reads_textLine (name value : String) (bare : Toml.IsBare name) :
    Reads (textLine name value) (assigns [(name, .text value)]) :=
  Toml.reads_assign bare (Toml.written_text value)

theorem reads_optionalLine (name : String) (value : Option String) (bare : Toml.IsBare name) :
    Reads (optionalLine name value) (assigns (optionalField name value)) := by
  cases value with
  | none => exact Toml.reads_nothing
  | some value => exact reads_textLine name value bare

theorem reads_numberLine (name : String) {number : Nat} (small : number < UInt64.size)
    (bare : Toml.IsBare name) :
    Reads (line name (Nat.toDigits 10 number)) (assigns [(name, .integer number)]) := by
  have narrow : UInt64.size < Nat.pow 2 128 :=
    show 2 ^ 64 < 2 ^ 128 from Nat.pow_lt_pow_right (by decide) (by decide)
  exact Toml.reads_assign bare (Toml.written_integer (Nat.lt_trans small narrow))

theorem reads_header :
    Reads "\n[[profiles]]\n".toList [.append ["profiles"]] :=
  Toml.reads_break.append
    (Toml.reads_line "[profiles]]".toList (Or.inr rfl) (fun _ => rfl))

theorem reads_timeoutHeader :
    Reads "\n[profiles.timeout]\n".toList [.declare ["profiles", "timeout"]] :=
  Toml.reads_break.append
    (Toml.reads_line "profiles.timeout]".toList (Or.inr rfl) (fun _ => rfl))

theorem reads_timeout (timeout : Option Timeout)
    (fits : ∀ given, timeout = some given → given.Fits) :
    Reads (optionalTimeoutLines timeout) (timeoutStatements timeout) := by
  cases timeout with
  | none => exact Toml.reads_nothing
  | some given =>
      obtain ⟨connect, read⟩ := fits given rfl
      exact (reads_timeoutHeader.append (reads_numberLine "connect_ms" connect (by decide))).append
        (reads_numberLine "read_ms" read (by decide))

theorem reads_lines {profile : Profile} (fits : profile.Fits) :
    Reads profile.lines profile.statements := by
  have keys := ((reads_header.append (reads_textLine "name" profile.name (by decide))).append
    (reads_textLine "access_key" profile.accessKey (by decide))).append
    (reads_textLine "secret_key" profile.secretKey (by decide))
  have place := ((keys.append
    (reads_optionalLine "session_token" profile.sessionToken (by decide))).append
    (reads_textLine "region" profile.region (by decide))).append
    (reads_textLine "protocol" profile.protocol.scheme (by decide))
  have whole := (place.append
    (reads_optionalLine "endpoint" profile.endpoint (by decide))).append
    (reads_timeout profile.timeout fits)
  have same : profile.statements = [.append ["profiles"]] ++ assigns [("name", .text profile.name)]
      ++ assigns [("access_key", .text profile.accessKey)]
      ++ assigns [("secret_key", .text profile.secretKey)]
      ++ assigns (optionalField "session_token" profile.sessionToken)
      ++ assigns [("region", .text profile.region)]
      ++ assigns [("protocol", .text profile.protocol.scheme)]
      ++ assigns (optionalField "endpoint" profile.endpoint)
      ++ timeoutStatements profile.timeout := by
    simp only [statements, fields, assigns, List.map_append, List.map_cons, List.map_nil,
      List.cons_append, List.nil_append, List.append_assoc]
  rw [same]
  exact whole

/-! ### The table of a profile -/

def timeoutMembers : Option Timeout → List (String × Toml)
  | some timeout => [("timeout", .table (timeoutFields timeout))]
  | none => []

def table (profile : Profile) : Toml :=
  .table (profile.fields ++ timeoutMembers profile.timeout)

def valueNodes (pairs : List (String × Toml)) : Members :=
  pairs.map (fun pair => (pair.1, .value pair.2))

def timeoutNodes : Option Timeout → Members
  | some timeout => [("timeout", .table .declared (valueNodes (timeoutFields timeout)))]
  | none => []

/-- The table of a profile while its document is put together. -/
def nodes (profile : Profile) : Members :=
  valueNodes profile.fields ++ timeoutNodes profile.timeout

theorem close_nodes (profile : Profile) :
    .table (Node.closeMembers profile.nodes) = profile.table := by
  have timeout : Node.closeMembers (timeoutNodes profile.timeout) =
      timeoutMembers profile.timeout := by
    cases profile.timeout with
    | none => rfl
    | some given => rfl
  rw [nodes, Toml.Node.closeMembers_append, timeout, valueNodes, Toml.Node.closeMembers_values,
    table]

def fieldNames : List String :=
  ["name", "access_key", "secret_key"] ++ ["session_token"] ++ ["region", "protocol"] ++
    ["endpoint"]

theorem optionalField_names (name : String) (value : Option String) :
    ((optionalField name value).map Prod.fst).Sublist [name] := by
  cases value with
  | none => exact List.nil_sublist _
  | some value => exact List.Sublist.refl _

theorem fields_names (profile : Profile) : (profile.fields.map Prod.fst).Sublist fieldNames := by
  rw [fields, List.map_append, List.map_append, List.map_append]
  exact (((List.Sublist.refl _).append (optionalField_names _ _)).append
    (List.Sublist.refl _)).append (optionalField_names _ _)

theorem fields_distinct (profile : Profile) : (profile.fields.map Prod.fst).Nodup :=
  (fields_names profile).nodup (by decide)

theorem get?_valueNodes (pairs : List (String × Toml)) (name : String) :
    Members.get? (valueNodes pairs) name = (Toml.member? pairs name).map .value := by
  unfold Members.get? Toml.member? valueNodes
  rw [List.find?_map, Option.map_map, Option.map_map]
  rfl

theorem fields_timeout (profile : Profile) :
    Members.get? (valueNodes profile.fields) "timeout" = none := by
  rw [get?_valueNodes, Toml.member?, Option.map_eq_none_iff, Option.map_eq_none_iff,
    List.find?_eq_none]
  intro field member
  have known := (fields_names profile).subset (List.mem_map_of_mem member)
  have other : ∀ name ∈ fieldNames, ¬ decide (name = "timeout") = true := by decide
  exact other field.1 known

/-- The statements of a profile add its table to the array of profiles. The header they leave behind
depends on whether the profile has times, and the next profile does not care. -/
theorem assemble?_statements (profile : Profile) {root : Members}
    (fresh : root.get? "profiles" = none) (items : List Members) (header : List String) :
    ∃ last, ∀ rest, Toml.assemble? header (Members.withTables root "profiles" items)
        (profile.statements ++ rest) =
      Toml.assemble? last (Members.withTables root "profiles" (items ++ [profile.nodes])) rest := by
  have opens := Members.opens_tables fresh items
  have texts (rest : List Statement) :
      Toml.assemble? header (Members.withTables root "profiles" items)
          (.append ["profiles"] :: assigns profile.fields ++ rest) =
        Toml.assemble? ["profiles"]
          (Members.withTables root "profiles" (items ++ [valueNodes profile.fields])) rest := by
    rw [List.cons_append, Toml.assemble?, Members.append_tables fresh, Option.bind_eq_bind,
      Option.bind_some]
    exact Members.assemble?_assigns opens [] profile.fields (fields_distinct profile)
      (fun _ _ => rfl) rest
  unfold statements nodes
  cases profile.timeout with
  | none =>
      refine ⟨["profiles"], fun rest => ?_⟩
      rw [timeoutStatements, List.append_nil, texts, timeoutNodes, List.append_nil]
  | some timeout =>
      have declared : Members.declare ["profiles", "timeout"]
          (Members.withTables root "profiles" (items ++ [valueNodes profile.fields])) =
            some (Members.withTables root "profiles"
              (items ++ [valueNodes profile.fields ++ [("timeout", .table .declared [])]])) :=
        Members.declare_last opens (fields_timeout profile)
      refine ⟨["profiles", "timeout"], fun rest => ?_⟩
      rw [timeoutStatements, List.append_assoc, texts, List.cons_append, Toml.assemble?, declared,
        Option.bind_eq_bind, Option.bind_some]
      have distinct : ["connect_ms", "read_ms"].Nodup := by decide
      exact Members.assemble?_assigns (opens.table (fields_timeout profile)) []
        (timeoutFields timeout) distinct (fun _ _ => rfl) rest

/-! ### Reading -/

theorem natCast_range {number bound : Nat} (small : number < bound) :
    0 ≤ (number : Int) ∧ (number : Int) < bound :=
  ⟨Int.natCast_nonneg number, Int.ofNat_lt.mpr small⟩

theorem milliseconds?_integer {number : Nat} (small : number < UInt64.size) :
    milliseconds? (.integer number) = some number := by
  rw [milliseconds?, if_pos (natCast_range small), Int.toNat_natCast]

theorem protocolNamed?_scheme (protocol : Protocol) :
    protocolNamed? protocol.scheme = some protocol := by
  cases protocol with
  | http => rfl
  | https => rfl

theorem optional?_some {Value : Type} {decode : Toml → Option Value} {written : Toml}
    {value : Value} (reads : decode written = some value) :
    optional? decode (some written) = some (some value) := by
  rw [optional?, reads, Option.map_some]

theorem optional?_map {Value : Type} {decode : Toml → Option Value} {write : Value → Toml}
    {value : Option Value}
    (reads : ∀ given, value = some given → decode (write given) = some given) :
    optional? decode (value.map write) = some value := by
  cases value with
  | none => rfl
  | some given => exact optional?_some (reads given rfl)

theorem timeout?_table (members : List (String × Toml)) :
    timeout? (.table members) =
      (optional? milliseconds? (Toml.member? members "connect_ms")).bind (fun connect =>
        (optional? milliseconds? (Toml.member? members "read_ms")).bind (fun read =>
          some ⟨connect.getD 50000, read.getD 50000⟩)) := rfl

theorem timeout?_fields {timeout : Timeout} (fits : timeout.Fits) :
    timeout? (.table (timeoutFields timeout)) = some timeout := by
  have connect : optional? milliseconds? (Toml.member? (timeoutFields timeout) "connect_ms") =
      some (some timeout.connect) :=
    optional?_some (milliseconds?_integer fits.1)
  have read : optional? milliseconds? (Toml.member? (timeoutFields timeout) "read_ms") =
      some (some timeout.read) :=
    optional?_some (milliseconds?_integer fits.2)
  rw [timeout?_table, connect, Option.bind_some, read, Option.bind_some, Option.getD_some,
    Option.getD_some]

theorem ofValue?_table {profile : Profile} (fits : profile.Fits) :
    ofValue? profile.table = some profile := by
  rcases profile with ⟨name, accessKey, secretKey, token, region, protocol, endpoint, timeout⟩
  -- Each field is found by its name, so it does not matter which of the others are left out.
  have lookups (profile : Profile)
      (same : profile = ⟨name, accessKey, secretKey, token, region, protocol, endpoint, timeout⟩) :
      let member := Toml.member? (profile.fields ++ timeoutMembers profile.timeout)
      member "name" = some (.text name) ∧ member "access_key" = some (.text accessKey) ∧
        member "secret_key" = some (.text secretKey) ∧
        member "session_token" = token.map .text ∧ member "region" = some (.text region) ∧
        member "protocol" = some (.text protocol.scheme) ∧
        member "endpoint" = endpoint.map .text ∧
        member "timeout" = timeout.map (fun given => .table (timeoutFields given)) := by
    rw [same]
    cases token <;> cases endpoint <;> cases timeout <;>
      exact ⟨rfl, rfl, rfl, rfl, rfl, rfl, rfl, rfl⟩
  obtain ⟨isName, isAccessKey, isSecretKey, isToken, isRegion, isProtocol, isEndpoint, isTimeout⟩ :=
    lookups _ rfl
  have tokenRead : optional? text? (token.map .text) = some token := optional?_map (fun _ _ => rfl)
  have regionRead : optional? text? (some (.text region)) = some (some region) := rfl
  have protocolRead : optional? protocol? (some (.text protocol.scheme)) = some (some protocol) :=
    optional?_some (protocolNamed?_scheme protocol)
  have endpointRead : optional? text? (endpoint.map .text) = some endpoint :=
    optional?_map (fun _ _ => rfl)
  have timeoutRead : optional? timeout? (timeout.map (fun given => .table (timeoutFields given))) =
      some timeout := optional?_map (fun given same => timeout?_fields (fits given same))
  simp only [ofValue?, table, fieldOf?, isName, isAccessKey, isSecretKey, isToken, isRegion,
    isProtocol, isEndpoint, isTimeout, tokenRead, regionRead, protocolRead, endpointRead,
    timeoutRead, Option.bind_eq_bind, Option.bind_some, text?, Option.getD_some]

end Profile

namespace ProfileList

/-! ### A list of profiles -/

def versionStatement (list : ProfileList) : Statement :=
  .assign ["schema_version"] (.integer list.version)

def profileStatements (profiles : List Profile) : List Statement :=
  if profiles.isEmpty then [.assign ["profiles"] (.array [])]
  else profiles.flatMap Profile.statements

theorem reads_profiles {profiles : List Profile} (fits : ∀ profile ∈ profiles, profile.Fits) :
    Reads (profiles.flatMap Profile.lines) (profiles.flatMap Profile.statements) := by
  induction profiles with
  | nil => exact Toml.reads_nothing
  | cons profile others ih =>
      rw [List.flatMap_cons, List.flatMap_cons]
      exact (Profile.reads_lines (fits profile List.mem_cons_self)).append
        (ih (fun other member => fits other (List.mem_cons_of_mem _ member)))

theorem uint32_lt_uint64 : UInt32.size < UInt64.size :=
  show 2 ^ 32 < 2 ^ 64 from Nat.pow_lt_pow_right (by decide) (by decide)

theorem reads_write {list : ProfileList} (version : list.version < UInt32.size)
    (fits : ∀ profile ∈ list.profiles, profile.Fits) :
    Reads list.write (list.versionStatement :: profileStatements list.profiles) := by
  refine (Profile.reads_numberLine "schema_version" (Nat.lt_trans version uint32_lt_uint64)
    (by decide)).append ?_
  split
  · exact Toml.reads_assign (by decide) Toml.written_empty
  · exact reads_profiles fits

theorem assemble?_profiles {root : Members} (fresh : root.get? "profiles" = none)
    (profiles : List Profile) (items : List Members) (header : List String) :
    Toml.assemble? header (Members.withTables root "profiles" items)
        (profiles.flatMap Profile.statements) =
      some (Members.withTables root "profiles" (items ++ profiles.map Profile.nodes)) := by
  induction profiles generalizing items header with
  | nil => rw [List.flatMap_nil, Toml.assemble?, List.map_nil, List.append_nil]
  | cons profile others ih =>
      obtain ⟨last, put⟩ := Profile.assemble?_statements profile fresh items header
      rw [List.flatMap_cons, put, ih, List.map_cons, List.append_assoc, List.singleton_append]

def members (list : ProfileList) : List (String × Toml) :=
  [("schema_version", .integer list.version),
    ("profiles", .array (list.profiles.map Profile.table))]

theorem assemble?_write (list : ProfileList) :
    (Toml.assemble? [] [] (list.versionStatement :: profileStatements list.profiles)).map
      Node.closeMembers = some list.members := by
  let root : Members := [("schema_version", .value (.integer list.version))]
  have version (statements : List Statement) :
      Toml.assemble? [] [] (list.versionStatement :: statements) =
        Toml.assemble? [] root statements := rfl
  have fresh : root.get? "profiles" = none := rfl
  rw [version, profileStatements, members]
  cases same : list.profiles with
  | nil => rfl
  | cons profile others =>
      have tables : Node.closeItems ((profile :: others).map Profile.nodes) =
          (profile :: others).map Profile.table := by
        rw [Toml.Node.closeItems_eq_map, List.map_map]
        exact List.map_congr_left (fun profile _ => Profile.close_nodes profile)
      have put : Toml.assemble? [] root ((profile :: others).flatMap Profile.statements) =
          some (Members.withTables root "profiles" ((profile :: others).map Profile.nodes)) :=
        assemble?_profiles fresh (profile :: others) [] []
      rw [List.isEmpty_cons, if_neg Bool.false_ne_true, put, Option.map_some, Members.withTables,
        List.map_cons, List.isEmpty_cons, if_neg Bool.false_ne_true, ← List.map_cons,
        Toml.Node.closeMembers_append, Node.closeMembers, Node.closeMembers, Node.closeMembers,
        Node.closeMembers, Node.close, Node.close, tables]
      rfl

theorem dropMark_write (list : ProfileList) : Toml.dropMark list.write = list.write := rfl

theorem version?_integer {version : Nat} (small : version < UInt32.size) :
    version? (.integer version) = some version := by
  rw [version?, if_pos (Profile.natCast_range small), Int.toNat_natCast]

theorem profiles?_tables {profiles : List Profile} (fits : ∀ profile ∈ profiles, profile.Fits) :
    profiles? (.array (profiles.map Profile.table)) = some profiles := by
  rw [profiles?]
  induction profiles with
  | nil => rfl
  | cons profile others ih =>
      rw [List.map_cons, List.mapM_cons, Profile.ofValue?_table (fits profile List.mem_cons_self),
        ih (fun other member => fits other (List.mem_cons_of_mem _ member))]
      rfl

theorem ofText?_toText {list : ProfileList} (version : list.version < UInt32.size)
    (fits : ∀ profile ∈ list.profiles, profile.Fits) : ofText? list.toText = some list := by
  have document : Toml.ofText? list.toText = some list.members := by
    rw [Toml.ofText?, toText, String.toList_ofList, dropMark_write, Option.bind_eq_bind,
      (reads_write version fits).document, Option.bind_some, assemble?_write]
  have isVersion : Toml.member? list.members "schema_version" =
      some (.integer list.version) := rfl
  have isProfiles : Toml.member? list.members "profiles" =
      some (.array (list.profiles.map Profile.table)) := rfl
  rw [ofText?, document, Option.bind_eq_bind, Option.bind_some, isVersion, Option.bind_some,
    version?_integer version, Option.bind_eq_bind, Option.bind_some, isProfiles,
    Profile.optional?_some (profiles?_tables fits), Option.bind_eq_bind, Option.bind_some,
    Option.getD_some]

end ProfileList

namespace ProfileStore

/-! ### A file of profiles -/

/-- A list that was written reads as this version's list, whatever version it was written for. -/
theorem load_file {list : ProfileList} (version : list.version ≤ ProfileList.supportedVersion)
    (fits : ∀ profile ∈ list.profiles, profile.Fits) :
    list.file.load = .ok { list with version := ProfileList.supportedVersion } := by
  have narrow : list.version < UInt32.size := Nat.lt_of_le_of_lt version (by decide)
  rw [ProfileList.file, load, Utf8.decodeText?_encodeText]
  dsimp only
  rw [ProfileList.ofText?_toText narrow fits]
  exact if_neg (Nat.not_lt.mpr version)

/-- Wherever a file can be, a list is saved, and what was saved is loaded again. -/
theorem load_save (store : ProfileStore) {list : ProfileList}
    (version : list.version ≤ ProfileList.supportedVersion)
    (fits : ∀ profile ∈ list.profiles, profile.Fits) :
    (store.IsOpen → ∃ saved, store.save list = .ok saved) ∧
      ∀ saved, store.save list = .ok saved →
        saved.load = .ok ⟨ProfileList.supportedVersion, list.profiles⟩ := by
  constructor
  · intro place
    exact ⟨list.file, by rw [save, Work.saved, Work.save_ok place rfl]⟩
  · intro saved saves
    rw [save, Work.saved] at saves
    obtain ⟨-, done⟩ | ⟨error, failed⟩ := Work.save_cases .full list store
    · rw [done] at saves
      cases saves
      exact load_file version fits
    · rw [failed] at saves
      cases saves

/-- Two profiles of one name, with texts for every style of quotes and the longest time there is. -/
def awkward : List Profile :=
  [⟨"a\"b\\c\nd'''", "\t\u0001é😀", "", some "\"\"\"", "'", .https, some "C:\\\r\n",
      some ⟨UInt64.size - 1, 0⟩⟩,
    ⟨"a\"b\\c\nd'''", "", "\u007f", none, "", .http, none, none⟩]

theorem awkward_fits : ∀ profile ∈ awkward, profile.Fits := by
  have longest : (⟨UInt64.size - 1, 0⟩ : Timeout).Fits :=
    ⟨Nat.sub_lt (by decide) (by decide), by decide⟩
  intro profile member
  rcases List.mem_cons.mp member with rfl | member
  · exact fun timeout same => Option.some.inj same ▸ longest
  · obtain rfl := List.mem_singleton.mp member
    exact fun timeout same => nomatch same

theorem load_save_awkward :
    ∃ saved, absent.save ⟨0, awkward⟩ = .ok saved ∧ saved.load = .ok ⟨1, awkward⟩ := by
  obtain ⟨saves, loads⟩ := @load_save absent ⟨0, awkward⟩ (by decide) awkward_fits
  obtain ⟨saved, done⟩ := saves trivial
  exact ⟨saved, done, loads saved done⟩

end ProfileStore

end SignedRest
