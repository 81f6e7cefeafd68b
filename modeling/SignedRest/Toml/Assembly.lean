/-
Tables put together from the statements of a document. A key is given once. A table may be named by
a header once, may come about because a header names a table below it, or may be made by dotted
keys; each of these kinds admits different additions later.
-/

import SignedRest.Toml

namespace SignedRest.Toml

/-- How a table came about: from a header of its own, from a header below it, or from dotted
keys. -/
inductive Origin where
  | declared
  | implied
  | dotted
deriving DecidableEq, Inhabited

/-- A part of a document that is being put together. Values are closed, tables are open. -/
inductive Node where
  | value (value : Toml)
  | table (origin : Origin) (members : List (String × Node))
  | tables (items : List (List (String × Node)))
deriving Inhabited

abbrev Members := List (String × Node)

namespace Members

def get? (members : Members) (name : String) : Option Node :=
  (members.find? (fun member => member.1 = name)).map Prod.snd

def replace (members : Members) (name : String) (node : Node) : Members :=
  members.map (fun member => if member.1 = name then (name, node) else member)

/-- Changes the table at a path, making the tables on the way that are missing. Below a header the
way leads through the last table of an array of tables; dotted keys do not lead into declared
tables. -/
def change (byDots : Bool) (act : Origin → Members → Option (Origin × Members)) :
    List String → Origin → Members → Option (Origin × Members)
  | [], origin, members => act origin members
  | name :: path, origin, members =>
      match members.get? name with
      | none => do
          let made := if byDots then Origin.dotted else Origin.implied
          let (origin', members') ← change byDots act path made []
          some (origin, members ++ [(name, .table origin' members')])
      | some (.table inner inside) =>
          if byDots && inner = .declared then none
          else do
            let (origin', members') ← change byDots act path inner inside
            some (origin, members.replace name (.table origin' members'))
      | some (.tables items) => do
          let last ← items.getLast?
          let (_, members') ← change byDots act path .declared last
          some (origin, members.replace name (.tables (items.dropLast ++ [members'])))
      | some (.value _) => none

/-- Gives a key of a table its value. A table made by dotted keys gets further keys by dots only,
and only such a table does. -/
def put (byDots : Bool) (name : String) (value : Toml) (origin : Origin) (members : Members) :
    Option (Origin × Members) :=
  if (origin = .dotted) ≠ byDots ∨ (members.get? name).isSome then none
  else some (origin, members ++ [(name, .value value)])

/-- Gives a dotted key, seen from the table at a header, its value. -/
def assign (header path : List String) (value : Toml) (members : Members) : Option Members := do
  let name ← path.getLast?
  let way := path.dropLast
  let act (origin : Origin) (members : Members) : Option (Origin × Members) :=
    change true (put (!way.isEmpty) name value) way origin members
  let (_, members') ← change false act header .declared members
  some members'

def declareLast (name : String) (origin : Origin) (members : Members) : Option (Origin × Members) :=
  match members.get? name with
  | none => some (origin, members ++ [(name, .table .declared [])])
  | some (.table .implied inside) => some (origin, members.replace name (.table .declared inside))
  | _ => none

def appendLast (name : String) (origin : Origin) (members : Members) : Option (Origin × Members) :=
  match members.get? name with
  | none => some (origin, members ++ [(name, .tables [[]])])
  | some (.tables items) => some (origin, members.replace name (.tables (items ++ [[]])))
  | _ => none

/-- A header in single brackets declares a table. -/
def declare (path : List String) (members : Members) : Option Members := do
  let name ← path.getLast?
  let (_, members') ← change false (declareLast name) path.dropLast .declared members
  some members'

/-- A header in double brackets adds a table to an array of tables. -/
def append (path : List String) (members : Members) : Option Members := do
  let name ← path.getLast?
  let (_, members') ← change false (appendLast name) path.dropLast .declared members
  some members'

end Members

mutual

def Node.close : Node → Toml
  | .value closed => closed
  | .table _ members => .table (Node.closeMembers members)
  | .tables items => .array (Node.closeItems items)

def Node.closeMembers : List (String × Node) → List (String × Toml)
  | [] => []
  | (name, node) :: rest => (name, Node.close node) :: Node.closeMembers rest

def Node.closeItems : List (List (String × Node)) → List Toml
  | [] => []
  | members :: rest => .table (Node.closeMembers members) :: Node.closeItems rest

end

/-- The table of an inline table's keys, each a dotted path. -/
def inlineTable? (pairs : List (List String × Toml)) : Option Toml :=
  (pairs.foldlM (fun members pair => Members.assign [] pair.1 pair.2 members) []).map
    (fun members => .table (Node.closeMembers members))

end SignedRest.Toml
