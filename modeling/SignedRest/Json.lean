/-
JSON values. An integer is kept exactly when it fits sixty-four bits, with or without a sign; every
other number is a double. The members of an object stand in the order of their names.
-/

import SignedRest.Number.Shortest
import SignedRest.Table

namespace SignedRest

inductive Json.Number where
  | integer (value : Int)
  | double (value : Double)
deriving DecidableEq, Inhabited

inductive Json where
  | null
  | bool (value : Bool)
  | number (value : Json.Number)
  | text (value : String)
  | array (items : List Json)
  | object (members : List (String × Json))
deriving Inhabited

namespace Json

def Number.toText : Number → String
  | .integer value => toString value
  | .double value => value.text

/-- An object from members in any order; of several with one name the last counts. -/
def ofMembers (members : List (String × Json)) : Json :=
  object (Table.ofList members).entries

def member? (name : String) : Json → Option Json
  | object members => (members.find? (fun member => member.1 = name)).map Prod.snd
  | _ => none

end Json

end SignedRest
