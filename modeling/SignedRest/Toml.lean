/-
Values of a TOML document. Of floating-point numbers and of dates only their kind is kept.
-/

namespace SignedRest

inductive Toml where
  | text (value : String)
  | integer (value : Int)
  | float
  | bool (value : Bool)
  | datetime
  | array (items : List Toml)
  | table (members : List (String × Toml))
deriving Inhabited

namespace Toml

def member? (members : List (String × Toml)) (name : String) : Option Toml :=
  (members.find? (fun member => member.1 = name)).map Prod.snd

end Toml

end SignedRest
