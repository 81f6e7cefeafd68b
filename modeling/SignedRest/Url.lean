/-
URLs: their parts and their written form.
-/

import SignedRest.Text.Percent
import SignedRest.Url.Address

namespace SignedRest

/-- Why a text is no URL. -/
inductive Url.Fault where
  | emptyHost
  | internationalName
  | port
  | addressV4
  | addressV6
  | hostCharacter
  | relative
deriving DecidableEq, Inhabited

def Url.Fault.message : Url.Fault → String
  | emptyHost => "empty host"
  | internationalName => "invalid international domain name"
  | port => "invalid port number"
  | addressV4 => "invalid IPv4 address"
  | addressV6 => "invalid IPv6 address"
  | hostCharacter => "invalid domain character"
  | relative => "relative URL without a base"

inductive Url.Host where
  | name (text : String)
  | v4 (address : Nat)
  | v6 (groups : List Nat)
deriving DecidableEq, Inhabited

/-- What follows the double slash: who asks whom. The port is absent when it is the scheme's own. -/
structure Url.Authority where
  username : String
  password : Option String
  host : Url.Host
  port : Option Nat
deriving DecidableEq, Inhabited

/-- A path is a list of segments, each written after a slash, or a text of its own. -/
inductive Url.Path where
  | segments (items : List String)
  | plain (text : String)
deriving DecidableEq, Inhabited

structure Url where
  scheme : String
  authority : Option Url.Authority
  path : Url.Path
  query : Option String
  fragment : Option String
deriving DecidableEq, Inhabited

namespace Url

def Host.toText : Host → String
  | name text => text
  | v4 address => String.ofList (Address.v4Text address)
  | v6 groups => String.ofList ('[' :: Address.v6Text groups ++ [']'])

def Path.toText : Path → String
  | segments items => String.join (items.map ("/" ++ ·))
  | plain text => text

def Authority.toText (authority : Authority) : String :=
  let user := authority.username ++ (match authority.password with
    | some password => ":" ++ password
    | none => "")
  let port := match authority.port with
    | some port => ":" ++ toString port
    | none => ""
  (if user.isEmpty then "" else user ++ "@") ++ authority.host.toText ++ port

/-- The text before the path. Where no authority stands, a path with an empty first segment is kept
apart from one by a dot. -/
def frontText (url : Url) : String :=
  url.scheme ++ ":" ++ match url.authority with
    | some authority => "//" ++ authority.toText
    | none =>
        match url.path with
        | .segments ("" :: _ :: _) => "/."
        | _ => ""

def toText (url : Url) : String :=
  url.frontText ++ url.path.toText ++
    (match url.query with
      | some query => "?" ++ query
      | none => "") ++
    (match url.fragment with
      | some fragment => "#" ++ fragment
      | none => "")

/-- The host, if it is not empty. -/
def hostText? (url : Url) : Option String := do
  let authority ← url.authority
  let text := authority.host.toText
  if text.isEmpty then none else some text

def port? (url : Url) : Option Nat :=
  url.authority.bind Authority.port

/-- The port that a scheme implies. -/
def defaultPort? (scheme : String) : Option Nat :=
  if scheme = "http" ∨ scheme = "ws" then some 80
  else if scheme = "https" ∨ scheme = "wss" then some 443
  else if scheme = "ftp" then some 21
  else none

def isSpecial (scheme : String) : Bool :=
  scheme = "file" || (defaultPort? scheme).isSome

end Url

end SignedRest
