/-
Settings that a client is made from.
-/

import SignedRest.Credentials

namespace SignedRest

inductive Protocol where
  | http
  | https
deriving DecidableEq, Inhabited

namespace Protocol

def scheme : Protocol → String
  | http => "http"
  | https => "https"

def defaultPort : Protocol → Nat
  | http => 80
  | https => 443

/-- The case of the name does not matter. -/
def ofText (text : String) : Result Protocol :=
  if text.toLower = "http" then .ok http
  else if text.toLower = "https" then .ok https
  else .error (.config (.unknownProtocol text.toLower))

end Protocol

/-- How long to wait, in milliseconds. -/
structure Timeout where
  connect : Nat := 50000
  read : Nat := 50000
deriving DecidableEq, Inhabited

def defaultRegion : String := "bj"

structure Config where
  protocol : Protocol := .http
  region : String := defaultRegion
  endpoint : Option String := none
  userAgent : String := "bce-sdk-rust/0.1.0"
  timeout : Timeout := {}
  credentials : Option Credentials := none
deriving DecidableEq

namespace Config

def requireCredentials (config : Config) : Result Credentials :=
  match config.credentials with
  | some credentials => .ok credentials
  | none => .error (.credentials .absent)

end Config

end SignedRest
