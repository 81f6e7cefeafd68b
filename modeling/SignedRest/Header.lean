/-
Header fields: their names, the choice of those that a signature covers, and the form in which they
enter it.
-/

import SignedRest.Table
import SignedRest.Text.Blank

namespace SignedRest

abbrev Fields := Table String

namespace Header

def host : String := "host"
def date : String := "date"
def userAgent : String := "user-agent"
def contentType : String := "content-type"
def contentLength : String := "content-length"
def contentMd5 : String := "content-md5"
def authorization : String := "authorization"
def serviceHeaders : String := "x-bce-"
def signingDate : String := "x-bce-date"
def securityToken : String := "x-bce-security-token"
def requestId : String := "x-bce-request-id"

def isSignedByDefault (name : String) : Bool :=
  name = host || name = contentLength || name = contentType || name = contentMd5 ||
    serviceHeaders.toList.isPrefixOf name.toList

/-- Which header names a signature covers: the default ones, or just the names given. -/
inductive Selection where
  | default
  | only (names : Table Unit)
deriving DecidableEq, Inhabited

namespace Selection

/-- Names are trimmed and put into lower case. -/
def ofNames (names : List String) : Selection :=
  only (Table.ofList (names.map (fun name => ((Text.trim name).toLower, ()))))

def wants : Selection → String → Bool
  | default, name => isSignedByDefault name
  | only names, name => names.contains name

end Selection

def foldedName (name : String) : String :=
  (Text.trim name).toLower

/-- The fields that a signature covers. A field with a blank value is passed over, and of several
whose names fold together the last counts. -/
def select (selection : Selection) (fields : List (String × String)) : Fields :=
  fields.foldl (fun chosen field =>
    let value := Text.trim field.2
    if value.isEmpty then chosen
    else if selection.wants (foldedName field.1) then chosen.insert (foldedName field.1) value
    else chosen) Table.empty

end Header

end SignedRest
