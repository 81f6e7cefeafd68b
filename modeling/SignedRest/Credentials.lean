/-
The keys that requests are signed with. The access key is sent, the secret key never is; a session
token is sent with the request when there is one. None of them is blank.
-/

import SignedRest.Error
import SignedRest.Text.Blank
import SignedRest.Text.Quoted

namespace SignedRest

structure Credentials where
  accessKey : String
  secretKey : String
  sessionToken : Option String
  accessKey_not_blank : Text.isBlankText accessKey = false
  secretKey_not_blank : Text.isBlankText secretKey = false
  sessionToken_not_blank : ∀ token, sessionToken = some token → Text.isBlankText token = false
deriving DecidableEq

namespace Credentials

def environmentAccessKey : String := "BCE_ACCESS_KEY_ID"
def environmentSecretKey : String := "BCE_SECRET_ACCESS_KEY"
def environmentSessionToken : String := "BCE_SESSION_TOKEN"

/-- The token is looked at before the keys. -/
def make (accessKey secretKey : String) (sessionToken : Option String) : Result Credentials :=
  if token_ok : ∀ token, sessionToken = some token → Text.isBlankText token = false then
    if access_blank : Text.isBlankText accessKey = true then .error (.credentials .blankAccessKey)
    else if secret_blank : Text.isBlankText secretKey = true then
      .error (.credentials .blankSecretKey)
    else .ok ⟨accessKey, secretKey, sessionToken, Bool.eq_false_iff.mpr access_blank,
      Bool.eq_false_iff.mpr secret_blank, token_ok⟩
  else .error (.credentials .blankSessionToken)

/-- Credentials from named variables: none when neither key is there, an error when one is
missing. -/
def ofEnvironment (environment : String → Option String) : Result (Option Credentials) :=
  match environment environmentAccessKey, environment environmentSecretKey with
  | none, none => .ok none
  | some accessKey, some secretKey =>
      (make accessKey secretKey (environment environmentSessionToken)).map some
  | _, _ => .error (.credentials .incompleteEnvironment)

/-- A form for logs, in which the secret key and the token do not appear. -/
def describe (credentials : Credentials) : String :=
  let token := match credentials.sessionToken with
    | some _ => "Some(" ++ Text.quoted "<redacted>" ++ ")"
    | none => "None"
  "Credentials \x7b access_key: " ++ Text.quoted credentials.accessKey ++ ", secret_key: " ++
    Text.quoted "<redacted>" ++ ", session_token: " ++ token ++ " \x7d"

end Credentials

end SignedRest
