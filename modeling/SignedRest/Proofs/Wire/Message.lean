/-
What becomes of the headers on the way into a message. Sending adds some where the request has none,
and rewrites the two that frame the body; all others stand in the message as they were.
-/

import SignedRest.Proofs.Number.Digits
import SignedRest.Proofs.Wire.Grammar
import SignedRest.Wire.Message

namespace SignedRest.Wire

/-- The headers with those that ask for access in the name of a user of the address. -/
def authorized (url : Url) (given : Fields) : Fields :=
  match url.authority.bind basicAuthorization with
  | some value => insertNew given Header.authorization value
  | none => given

end SignedRest.Wire
