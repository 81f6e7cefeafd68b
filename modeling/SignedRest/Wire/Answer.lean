/-
Replies as they arrive. All that a peer sends before it closes the connection is read at once: heads
of interim replies, the head that counts, and the body as that head frames it.
-/

import SignedRest.Wire.Message

namespace SignedRest.Wire

/-- What arrives of the body. -/
def received (framing : Framing) (bytes : Bytes) : Body.Contents :=
  match framing with
  | .counted size => ⟨bytes.take size, decide (size ≤ bytes.length)⟩
  | .chunks => dechunked bytes
  | .untilClose => ⟨bytes, true⟩

/-- A field with other bytes than text is left out. -/
def withField (reply : Reply) (field : Field) : Reply :=
  match Utf8.decodeText? field.name, valueText? field.value with
  | some name, some value => reply.withHeader name value
  | _, _ => reply

/-- The reply, if it can be made out. -/
def replyOf? (method : String) (bytes : Bytes) : Option Reply := do
  let (head, rest) ← finalHeadOf? bytes
  let contents := received (← framing? method head) rest
  let headed := head.fields.foldl withField (Reply.make head.status)
  some (headed.withBody { Body.whole contents.bytes with breaksOff := !contents.complete })

/-- Sends a request to a peer, which answers or does not. -/
def send (peer : Message → Option Bytes) (request : Request) : Attempt Reply :=
  (message request).map (fun written => do
    let sent ← written
    match (peer sent).bind (replyOf? request.method) with
    | some reply => .ok reply
    | none => .error (.network (.unanswered (withoutUser request.url).toText)))

end SignedRest.Wire
