/-
What is made of a reply. Handlers look at it in order; each passes it on, ends the work, or fails.
The body is released in the end on every path.
-/

import SignedRest.Error
import SignedRest.Reply.ErrorDocument
import SignedRest.Reply.Metadata

namespace SignedRest

/-- What handlers have found so far. -/
structure Findings where
  metadata : Metadata := {}
  payload : Option Json := none
deriving Inhabited

inductive Verdict where
  | next
  | stop
  | fail (error : Error)
deriving DecidableEq, Inhabited

/-- A handler of the library, or one that only has a verdict. -/
inductive Handler where
  | metadata
  | error
  | json
  | fixed (verdict : Verdict)
deriving DecidableEq, Inhabited

structure Exchange where
  reply : Reply
  findings : Findings

namespace Handler

def standard : List Handler := [metadata, error, json]

/-- The error of a reply that tells no message of its own. -/
def fallbackError (reply : Reply) (findings : Findings) : ServiceError :=
  { code := none, message := reply.statusText, requestId := findings.metadata.requestId
    status := reply.status }

/-- As much of an error body as its declared length, if that is known and positive. -/
def errorContents (reply : Reply) (findings : Findings) : Option Body.Contents :=
  match reply.body?, findings.metadata.contentLength with
  | some body, some length => if length = 0 then none else some (body.readUpTo length)
  | _, _ => none

def serviceError (reply : Reply) (findings : Findings) (contents : Option Body.Contents) :
    ServiceError :=
  let document := contents.bind (fun contents =>
    if contents.complete then ErrorDocument.ofBytes? contents.bytes else none)
  match document with
  | some { code, message := some message, requestId } =>
      { code, message, requestId, status := reply.status }
  | _ => fallbackError reply findings

/-- A reply that is no success becomes an error, from its body if that tells a message. -/
def runError (exchange : Exchange) : Exchange × Verdict :=
  let { reply, findings } := exchange
  if reply.isSuccess then (exchange, .next)
  else
    let contents := errorContents reply findings
    let read := (contents.map (·.bytes.length)).getD 0
    (⟨reply.release read, findings⟩, .fail (.service (serviceError reply findings contents)))

def isBlankByte (byte : UInt8) : Bool :=
  byte == 0x20 || byte == 0x09 || byte == 0x0A || byte == 0x0C || byte == 0x0D

/-- The whole body is the payload, unless it is blank. -/
def runJson (exchange : Exchange) : Exchange × Verdict :=
  let { reply, findings } := exchange
  match reply.body? with
  | none => (exchange, .stop)
  | some body =>
      let contents := body.readAll
      let reply := reply.release contents.bytes.length
      if !contents.complete then (⟨reply, findings⟩, .fail (.stream "body failed"))
      else if contents.bytes.all isBlankByte then (⟨reply, findings⟩, .stop)
      else match Json.ofBytes? contents.bytes with
        | some payload => (⟨reply, { findings with payload := some payload }⟩, .stop)
        | none => (⟨reply, findings⟩, .fail .json)

def run : Handler → Exchange → Exchange × Verdict
  | metadata, ⟨reply, findings⟩ =>
      (⟨reply, { findings with metadata := Metadata.ofReply reply }⟩, .next)
  | error, exchange => runError exchange
  | json, exchange => runJson exchange
  | fixed verdict, exchange => (exchange, verdict)

/-- Runs handlers until one does not pass the reply on. -/
def runAll : List Handler → Exchange → Exchange × Result Unit
  | [], exchange => (exchange, .ok ())
  | handler :: rest, exchange =>
      match handler.run exchange with
      | (exchange, .next) => runAll rest exchange
      | (exchange, .stop) => (exchange, .ok ())
      | (exchange, .fail cause) => (exchange, .error cause)

end Handler

/-- The reply with its body released, and what was found in it. -/
def Reply.process (reply : Reply) (handlers : List Handler) : Reply × Result Findings :=
  match Handler.runAll handlers ⟨reply, {}⟩ with
  | (exchange, .ok _) => (exchange.reply.release 0, .ok exchange.findings)
  | (exchange, .error error) => (exchange.reply.release 0, .error error)

end SignedRest
