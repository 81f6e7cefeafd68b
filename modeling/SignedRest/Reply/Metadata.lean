/-
What the headers of a reply tell about it.
-/

import SignedRest.Reply
import SignedRest.Time.MessageDate

namespace SignedRest

structure Metadata where
  requestId : Option String := none
  contentLength : Option Nat := none
  contentType : Option String := none
  contentMd5 : Option String := none
  contentEncoding : Option String := none
  contentDisposition : Option String := none
  transferEncoding : Option String := none
  cacheControl : Option String := none
  etag : Option String := none
  location : Option String := none
  server : Option String := none
  date : Option Timestamp := none
  lastModified : Option Timestamp := none
  expires : Option Timestamp := none
deriving DecidableEq, Inhabited

namespace Metadata

/-- A length in decimal digits, with or without a plus sign, below 2^64. -/
def length? (text : String) : Option Nat :=
  let digits := match (Text.trim text).toList with
    | '+' :: rest => rest
    | chars => chars
  if digits.isEmpty ∨ ¬ digits.all Char.isDigit then none
  else
    let value := digits.foldl (fun total digit => total * 10 + (digit.toNat - 48)) 0
    if value < UInt64.size then some value else none

def unquoted (text : String) : String :=
  String.ofList (Text.stripWhere (· = '"') text.toList)

/-- A field that cannot be read counts as absent. -/
def ofReply (reply : Reply) : Metadata :=
  { requestId := reply.header? Header.requestId
    contentLength := (reply.header? Header.contentLength).bind length?
    contentType := reply.header? Header.contentType
    contentMd5 := reply.header? Header.contentMd5
    contentEncoding := reply.header? "content-encoding"
    contentDisposition := reply.header? "content-disposition"
    transferEncoding := reply.header? "transfer-encoding"
    cacheControl := reply.header? "cache-control"
    etag := (reply.header? "etag").map unquoted
    location := reply.header? "location"
    server := reply.header? "server"
    date := (reply.header? Header.date).bind Time.MessageDate.ofText?
    lastModified := (reply.header? "last-modified").bind Time.MessageDate.ofText?
    expires := (reply.header? "expires").bind Time.MessageDate.ofText? }

end Metadata

end SignedRest
