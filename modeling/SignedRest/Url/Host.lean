/-
Hosts as they are written in URLs.
-/

import SignedRest.Domain
import SignedRest.Url
import SignedRest.Url.Encoding

namespace SignedRest.Url

/-- The address between brackets. -/
def bracketed (chars : List Char) : Except Fault Host :=
  match Address.v6? (chars.drop 1).dropLast with
  | some groups =>
      if chars.getLast? = some ']' then .ok (.v6 groups) else .error .addressV6
  | none => .error .addressV6

def isRefusedInHost (c : Char) : Bool :=
  "\x00\t\n\r #/:<>?@[\\]^|".toList.contains c

/-- The host of a special scheme: a domain name, or an address if the name ends in a number. -/
def specialHost (chars : List Char) : Except Fault Host :=
  if chars.head? = some '[' then bracketed chars
  else
    match Domain.toAscii? (Utf8.decodeLossy (Percent.decode (Utf8.encode chars))) with
    | none => .error .internationalName
    | some [] => .error .emptyHost
    | some name =>
        if Address.endsInNumber name then
          match Address.v4? name with
          | some address => .ok (.v4 address)
          | none => .error .addressV4
        else .ok (.name (String.ofList name))

def otherHost (chars : List Char) : Except Fault Host :=
  if chars.head? = some '[' then bracketed chars
  else if chars.any isRefusedInHost then .error .hostCharacter
  else .ok (.name (encodeChars keptInPlain chars))

end SignedRest.Url
