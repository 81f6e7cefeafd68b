/-
JSON text without blanks. Quotes, backslashes and control characters are escaped, all else stands
for itself.
-/

import SignedRest.Json
import SignedRest.Number.Digits

namespace SignedRest.Json

def escapeChar (c : Char) : List Char :=
  if c = '"' then ['\\', '"']
  else if c = '\\' then ['\\', '\\']
  else if c = '\n' then ['\\', 'n']
  else if c = '\r' then ['\\', 'r']
  else if c = '\t' then ['\\', 't']
  else if c = '\x08' then ['\\', 'b']
  else if c = '\x0c' then ['\\', 'f']
  else if c.toNat < 0x20 then
    ['\\', 'u', '0', '0', Number.lowerDigit (c.toNat / 16), Number.lowerDigit (c.toNat % 16)]
  else [c]

def writeText (value : String) : List Char :=
  '"' :: value.toList.flatMap escapeChar ++ ['"']

mutual

def write : Json → List Char
  | null => ['n', 'u', 'l', 'l']
  | bool true => ['t', 'r', 'u', 'e']
  | bool false => ['f', 'a', 'l', 's', 'e']
  | number value => value.toText.toList
  | text value => writeText value
  | array [] => ['[', ']']
  | array (first :: rest) => '[' :: write first ++ writeItems rest
  | object [] => ['\x7b', '\x7d']
  | object ((name, first) :: rest) =>
      '\x7b' :: writeText name ++ ':' :: write first ++ writeMembers rest

/-- What follows the first item of an array. -/
def writeItems : List Json → List Char
  | [] => [']']
  | item :: rest => ',' :: write item ++ writeItems rest

/-- What follows the first member of an object. -/
def writeMembers : List (String × Json) → List Char
  | [] => ['\x7d']
  | (name, item) :: rest => ',' :: writeText name ++ ':' :: write item ++ writeMembers rest

end

def toText (value : Json) : String :=
  String.ofList (write value)

end SignedRest.Json
