/-
Text in quotes, as logs show it. Quotes, backslashes and line ends have short escapes; characters
that cannot be shown on their own are written by number.
-/

import SignedRest.Unicode.Shown

namespace SignedRest.Text

def hexText (value : Nat) : List Char :=
  Nat.toDigits 16 value

def quotedChar (c : Char) : List Char :=
  if c = '"' then ['\\', '"']
  else if c = '\\' then ['\\', '\\']
  else if c = '\n' then ['\\', 'n']
  else if c = '\r' then ['\\', 'r']
  else if c = '\t' then ['\\', 't']
  else if c = '\x00' then ['\\', '0']
  else if Unicode.isShown c then [c]
  else '\\' :: 'u' :: '\x7b' :: hexText c.toNat ++ ['\x7d']

def quoted (text : String) : String :=
  String.ofList ('"' :: text.toList.flatMap quotedChar ++ ['"'])

end SignedRest.Text
