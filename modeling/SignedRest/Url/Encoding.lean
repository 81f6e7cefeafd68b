/-
Which characters each part of a URL writes percent-encoded, beside control characters and all that
is not ASCII.
-/

import SignedRest.Text.Percent

namespace SignedRest.Url

/-- Neither a control character nor one of those listed. -/
def keeps (encoded : String) (byte : UInt8) : Bool :=
  0x20 ≤ byte && byte < 0x7F && !encoded.toList.contains (Char.ofNat byte.toNat)

def keptInPlain : UInt8 → Bool := keeps ""

def keptInFragment : UInt8 → Bool := keeps " \"<>\x60"

def keptInQuery : UInt8 → Bool := keeps " \"#<>"

def keptInSpecialQuery : UInt8 → Bool := keeps " \"#<>'"

def keptInPath : UInt8 → Bool := keeps " \"<>\x60#?\x7b\x7d"

/-- A segment that is added to a path may not be taken for several, or for an encoded one. -/
def keptInSegment : UInt8 → Bool := keeps " \"<>\x60#?\x7b\x7d/%\\"

def keptInUserInfo : UInt8 → Bool := keeps " \"<>\x60#?\x7b\x7d/:;=@[\\]^|"

def encodeChars (kept : UInt8 → Bool) (chars : List Char) : String :=
  String.ofList (Percent.encode kept (Utf8.encode chars))

end SignedRest.Url
