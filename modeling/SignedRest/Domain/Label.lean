/-
Labels of domain names. A label that holds characters outside ASCII is written in ASCII behind a
mark; such labels are checked: they do not start with a mark of another character, and joiners stand
only where they change how the characters around them look.
-/

import SignedRest.Domain.Mapping
import SignedRest.Domain.Punycode
import SignedRest.Unicode.Composed
import SignedRest.Unicode.Direction
import SignedRest.Unicode.Joining

namespace SignedRest.Domain

open Unicode (Direction)

def isAscii (c : Char) : Bool :=
  c.toNat < 0x80

/-- What stands before a label that is written in ASCII. -/
def asciiMark : List Char := "xn--".toList

def isMarked (label : List Char) : Bool :=
  asciiMark.isPrefixOf label

def nonJoiner : Char := '\u200C'
def joiner : Char := '\u200D'

/-- Whether letters around this place join across it, seen from both sides. -/
def joinsAcross (before after : List Char) : Bool :=
  (before.dropWhile Unicode.isTransparent).head?.any Unicode.joinsForward &&
    (after.dropWhile Unicode.isTransparent).head?.any Unicode.joinsBack

/-- A joiner follows a sign that takes a vowel away. One that keeps letters apart may also stand
between letters that would join. The characters before are given from the last one on. -/
def joinersFit (before : List Char) : List Char → Bool
  | [] => true
  | c :: rest =>
      let followsKiller := before.head?.any Unicode.killsVowel
      let fits :=
        if c = joiner then followsKiller
        else if c = nonJoiner then followsKiller || joinsAcross before rest
        else true
      fits && joinersFit (c :: before) rest

def isSound (label : List Char) : Bool :=
  !label.head?.any Unicode.isMark && joinersFit [] label

def greatestWritten : Nat := 2000
def greatestLabel : Nat := 1000

/-- The characters of a label behind the mark. They have the form in which they would have been
kept, and not all of them are ASCII. -/
def unmarked? (text : List Char) : Option (List Char) := do
  if text.length > greatestWritten ∨ !text.all isAscii then none
  let label ← Punycode.decode? text
  if label.all isAscii then none
  else if label.all isKept ∧ Unicode.composed label = label then some label
  else none

/-- The characters of a label as it stands in a name. -/
def characters? (label : List Char) : Option (List Char) := do
  let chars ← if isMarked label then unmarked? (label.drop asciiMark.length) else some label
  if chars.all isAscii ∨ isSound chars then some chars else none

def asciiLabel? (chars : List Char) : Option (List Char) :=
  if chars.all isAscii then some chars
  else if chars.length > greatestLabel then none
  else some (asciiMark ++ Punycode.encode chars)

/-! ### Direction -/

/-- Whether a label reads the same in a text of either direction. It starts with a letter, which
tells its own direction; it has no letters of the other one, it ends in a letter or number that
marks may follow, and numbers of both kinds do not meet in it. -/
def readsAlike (label : List Direction) : Bool :=
  match label.head?, (label.reverse.dropWhile (· = .mark)).head? with
  | none, _ => true
  | some .left, some last =>
      !label.contains .right && !label.contains .arabicNumber && (last = .left || last = .number)
  | some .right, some last =>
      !label.contains .left && (last = .right || last = .number || last = .arabicNumber) &&
        !(label.contains .number && label.contains .arabicNumber)
  | some _, _ => false

/-- The rule of direction holds for all labels of a name as soon as one of them needs it. -/
def directionsFit (labels : List (List Char)) : Bool :=
  !labels.any (·.any Direction.isRightToLeft) ||
    labels.all (fun label => readsAlike (label.map Direction.ofChar))

end SignedRest.Domain
