/-
Domain names in ASCII form. The characters of a name are mapped and composed, and each label is
checked and written in ASCII. Which names exist, and how long they may be, is not asked here.
-/

import SignedRest.Domain.Label

namespace SignedRest.Domain

/-- ASCII characters that no name in a URL holds. -/
def isForbidden (c : Char) : Bool :=
  c.toNat ≤ 0x20 || c.toNat = 0x7F || "%#/:<>?@[\\]^|".toList.contains c

def allowed? (name : List Char) : Option (List Char) :=
  if name.any isForbidden then none else some name

/-- Whether a name is ASCII, and no label of it stands for one that is not. -/
def isPlain (name : List Char) : Bool :=
  name.all isAscii && !(Text.split '.' name).any isMarked

/-- The labels of a name whose characters have been mapped. No dot combines with what follows it, so
each label is composed on its own. -/
def labels? (name : List Char) : Option (List (List Char)) :=
  (name.mapM replacement?).map (fun pieces => (Text.split '.' pieces.flatten).map Unicode.composed)

/-- A plain name only needs small letters. -/
def toAscii? (name : List Char) : Option (List Char) :=
  let small := name.map Char.toLower
  if isPlain small then allowed? small
  else do
    let labels ← (← labels? name).mapM characters?
    if directionsFit labels then allowed? (Text.join '.' (← labels.mapM asciiLabel?)) else none

end SignedRest.Domain
