/-
Composed text. Characters are taken apart, the marks after each character are sorted by class where
they can change places, and what can be combined is combined again. Syllables of Hangul are made of
two or three letters by calculation. Of each character that has another composed form on its own,
the text has to hold that form already.
-/

import SignedRest.Unicode.Combining

namespace SignedRest.Unicode

/-! ### Syllables -/

def firstSyllable : Nat := 0xAC00
def firstLead : Nat := 0x1100
def firstVowel : Nat := 0x1161

/-- Tails are numbered from one; a syllable with the number zero has none. -/
def beforeTails : Nat := 0x11A7

def leadCount : Nat := 19
def vowelCount : Nat := 21
def tailCount : Nat := 28

def syllableCount : Nat := leadCount * vowelCount * tailCount

/-- Lead, vowel and tail numbers of a syllable. -/
def syllable? (c : Char) : Option (Nat × Nat × Nat) :=
  let place := c.toNat - firstSyllable
  if firstSyllable ≤ c.toNat ∧ place < syllableCount then
    some (place / tailCount / vowelCount, place / tailCount % vowelCount, place % tailCount)
  else none

def syllableChars : Nat × Nat × Nat → List Char
  | (lead, vowel, tail) =>
      [Char.ofNat (firstLead + lead), Char.ofNat (firstVowel + vowel)] ++
        if tail = 0 then [] else [Char.ofNat (beforeTails + tail)]

/-- The number of a character among those from a first one on. -/
def placeFrom? (first count : Nat) (c : Char) : Option Nat :=
  if first ≤ c.toNat ∧ c.toNat < first + count then some (c.toNat - first) else none

/-- The syllable of a lead and a vowel, or of a syllable without a tail and a tail. -/
def joinedSyllable? (first second : Char) : Option Char :=
  match placeFrom? firstLead leadCount first, placeFrom? firstVowel vowelCount second with
  | some lead, some vowel =>
      some (Char.ofNat (firstSyllable + (lead * vowelCount + vowel) * tailCount))
  | _, _ =>
      match syllable? first, placeFrom? (beforeTails + 1) (tailCount - 1) second with
      | some (_, _, 0), some place => some (Char.ofNat (first.toNat + place + 1))
      | _, _ => none

/-! ### Taking apart -/

/-- How often a part of a composite is a composite again, at most. -/
def greatestNesting : Nat := 4

def takenApartWithin : Nat → Char → List Char
  | 0, c => [c]
  | depth + 1, c =>
      match parts? c with
      | some (first, second) => takenApartWithin depth first ++ takenApartWithin depth second
      | none => [c]

def takenApart (c : Char) : List Char :=
  match syllable? c with
  | some numbers => syllableChars numbers
  | none => takenApartWithin greatestNesting c

/-! ### Sorting -/

/-- Puts a mark after those of lower classes; marks of one class keep their order. -/
def putMark (c : Char) : List Char → List Char
  | [] => [c]
  | first :: rest =>
      if 0 < combiningClass first ∧ combiningClass first < combiningClass c then
        first :: putMark c rest
      else c :: first :: rest

def sortMarks (chars : List Char) : List Char :=
  chars.foldr putMark []

/-! ### Combining -/

def combined? (first second : Char) : Option Char :=
  (joinedSyllable? first second).or (composite? first second)

/-- Combines what follows a character with it, as far as no mark of the same class or of a higher
one stands between them. `marks` are those left in between, the last one first. -/
def combineAfter (base : Char) (marks : List Char) : List Char → List Char
  | [] => base :: marks.reverse
  | c :: rest =>
      let reaches := marks.head?.all (fun mark => combiningClass mark < combiningClass c)
      match if reaches then combined? base c else none with
      | some joined => combineAfter joined marks rest
      | none =>
          if combiningClass c = 0 then base :: marks.reverse ++ combineAfter c [] rest
          else combineAfter base (c :: marks) rest

/-- Marks in front, which have no character to combine with, stay. -/
def combine : List Char → List Char
  | [] => []
  | c :: rest => if combiningClass c = 0 then combineAfter c [] rest else c :: combine rest

def composed (chars : List Char) : List Char :=
  combine (sortMarks (chars.flatMap takenApart))

end SignedRest.Unicode
