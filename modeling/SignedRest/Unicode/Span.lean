/-
Properties of characters, kept as text. An entry names a code point or, as `first-last`, all from
one to another, in base sixteen; with `/2` behind it, every other one of them. After a colon stand
the values that the property has there. Entries have blanks between them, and values commas.
-/

import SignedRest.Number.Digits
import SignedRest.Text.Separated

namespace SignedRest.Unicode

structure Span where
  first : Nat
  last : Nat
  step : Nat
  values : List Nat
deriving DecidableEq, Inhabited

namespace Span

def contains (span : Span) (code : Nat) : Bool :=
  span.first ≤ code && code ≤ span.last && (code - span.first) % span.step = 0

/-- The first span that holds a character. -/
def find? (spans : List Span) (c : Char) : Option Span :=
  spans.find? (fun span => span.contains c.toNat)

def covered (spans : List Span) (c : Char) : Bool :=
  spans.any (fun span => span.contains c.toNat)

def code (digits : List Char) : Nat :=
  (Number.ofChars? 16 digits).getD 0

def ofEntry (entry : List Char) : Span :=
  let (codes, values) := Text.cut ':' entry
  let (range, half) := Text.cut '/' codes
  let (first, last) := Text.cut '-' range
  ⟨code first, code (last.getD first), if half.isSome then 2 else 1,
    match values with
    | some text => (Text.split ',' text).map code
    | none => []⟩

def table (text : String) : List Span :=
  let entries := (text.splitOn "\n").flatMap (fun row => Text.split ' ' row.toList)
  (entries.filter (!·.isEmpty)).map ofEntry

end Span

end SignedRest.Unicode
