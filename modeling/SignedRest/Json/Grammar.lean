/-
JSON as it may be written, whatever reads it. A tree tells what a text says; a text writes a tree in
many ways, which differ in blanks, in escapes, and in how exponents are marked.
-/

import SignedRest.Json.Document

namespace SignedRest.Json

/-- What a JSON text says: strings as texts, numbers digit by digit, members in their order. -/
inductive Tree where
  | null
  | bool (value : Bool)
  | number (literal : Literal)
  | text (value : String)
  | array (items : List Tree)
  | object (members : List (String × Tree))
deriving Inhabited

namespace Grammar

/-! ### Strings -/

/-- The marks of short escapes, and what they stand for. -/
def shortEscapes : List (Char × Char) :=
  [('"', '"'), ('\\', '\\'), ('/', '/'), ('b', '\x08'), ('f', '\x0C'), ('n', '\n'), ('r', '\r'),
   ('t', '\t')]

/-- Four hexadecimal digits of either case. -/
def SpellsUnit (value : Nat) (digits : List Char) : Prop :=
  digits.length = 4 ∧ Number.ofChars? 16 digits = some value

inductive SpellsChar : Char → List Char → Prop where
  | plain {c : Char} (printable : 0x20 ≤ c.toNat) (notQuote : c ≠ '"') (notEscape : c ≠ '\\') :
      SpellsChar c [c]
  | short {mark c : Char} (listed : (mark, c) ∈ shortEscapes) : SpellsChar c ['\\', mark]
  | unit {c : Char} {digits : List Char} (spells : SpellsUnit c.toNat digits) :
      SpellsChar c ('\\' :: 'u' :: digits)
  | pair {c : Char} {high low : Nat} {highDigits lowDigits : List Char}
      (spellsHigh : SpellsUnit high highDigits) (spellsLow : SpellsUnit low lowDigits)
      (highRange : 0xD800 ≤ high ∧ high < 0xDC00) (lowRange : 0xDC00 ≤ low ∧ low ≤ 0xDFFF)
      (whole : c.toNat = 0x10000 + (high - 0xD800) * 0x400 + (low - 0xDC00)) :
      SpellsChar c ('\\' :: 'u' :: highDigits ++ '\\' :: 'u' :: lowDigits)

/-- What stands between the quotes of a string. -/
inductive SpellsText : List Char → List Char → Prop where
  | nil : SpellsText [] []
  | cons {c : Char} {rest front back : List Char} (first : SpellsChar c front)
      (later : SpellsText rest back) : SpellsText (c :: rest) (front ++ back)

/-! ### Numbers -/

structure SpellsDigits (digits : List Nat) (chars : List Char) : Prop where
  filled : digits ≠ []
  decimal : ∀ digit ∈ digits, digit < 10
  written : chars = digits.map Nat.digitChar

inductive SpellsFraction : Option (List Nat) → List Char → Prop where
  | absent : SpellsFraction none []
  | present {digits : List Nat} {chars : List Char} (spells : SpellsDigits digits chars) :
      SpellsFraction (some digits) ('.' :: chars)

inductive SpellsExponent : Option (Bool × List Nat) → List Char → Prop where
  | absent : SpellsExponent none []
  | unsigned {mark : Char} {digits : List Nat} {chars : List Char}
      (marks : mark = 'e' ∨ mark = 'E') (spells : SpellsDigits digits chars) :
      SpellsExponent (some (false, digits)) (mark :: chars)
  | positive {mark : Char} {digits : List Nat} {chars : List Char}
      (marks : mark = 'e' ∨ mark = 'E') (spells : SpellsDigits digits chars) :
      SpellsExponent (some (false, digits)) (mark :: '+' :: chars)
  | negative {mark : Char} {digits : List Nat} {chars : List Char}
      (marks : mark = 'e' ∨ mark = 'E') (spells : SpellsDigits digits chars) :
      SpellsExponent (some (true, digits)) (mark :: '-' :: chars)

/-- No zero stands in front of other digits before the point. -/
inductive SpellsNumber : Literal → List Char → Prop where
  | parts {negative : Bool} {whole : List Nat} {fraction : Option (List Nat)}
      {exponent : Option (Bool × List Nat)} {wholeChars fractionChars exponentChars : List Char}
      (spellsWhole : SpellsDigits whole wholeChars)
      (leading : whole.head? = some 0 → whole.length = 1)
      (spellsFraction : SpellsFraction fraction fractionChars)
      (spellsExponent : SpellsExponent exponent exponentChars) :
      SpellsNumber ⟨negative, whole, fraction, exponent⟩
        ((if negative then ['-'] else []) ++ wholeChars ++ fractionChars ++ exponentChars)

/-! ### Values -/

def blanks : List Char := [' ', '\t', '\n', '\r']

def IsBlank (chars : List Char) : Prop :=
  ∀ c ∈ chars, c ∈ blanks

/-- What a part of a text can be: one value, or what stands between the brackets of an array or the
braces of an object that is not empty. -/
inductive Part where
  | value (tree : Tree)
  | items (trees : List Tree)
  | members (members : List (String × Tree))

inductive Writes : Part → List Char → Prop where
  | null : Writes (.value .null) "null".toList
  | true : Writes (.value (.bool true)) "true".toList
  | false : Writes (.value (.bool false)) "false".toList
  | number {literal : Literal} {chars : List Char} (spells : SpellsNumber literal chars) :
      Writes (.value (.number literal)) chars
  | text {chars spelled : List Char} (spells : SpellsText chars spelled) :
      Writes (.value (.text (String.ofList chars))) ('"' :: spelled ++ ['"'])
  | emptyArray {inside : List Char} (blank : IsBlank inside) :
      Writes (.value (.array [])) ('[' :: inside ++ [']'])
  | array {trees : List Tree} {inside : List Char} (writes : Writes (.items trees) inside) :
      Writes (.value (.array trees)) ('[' :: inside ++ [']'])
  | emptyObject {inside : List Char} (blank : IsBlank inside) :
      Writes (.value (.object [])) ('\x7b' :: inside ++ ['\x7d'])
  | object {members : List (String × Tree)} {inside : List Char}
      (writes : Writes (.members members) inside) :
      Writes (.value (.object members)) ('\x7b' :: inside ++ ['\x7d'])
  | lastItem {tree : Tree} {before chars after : List Char} (blankBefore : IsBlank before)
      (writes : Writes (.value tree) chars) (blankAfter : IsBlank after) :
      Writes (.items [tree]) (before ++ chars ++ after)
  | moreItems {tree : Tree} {trees : List Tree} {before chars after rest : List Char}
      (blankBefore : IsBlank before) (writes : Writes (.value tree) chars)
      (blankAfter : IsBlank after) (others : Writes (.items trees) rest) :
      Writes (.items (tree :: trees)) (before ++ chars ++ after ++ ',' :: rest)
  | lastMember {name spelled before colonBefore colonAfter chars after : List Char} {tree : Tree}
      (blankBefore : IsBlank before) (spells : SpellsText name spelled)
      (blankColonBefore : IsBlank colonBefore) (blankColonAfter : IsBlank colonAfter)
      (writes : Writes (.value tree) chars) (blankAfter : IsBlank after) :
      Writes (.members [(String.ofList name, tree)])
        (before ++ '"' :: spelled ++ '"' :: colonBefore ++ ':' :: colonAfter ++ chars ++ after)
  | moreMembers {name spelled before colonBefore colonAfter chars after rest : List Char}
      {tree : Tree} {members : List (String × Tree)}
      (blankBefore : IsBlank before) (spells : SpellsText name spelled)
      (blankColonBefore : IsBlank colonBefore) (blankColonAfter : IsBlank colonAfter)
      (writes : Writes (.value tree) chars) (blankAfter : IsBlank after)
      (others : Writes (.members members) rest) :
      Writes (.members ((String.ofList name, tree) :: members))
        (before ++ '"' :: spelled ++ '"' :: colonBefore ++ ':' :: colonAfter ++ chars ++ after ++
          ',' :: rest)

/-- A whole text: one value with nothing but blanks around it. -/
def WritesWhole (tree : Tree) (chars : List Char) : Prop :=
  ∃ before inside after, IsBlank before ∧ Writes (.value tree) inside ∧ IsBlank after ∧
    chars = before ++ inside ++ after

end Grammar

end SignedRest.Json
