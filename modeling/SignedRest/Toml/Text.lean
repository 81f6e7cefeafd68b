/-
Strings of a TOML document. A basic string stands in double quotes and has escapes, a literal string
stands in single quotes and has none; three quotes let a string run over several lines.
-/

import SignedRest.Number.Digits
import SignedRest.Toml

namespace SignedRest.Toml

/-- Control characters that no string holds as they are. -/
def isControl (c : Char) : Bool :=
  (c.toNat < 0x20 && c ≠ '\t') || c.toNat = 0x7F

def shortEscape? (c : Char) : Option Char :=
  if c = 'b' then some '\x08'
  else if c = 't' then some '\t'
  else if c = 'n' then some '\n'
  else if c = 'f' then some '\x0c'
  else if c = 'r' then some '\r'
  else if c = 'e' then some '\x1b'
  else if c = '"' then some '"'
  else if c = '\\' then some '\\'
  else none

/-- The number of digits that an escape by number has. -/
def escapeWidth? (c : Char) : Option Nat :=
  if c = 'x' then some 2 else if c = 'u' then some 4 else if c = 'U' then some 8 else none

def charOf? (value : Nat) : Option Char :=
  if value.isValidChar then some (Char.ofNat value) else none

/-- Where a reader stands inside a basic string: at a character, after a backslash, at the
digits of an escape, in the blanks before the line break that a backslash hides, or in the
blanks after that. -/
inductive Place where
  | plain
  | escape
  | digits (missing value : Nat)
  | gap
  | trim
deriving DecidableEq, Inhabited

abbrev Reading := Option (List Char × List Char)

def Reading.push (c : Char) (reading : Reading) : Reading :=
  reading.map (fun (chars, rest) => (c :: chars, rest))

/-- The digits of an escape, one of which is read here. -/
def digitStep (missing value : Nat) (c : Char) : Option (Option Char × Place) := do
  let total := value * 16 + (← Number.digitOfChar? 16 c)
  if missing = 1 then some (some (← charOf? total), .plain)
  else some (none, .digits (missing - 1) total)

/-- What a character after a backslash does, line breaks apart. -/
def escapeStep (c : Char) : Option (Option Char × Place) :=
  match shortEscape? c, escapeWidth? c with
  | some char, _ => some (some char, .plain)
  | none, some width => some (none, .digits width 0)
  | none, none => none

/-- Reads a basic string on one line, up to and over the closing quote. -/
def basic? : Place → List Char → Reading
  | _, [] => none
  | .escape, c :: rest => do
      let (char, place) ← escapeStep c
      match char with
      | some char => Reading.push char (basic? place rest)
      | none => basic? place rest
  | .digits missing value, c :: rest => do
      let (char, place) ← digitStep missing value c
      match char with
      | some char => Reading.push char (basic? place rest)
      | none => basic? place rest
  | _, c :: rest =>
      if c = '"' then some ([], rest)
      else if c = '\\' then basic? .escape rest
      else if isControl c then none
      else Reading.push c (basic? .plain rest)

/-- Up to two more quotes belong to the string when it ends. -/
def closingQuotes (quote : Char) : List Char → List Char × List Char
  | first :: second :: rest =>
      if first = quote ∧ second = quote then ([quote, quote], rest)
      else if first = quote then ([quote], second :: rest)
      else ([], first :: second :: rest)
  | [first] => if first = quote then ([quote], []) else ([], [first])
  | [] => ([], [])

def startsWithTwo (quote : Char) : List Char → Bool
  | first :: second :: _ => first = quote && second = quote
  | _ => false

def isLineBlank (c : Char) : Bool :=
  c = ' ' || c = '\t'

/-- Whether a line break, perhaps of two characters, stands here. -/
def breaksLine (c : Char) (rest : List Char) : Bool :=
  c = '\n' || (c = '\r' && rest.head? = some '\n')

/-- Reads a basic string of several lines. -/
def longBasic? : Place → List Char → Reading
  | _, [] => none
  | .escape, c :: rest =>
      if isLineBlank c then longBasic? .gap rest
      else if breaksLine c rest then longBasic? .trim rest
      else do
        let (char, place) ← escapeStep c
        match char with
        | some char => Reading.push char (longBasic? place rest)
        | none => longBasic? place rest
  | .digits missing value, c :: rest => do
      let (char, place) ← digitStep missing value c
      match char with
      | some char => Reading.push char (longBasic? place rest)
      | none => longBasic? place rest
  | .gap, c :: rest =>
      if isLineBlank c then longBasic? .gap rest
      else if breaksLine c rest then longBasic? .trim rest
      else none
  | place, c :: rest =>
      if place = .trim ∧ (isLineBlank c ∨ breaksLine c rest) then longBasic? .trim rest
      else if c = '"' ∧ startsWithTwo '"' rest then some (closingQuotes '"' (rest.drop 2))
      else if c = '\\' then longBasic? .escape rest
      else if isControl c ∧ ¬ breaksLine c rest then none
      else Reading.push c (longBasic? .plain rest)

def literal? : List Char → Reading
  | [] => none
  | c :: rest =>
      if c = '\'' then some ([], rest)
      else if isControl c then none
      else Reading.push c (literal? rest)

def longLiteral? : List Char → Reading
  | [] => none
  | c :: rest =>
      if c = '\'' ∧ startsWithTwo '\'' rest then some (closingQuotes '\'' (rest.drop 2))
      else if isControl c ∧ ¬ breaksLine c rest then none
      else Reading.push c (longLiteral? rest)

/-- A line break right after the opening quotes does not count. -/
def dropFirstBreak : List Char → List Char
  | '\n' :: rest => rest
  | '\r' :: '\n' :: rest => rest
  | chars => chars

/-- A string of any of the four kinds. -/
def string? : List Char → Reading
  | '"' :: '"' :: '"' :: rest => longBasic? .plain (dropFirstBreak rest)
  | '"' :: rest => basic? .plain rest
  | '\'' :: '\'' :: '\'' :: rest => longLiteral? (dropFirstBreak rest)
  | '\'' :: rest => literal? rest
  | _ => none

/-! ### Writing -/

/-- The longest run of a character. -/
def longestRun (c : Char) : Nat → List Char → Nat
  | run, [] => run
  | run, first :: rest =>
      if first = c then longestRun c (run + 1) rest else max run (longestRun c 0 rest)

/-- A control character in a basic string. -/
def escapeControl (c : Char) : List Char :=
  if c = '\x08' then ['\\', 'b']
  else if c = '\t' then ['\\', 't']
  else if c = '\x0c' then ['\\', 'f']
  else if c = '\r' then ['\\', 'r']
  else ['\\', 'u', '0', '0', Number.upperDigit (c.toNat / 16), Number.upperDigit (c.toNat % 16)]

/-- A character of a basic string on one line. -/
def basicChar (c : Char) : List Char :=
  if c = '"' then ['\\', '"']
  else if c = '\\' then ['\\', '\\']
  else if c = '\n' then ['\\', 'n']
  else if c = '\t' ∨ isControl c then escapeControl c
  else [c]

/-- The characters of a basic string of several lines, after a run of quotes. Of each three quotes
in a row the last is escaped. -/
def longBasicChars : Nat → List Char → List Char
  | _, [] => []
  | quotes, c :: rest =>
      if c = '"' then
        if quotes = 2 then '\\' :: '"' :: longBasicChars 0 rest
        else '"' :: longBasicChars (quotes + 1) rest
      else if c = '\\' then '\\' :: '\\' :: longBasicChars 0 rest
      else if c = '\n' then '\n' :: longBasicChars 0 rest
      else if c = '\t' ∨ isControl c then escapeControl c ++ longBasicChars 0 rest
      else c :: longBasicChars 0 rest

/-- The kinds in which a string can be written. -/
inductive Style where
  | basic
  | literal
  | longBasic
  | longLiteral
deriving DecidableEq, Inhabited

/-- The first style that needs no escapes but for tabs, or else a basic one. -/
def styleOf (chars : List Char) : Style :=
  let controls := chars.any (fun c => isControl c && c ≠ '\n')
  let lines := chars.contains '\n'
  let double := longestRun '"' 0 chars
  let single := longestRun '\'' 0 chars
  let backslash := chars.contains '\\'
  if !controls && !backslash && double = 0 && !lines then .basic
  else if !controls && single = 0 && !lines then .literal
  else if !controls && !backslash && double < 3 then .longBasic
  else if !controls && single < 3 then .longLiteral
  else if lines then .longBasic
  else .basic

/-- A string of several lines starts on a line of its own. -/
def firstBreak (chars : List Char) : List Char :=
  if chars.contains '\n' then ['\n'] else []

def writeChars (chars : List Char) : List Char :=
  let double := ['"', '"', '"']
  let single := ['\'', '\'', '\'']
  match styleOf chars with
  | .basic => '"' :: chars.flatMap basicChar ++ ['"']
  | .literal => '\'' :: chars ++ ['\'']
  | .longBasic => double ++ firstBreak chars ++ longBasicChars 0 chars ++ double
  | .longLiteral => single ++ firstBreak chars ++ chars ++ single

def writeText (value : String) : List Char :=
  writeChars value.toList

end SignedRest.Toml
