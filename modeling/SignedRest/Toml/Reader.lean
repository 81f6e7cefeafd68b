/-
Reading of TOML documents: one statement a line, either a header or a key with its value.
-/

import SignedRest.Toml.Assembly
import SignedRest.Toml.Scalar
import SignedRest.Toml.Text

namespace SignedRest.Toml

def skipBlank (chars : List Char) : List Char :=
  chars.dropWhile isLineBlank

/-- Skips blanks, line breaks and comments. Comments hold no control characters but tabs. -/
def skipLines? : Bool → List Char → Option (List Char)
  | _, [] => some []
  | inComment, c :: rest =>
      if c = '\n' then skipLines? false rest
      else if breaksLine c rest then skipLines? inComment rest
      else if inComment then (if isControl c then none else skipLines? true rest)
      else if isLineBlank c then skipLines? false rest
      else if c = '#' then skipLines? true rest
      else some (c :: rest)

/-- What follows a statement on its line: nothing, or a comment. Answers with the next line. -/
def endLine? : Bool → List Char → Option (List Char)
  | _, [] => some []
  | inComment, c :: rest =>
      if c = '\n' then some rest
      else if breaksLine c rest then endLine? inComment rest
      else if inComment then (if isControl c then none else endLine? true rest)
      else if isLineBlank c then endLine? false rest
      else if c = '#' then endLine? true rest
      else none

def isKeyChar (c : Char) : Bool :=
  c.isAlphanum || c = '_' || c = '-'

/-- A bare or quoted key. Strings of several lines are no keys. -/
def key? : List Char → Option (String × List Char)
  | '"' :: '"' :: '"' :: _ => none
  | '\'' :: '\'' :: '\'' :: _ => none
  | '"' :: rest => (basic? .plain rest).map (fun (chars, after) => (String.ofList chars, after))
  | '\'' :: rest => (literal? rest).map (fun (chars, after) => (String.ofList chars, after))
  | chars =>
      let name := chars.takeWhile isKeyChar
      if name.isEmpty then none else some (String.ofList name, chars.dropWhile isKeyChar)

/-- So many keys with dots between them, and blanks around those. -/
def path? : Nat → List Char → Option (List String × List Char)
  | 0, _ => none
  | limit + 1, chars => do
      let (name, rest) ← key? (skipBlank chars)
      match skipBlank rest with
      | '.' :: rest =>
          let (names, rest) ← path? limit rest
          some (name :: names, rest)
      | rest => some ([name], rest)

/-- How deep tables and arrays may stand in each other, be it by brackets or by dots. -/
def greatestDepth : Nat := 80

def pathOf? (chars : List Char) : Option (List String × List Char) :=
  path? greatestDepth chars

def text? (chars : List Char) : Option (Toml × List Char) :=
  (string? chars).map (fun (found, after) => (text (String.ofList found), after))

mutual

/-- A value within a limit on how deep arrays and tables are nested. -/
def value? : Nat → Nat → List Char → Option (Toml × List Char)
  | 0, _, _ => none
  | fuel + 1, depth, chars =>
      match chars with
      | '[' :: rest =>
          if depth = 0 then none
          else (items? fuel (depth - 1) rest).map (fun (items, after) => (.array items, after))
      | '\x7b' :: rest => do
          if depth = 0 then none
          let (pairs, after) ← pairs? fuel (depth - 1) rest
          some (← inlineTable? pairs, after)
      | '"' :: _ => text? chars
      | '\'' :: _ => text? chars
      | _ =>
          let (front, after) := scalarText chars
          (scalar? front).map (·, after)

/-- The items of an array up to and over the closing bracket; a comma may follow the last. -/
def items? : Nat → Nat → List Char → Option (List Toml × List Char)
  | 0, _, _ => none
  | fuel + 1, depth, chars => do
      match ← skipLines? false chars with
      | ']' :: rest => some ([], rest)
      | rest =>
          let (first, rest) ← value? fuel depth rest
          match ← skipLines? false rest with
          | ']' :: rest => some ([first], rest)
          | ',' :: rest =>
              let (others, rest) ← items? fuel depth rest
              some (first :: others, rest)
          | _ => none

/-- The keys and values of an inline table. -/
def pairs? : Nat → Nat → List Char → Option (List (List String × Toml) × List Char)
  | 0, _, _ => none
  | fuel + 1, depth, chars => do
      match ← skipLines? false chars with
      | '\x7d' :: rest => some ([], rest)
      | rest =>
          let (path, rest) ← pathOf? rest
          match rest with
          | '=' :: rest =>
              let (value, rest) ← value? fuel depth (skipBlank rest)
              match ← skipLines? false rest with
              | '\x7d' :: rest => some ([(path, value)], rest)
              | ',' :: rest =>
                  let (others, rest) ← pairs? fuel depth rest
                  some ((path, value) :: others, rest)
              | _ => none
          | _ => none

end

inductive Statement where
  | assign (path : List String) (value : Toml)
  | declare (path : List String)
  | append (path : List String)
deriving Inhabited

/-- One statement, without the end of its line. -/
def statement? (chars : List Char) : Option (Statement × List Char) :=
  match chars with
  | '[' :: '[' :: rest => do
      let (path, rest) ← pathOf? rest
      match rest with
      | ']' :: ']' :: rest => some (.append path, rest)
      | _ => none
  | '[' :: rest => do
      let (path, rest) ← pathOf? rest
      match rest with
      | ']' :: rest => some (.declare path, rest)
      | _ => none
  | _ => do
      let (path, rest) ← pathOf? chars
      match rest with
      | '=' :: rest =>
          let (value, rest) ← value? (2 * rest.length + 2) greatestDepth (skipBlank rest)
          some (.assign path value, rest)
      | _ => none

def statements? : Nat → List Char → Option (List Statement)
  | 0, _ => none
  | fuel + 1, chars => do
      match ← skipLines? false chars with
      | [] => some []
      | rest =>
          let (first, rest) ← statement? rest
          let others ← statements? fuel (← endLine? false rest)
          some (first :: others)

/-- Carries out statements; assignments go to the table that the last header names. -/
def assemble? : List String → Members → List Statement → Option Members
  | _, members, [] => some members
  | header, members, .assign path value :: rest => do
      assemble? header (← members.assign header path value) rest
  | _, members, .declare path :: rest => do assemble? path (← members.declare path) rest
  | _, members, .append path :: rest => do assemble? path (← members.append path) rest

/-- A mark of the byte order may stand first. -/
def dropMark : List Char → List Char
  | '\ufeff' :: rest => rest
  | chars => chars

/-- The members of the document's root. -/
def ofText? (text : String) : Option (List (String × Toml)) := do
  let chars := dropMark text.toList
  let statements ← statements? (chars.length + 1) chars
  (assemble? [] [] statements).map Node.closeMembers

end SignedRest.Toml
