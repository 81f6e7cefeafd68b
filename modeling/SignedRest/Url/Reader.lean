/-
Reading of absolute URLs.
-/

import SignedRest.Text.Blank
import SignedRest.Url.File

namespace SignedRest.Url

def isControlOrSpace (c : Char) : Bool :=
  c.toNat ≤ 0x20

def isSchemeChar (c : Char) : Bool :=
  c.isAlphanum || c = '+' || c = '-' || c = '.'

/-- The scheme in lower case, and the text after its colon. -/
def scheme? (chars : List Char) : Option (String × List Char) :=
  match chars.head?, chars.dropWhile isSchemeChar with
  | some first, ':' :: rest =>
      let name := (chars.takeWhile isSchemeChar).map Char.toLower
      if first.isAlpha then some (String.ofList name, rest) else none
  | _, _ => none

/-- Whether a character ends the authority. -/
def endsAuthority (isSpecial : Bool) (c : Char) : Bool :=
  c = '/' || c = '?' || c = '#' || (isSpecial && c = '\\')

/-- The text before the last at sign, and the text after it. -/
def lastAt (chars : List Char) : Option (List Char × List Char) :=
  match chars.reverse.dropWhile (· ≠ '@') with
  | _ :: before => some (before.reverse, (chars.reverse.takeWhile (· ≠ '@')).reverse)
  | [] => none

/-- Username and password. A password of no characters is none. -/
def readUser (chars : List Char) : String × Option String :=
  let (name, word) := Text.cut ':' chars
  let password := match word with
    | some (first :: rest) => some (encodeChars keptInUserInfo (first :: rest))
    | _ => none
  (encodeChars keptInUserInfo name, password)

/-- The host text up to a colon that is not between brackets, and what follows. -/
def hostPart (inBrackets : Bool) : List Char → List Char × List Char
  | [] => ([], [])
  | c :: rest =>
      if c = ':' ∧ ¬ inBrackets then ([], c :: rest)
      else
        let inside := if c = '[' then true else if c = ']' then false else inBrackets
        (c :: (hostPart inside rest).1, (hostPart inside rest).2)

/-- Digits up to 65535; none at all, or the port that the scheme implies, count as no port. -/
def portPart (scheme : String) (chars : List Char) : Except Fault (Option Nat) :=
  if chars.isEmpty then .ok none
  else if chars.all Char.isDigit then
    match Number.ofChars? 10 chars with
    | some port =>
        if port > 65535 then .error .port
        else .ok (if some port = defaultPort? scheme then none else some port)
    | none => .error .port
  else .error .port

/-- Reads what stands between the double slash and the path. The port ends at a backslash in every
scheme; the text after that belongs to the path. -/
def readAuthority (scheme : String) (chars : List Char) : Except Fault (Authority × List Char) := do
  let special := isSpecial scheme
  let text := chars.takeWhile (fun c => !endsAuthority special c)
  let after := chars.dropWhile (fun c => !endsAuthority special c)
  let (user, rest) := match lastAt text with
    | some (before, rest) => (some before, rest)
    | none => (none, text)
  if user = some [] ∧ rest.isEmpty ∧ !after.isEmpty then throw .emptyHost
  let (username, password) := readUser (user.getD [])
  let (host, portText) := hostPart false rest
  if special ∧ host.isEmpty then throw .emptyHost
  let host ← if special then specialHost host else otherHost host
  if host = .name "" ∧ (!portText.isEmpty ∨ !username.isEmpty ∨ password.isSome) then
    throw .emptyHost
  let digits := (portText.drop 1).takeWhile (· ≠ '\\')
  let port ← portPart scheme digits
  return (⟨username, password, host, port⟩, (portText.drop 1).dropWhile (· ≠ '\\') ++ after)

/-- Query and fragment, from the text that starts with one of their marks. -/
def tail (special : Bool) (chars : List Char) : Option String × Option String :=
  let (front, fragment) := Text.cut '#' chars
  let query := match front with
    | '?' :: query => some (encodeChars (if special then keptInSpecialQuery else keptInQuery) query)
    | _ => none
  (query, fragment.map (encodeChars keptInFragment))

def ofFile (chars : List Char) : Except Fault Url := do
  let (authority, path, rest) ← readFile chars
  let (query, fragment) := tail true rest
  return ⟨"file", some authority, path, query, fragment⟩

/-- The path after an authority. Only in other than special schemes can it be empty. -/
def pathAfter (special : Bool) (chars : List Char) : Path :=
  match chars with
  | [] => if special then .segments [""] else .segments []
  | first :: rest =>
      let starts := first = '/' ∨ (special ∧ first = '\\')
      Path.ofChars special (if starts then rest else first :: rest)

def ofAuthority (scheme : String) (chars : List Char) : Except Fault Url := do
  let special := isSpecial scheme
  let (authority, rest) ← readAuthority scheme chars
  let path := pathAfter special (rest.takeWhile (fun c => !isTailMark c))
  let (query, fragment) := tail special (rest.dropWhile (fun c => !isTailMark c))
  return ⟨scheme, some authority, path, query, fragment⟩

def ofScheme (scheme : String) (chars : List Char) : Except Fault Url :=
  if isSpecial scheme then ofAuthority scheme (chars.dropWhile isSlash)
  else match chars with
    | '/' :: '/' :: rest => ofAuthority scheme rest
    | _ =>
        let pathText := chars.takeWhile (fun c => !isTailMark c)
        let (query, fragment) := tail false (chars.dropWhile (fun c => !isTailMark c))
        let path := match pathText with
          | '/' :: rest => Path.ofChars false rest
          | _ => .plain (encodeChars keptInPlain pathText)
        .ok ⟨scheme, none, path, query, fragment⟩

def ofText (text : String) : Except Fault Url :=
  let chars := Text.stripWhere isControlOrSpace text.toList
  match scheme? (withoutBreaks chars) with
  | some ("file", _) => ofFile ((Text.cut ':' chars).2.getD [])
  | some (scheme, rest) => ofScheme scheme rest
  | none => .error .relative

end SignedRest.Url
