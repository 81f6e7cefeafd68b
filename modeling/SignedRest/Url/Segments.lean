/-
Path segments. A segment of one dot adds nothing and one of two dots takes the segment before it
away, unless that is a drive; either leaves an empty segment behind at the end of a path.
-/

import SignedRest.Url
import SignedRest.Url.Encoding

namespace SignedRest.Url

def isBreak (c : Char) : Bool :=
  c = '\t' || c = '\n' || c = '\r'

/-- Tabs and line breaks count nowhere in a URL, but for drives in file paths. -/
def withoutBreaks (chars : List Char) : List Char :=
  chars.filter (fun c => !isBreak c)

namespace Segments

def isDot (segment : String) : Bool :=
  segment = "." || segment.toLower = "%2e"

def isDoubleDot (segment : String) : Bool :=
  let lower := segment.toLower
  lower = ".." || lower = ".%2e" || lower = "%2e." || lower = "%2e%2e"

def isDriveMark (c : Char) : Bool :=
  c = ':' || c = '|'

/-- A letter and a colon, or a bar in its place. -/
def isDriveLetter (segment : String) : Bool :=
  match segment.toList with
  | [letter, mark] => letter.isAlpha && isDriveMark mark
  | _ => false

/-- A drive letter, alone or with a backslash after it. -/
def isDrive (segment : String) : Bool :=
  match segment.toList with
  | letter :: mark :: rest =>
      letter.isAlpha && isDriveMark mark && (rest.isEmpty || rest.head? = some '\\')
  | _ => false

/-- No path leads up from a drive, whatever the scheme. -/
def shorten (segments : List String) : List String :=
  if segments.getLast?.any isDrive then segments else segments.dropLast

/-- A segment with a slash after it. -/
def step (segments : List String) (segment : String) : List String :=
  if isDoubleDot segment then shorten segments
  else if isDot segment then segments
  else segments ++ [segment]

/-- The last segment. -/
def finish (segments : List String) (segment : String) : List String :=
  if isDoubleDot segment then shorten segments ++ [""]
  else if isDot segment then segments ++ [""]
  else segments ++ [segment]

def run (segments : List String) : List String → List String
  | [] => segments
  | [last] => finish segments last
  | segment :: rest => run (step segments segment) rest

end Segments

namespace Path

/-- The pieces of a path between its slashes. In special schemes a backslash is a slash. -/
def pieces (isSpecial : Bool) (chars : List Char) : List (List Char) :=
  Text.split '/' (if isSpecial then chars.map (fun c => if c = '\\' then '/' else c) else chars)

/-- The path written by the text after its first slash. -/
def ofChars (isSpecial : Bool) (chars : List Char) : Path :=
  segments (Segments.run [] ((pieces isSpecial chars).map (encodeChars keptInPath)))

def dropEmptyEnd : Path → Path
  | segments items =>
      segments (if items.length > 1 ∧ items.getLast? = some "" then items.dropLast else items)
  | path => path

/-- Adds one segment, whatever characters it has. Dots alone are passed over. A lone empty segment
is the root and gives its place. -/
def push (path : Path) (segment : String) : Path :=
  match path with
  | segments items =>
      if segment = "." ∨ segment = ".." then segments items
      else
        let encoded := encodeChars keptInSegment (withoutBreaks segment.toList)
        segments (Segments.finish (if items = [""] then [] else items) encoded)
  | path => path

end Path

end SignedRest.Url
