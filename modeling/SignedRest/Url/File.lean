/-
File URLs. Their paths know drives: a letter and a mark at the start of a path stand for the root of
a drive on this machine, so that no host goes with it.
-/

import SignedRest.Text.Separated
import SignedRest.Url.Host
import SignedRest.Url.Segments

namespace SignedRest.Url

def isSlash (c : Char) : Bool :=
  c = '/' || c = '\\'

def isTailMark (c : Char) : Bool :=
  c = '?' || c = '#'

/-- The first character that is no tab or line break, and what follows it. -/
def next? (chars : List Char) : Option (Char × List Char) :=
  match chars.dropWhile isBreak with
  | c :: rest => some (c, rest)
  | [] => none

/-- What follows a slash that stands first. -/
def afterSlash? (chars : List Char) : Option (List Char) :=
  (next? chars).bind (fun (c, rest) => if isSlash c then some rest else none)

/-- A drive letter that a tab or line break keeps apart from the characters after it. -/
def apartDrive? (piece : List Char) : Option (List Char × List Char) := do
  let (letter, afterLetter) ← next? piece
  let (mark, afterMark) ← next? afterLetter
  let _ ← next? afterMark
  if letter.isAlpha ∧ mark = ':' ∧ afterMark.head?.any isBreak then
    some ([letter, mark], afterMark)
  else none

/-- The segments of a file path so far, and whether a drive was met at its start. -/
structure Trail where
  segments : List String
  onDrive : Bool
deriving DecidableEq, Inhabited

namespace Trail

def segmentOf (piece : List Char) : String :=
  encodeChars keptInPath (withoutBreaks piece)

/-- The first segment. A drive letter is written with a colon. One that is kept apart from what
follows it is a segment of its own, but not a drive of this machine. -/
def start (trail : Trail) (piece : List Char) : Trail :=
  match apartDrive? piece with
  | some (drive, rest) => { trail with segments := [String.ofList drive, segmentOf rest] }
  | none =>
      let segment := segmentOf piece
      if Segments.isDriveLetter segment then
        ⟨[String.ofList (segment.toList.take 1 ++ [':'])], true⟩
      else { trail with segments := [segment] }

def add (trail : Trail) (piece : List Char) : Trail :=
  if trail.segments.isEmpty then trail.start piece
  else { trail with segments := trail.segments ++ [segmentOf piece] }

/-- A piece with a slash after it. -/
def step (trail : Trail) (piece : List Char) : Trail :=
  if Segments.isDoubleDot (segmentOf piece) then
    { trail with segments := Segments.shorten trail.segments }
  else if Segments.isDot (segmentOf piece) then trail
  else trail.add piece

/-- The last piece. -/
def finish (trail : Trail) (piece : List Char) : Trail :=
  if Segments.isDoubleDot (segmentOf piece) then
    { trail with segments := Segments.shorten trail.segments ++ [""] }
  else if Segments.isDot (segmentOf piece) then
    { trail with segments := trail.segments ++ [""] }
  else trail.add piece

def run (trail : Trail) : List (List Char) → Trail
  | [] => trail
  | [last] => trail.finish last
  | piece :: rest => run (trail.step piece) rest

/-- A file path has no empty segments before its first other one. -/
def dropEmpty : List String → List String
  | "" :: next :: rest => dropEmpty (next :: rest)
  | segments => segments

def path (trail : Trail) : Path :=
  .segments (dropEmpty trail.segments)

end Trail

/-- The host of a file and the text of its path: no host for this machine. A drive letter in the
place of the host belongs to the path. Where no host is left, the slash after it is a part of the
path. -/
def fileHost (chars : List Char) : Except Fault (Host × List Char) := do
  let endsHost (c : Char) : Bool := isSlash c || isTailMark c
  let text := withoutBreaks (chars.takeWhile (fun c => !endsHost c))
  let after := chars.dropWhile (fun c => !endsHost c)
  if Segments.isDriveLetter (String.ofList text) then return (.name "", chars)
  if text.isEmpty then return (.name "", after)
  match ← specialHost text with
  | .name "localhost" => return (.name "", after)
  | host => return (host, (afterSlash? after).getD after)

def filePlace (chars : List Char) : Except Fault (Host × List Char) :=
  match afterSlash? chars with
  | none => .ok (.name "", chars)
  | some once =>
      match afterSlash? once with
      | none => .ok (.name "", once)
      | some twice => fileHost twice

/-- Where a file is, and the text from its query or fragment on. The text given stands after the
scheme and has tabs and line breaks in it. -/
def readFile (chars : List Char) : Except Fault (Authority × Path × List Char) := do
  let (host, rest) ← filePlace chars
  let text := rest.takeWhile (fun c => !isTailMark c)
  let trail := Trail.run ⟨[], false⟩ (Path.pieces true text)
  let authority : Authority := ⟨"", none, if trail.onDrive then .name "" else host, none⟩
  return (authority, trail.path, withoutBreaks (rest.dropWhile (fun c => !isTailMark c)))

end SignedRest.Url
