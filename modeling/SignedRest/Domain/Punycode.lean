/-
Labels of domain names in ASCII. The ASCII characters of a label come first; for each of the others,
in the order of the code points, a number tells how many steps of insertion are passed over before
it is put in. Numbers have digits of thirty-six values, and end at the first digit below a threshold
that adapts to the numbers before.
-/

import SignedRest.Text.Separated

namespace SignedRest.Punycode

def base : Nat := 36
def firstBias : Nat := 72
def firstCode : Nat := 0x80

/-- The threshold at the digit of a weight, counted from one. -/
def threshold (bias place : Nat) : Nat :=
  max 1 (min 26 (base * place - bias))

theorem threshold_pos (bias place : Nat) : 0 < threshold bias place := by
  unfold threshold
  omega

def scaledBias (steps delta : Nat) : Nat :=
  if 455 < delta then scaledBias (steps + base) (delta / 35)
  else steps + base * delta / (delta + 38)
termination_by delta
decreasing_by exact Nat.div_lt_self (by omega) (by omega)

/-- The bias after a number, where the label has so many characters. -/
def adapted (delta count : Nat) (isFirst : Bool) : Nat :=
  let damped := if isFirst then delta / 700 else delta / 2
  scaledBias 0 (damped + damped / count)

/-! ### Reading -/

def digit? (c : Char) : Option Nat :=
  if 'a' ≤ c ∧ c ≤ 'z' then some (c.toNat - 97)
  else if '0' ≤ c ∧ c ≤ '9' then some (c.toNat - 22)
  else none

/-- Between two numbers: the characters so far, the code point and place reached, and the bias. -/
structure Insertion where
  chars : List Char
  code : Nat
  place : Nat
  bias : Nat

/-- Puts in a character after a number of steps. -/
def Insertion.advance? (state : Insertion) (steps : Nat) (isFirst : Bool) : Option Insertion :=
  let count := state.chars.length + 1
  let total := state.place + steps
  let code := state.code + total / count
  let place := total % count
  if code.isValidChar then
    some ⟨state.chars.take place ++ Char.ofNat code :: state.chars.drop place, code, place + 1,
      adapted steps count isFirst⟩
  else none

/-- Reads numbers, the digits of one of which may have begun. Place and weight stay in thirty-two
bits. -/
def insertAll? (state : Insertion) (isFirst : Bool) (steps weight digits : Nat) :
    List Char → Option (List Char)
  | [] => if digits = 0 then some state.chars else none
  | c :: rest => do
      let digit ← digit? c
      let limit := threshold state.bias (digits + 1)
      let steps := steps + digit * weight
      if UInt32.size ≤ state.place + steps ∨ UInt32.size ≤ weight then none
      else if digit < limit then insertAll? (← state.advance? steps isFirst) false 0 1 0 rest
      else insertAll? state isFirst steps (weight * (base - limit)) (digits + 1) rest

/-- The last hyphen ends the ASCII characters, if there are any. -/
def decode? (text : List Char) : Option (List Char) :=
  let pieces := Text.split '-' text
  let ascii := Text.join '-' pieces.dropLast
  if ascii.isEmpty ∧ pieces.length > 1 then none
  else insertAll? ⟨ascii, firstCode, 0, firstBias⟩ true 0 1 0 (pieces.getLastD [])

/-! ### Writing -/

def digitChar (value : Nat) : Char :=
  Char.ofNat (if value < 26 then 97 + value else 22 + value)

def writeNumber (bias place value : Nat) : List Char :=
  let limit := threshold bias place
  if value < limit then [digitChar value]
  else
    digitChar (limit + (value - limit) % (base - limit)) ::
      writeNumber bias (place + 1) ((value - limit) / (base - limit))
termination_by value
decreasing_by
  have positive := threshold_pos bias place
  have shorter := Nat.div_le_self (value - threshold bias place) (base - threshold bias place)
  omega

/-- While characters are written: how many have been, the steps since the last one, and the bias. -/
structure Omission where
  written : Nat
  steps : Nat
  bias : Nat

/-- Goes over a label to write the characters of one code point, and passes over smaller ones. -/
def writeCode (isFirst : Nat → Bool) (code : Nat) : Omission → List Char → List Char × Omission
  | state, [] => ([], state)
  | state, c :: rest =>
      if c.toNat < code then writeCode isFirst code { state with steps := state.steps + 1 } rest
      else if c.toNat = code then
        let next : Omission :=
          ⟨state.written + 1, 0, adapted state.steps (state.written + 1) (isFirst state.written)⟩
        let (chars, last) := writeCode isFirst code next rest
        (writeNumber state.bias 1 state.steps ++ chars, last)
      else writeCode isFirst code state rest

/-- Writes the characters of several code points in ascending order, those below `reached` being
done. -/
def writeCodes (isFirst : Nat → Bool) (label : List Char) : Omission → Nat → List Nat → List Char
  | _, _, [] => []
  | state, reached, code :: more =>
      let start := { state with steps := state.steps + (code - reached) * (state.written + 1) }
      let (chars, last) := writeCode isFirst code start label
      chars ++ writeCodes isFirst label { last with steps := last.steps + 1 } (code + 1) more

def insertSorted (code : Nat) : List Nat → List Nat
  | [] => [code]
  | first :: rest =>
      if code < first then code :: first :: rest
      else if code = first then first :: rest
      else first :: insertSorted code rest

def encode (label : List Char) : List Char :=
  let ascii := label.filter (fun c => c.toNat < firstCode)
  let codes := ((label.map Char.toNat).filter (firstCode ≤ ·)).foldr insertSorted []
  let start := if ascii.isEmpty then [] else ascii ++ ['-']
  start ++ writeCodes (· = ascii.length) label ⟨ascii.length, 0, firstBias⟩ firstCode codes

end SignedRest.Punycode
