/-
Base 64: three bytes as four characters, padded at the end.
-/

import SignedRest.Text.Utf8

namespace SignedRest.Base64

def alphabet : List Char :=
  "ABCDEFGHIJKLMNOPQRSTUVWXYZabcdefghijklmnopqrstuvwxyz0123456789+/".toList

def symbol (value : Nat) : Char :=
  alphabet.getD (value % 64) 'A'

def encode : Bytes → List Char
  | a :: b :: c :: rest =>
      let value := (a.toNat * 256 + b.toNat) * 256 + c.toNat
      [symbol (value / 262144), symbol (value / 4096), symbol (value / 64), symbol value] ++
        encode rest
  | [a, b] =>
      let value := (a.toNat * 256 + b.toNat) * 256
      [symbol (value / 262144), symbol (value / 4096), symbol (value / 64), '=']
  | [a] =>
      let value := a.toNat * 65536
      [symbol (value / 262144), symbol (value / 4096), '=', '=']
  | [] => []

end SignedRest.Base64
