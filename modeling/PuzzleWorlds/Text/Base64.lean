/-! Bytes written with sixty-four characters, three bytes as four of them. Reading skips characters
outside the alphabet and ends at the padding that completes a group of four. -/

namespace PuzzleWorlds.Base64

def alphabet : List Char :=
  "ABCDEFGHIJKLMNOPQRSTUVWXYZabcdefghijklmnopqrstuvwxyz0123456789+/".toList

def digit (n : Nat) : Char := alphabet.getD (n % 64) '='

def encode : List Nat → List Char
  | a :: b :: c :: rest =>
    digit (a / 4) :: digit (a * 16 + b / 16) :: digit (b * 4 + c / 64) :: digit c :: encode rest
  | [a, b] => [digit (a / 4), digit (a * 16 + b / 16), digit (b * 4), '=']
  | [a] => [digit (a / 4), digit (a * 16), '=', '=']
  | [] => []

def value? (c : Char) : Option Nat :=
  if 'A' ≤ c && c ≤ 'Z' then some (c.toNat - 65)
  else if 'a' ≤ c && c ≤ 'z' then some (c.toNat - 71)
  else if '0' ≤ c && c ≤ '9' then some (c.toNat + 4)
  else if c == '+' then some 62
  else if c == '/' then some 63
  else none

/-- A group under way: how many characters of it were read, the bits that make no byte yet, and the
padding since the last character. -/
structure Group where
  size : Nat := 0
  bits : Nat := 0
  pads : Nat := 0

/-- The bytes of the characters after a group under way; none if the last group is incomplete. -/
def decodeFrom (g : Group) : List Char → Option (List Nat)
  | [] => if g.size == 0 then some [] else none
  | c :: rest =>
    if c == '=' then
      if g.size < 2 then decodeFrom g rest
      else if g.size + g.pads + 1 ≥ 4 then some []
      else decodeFrom { g with pads := g.pads + 1 } rest
    else match value? c with
      | none => decodeFrom g rest
      | some v =>
        let bits := g.bits * 64 + v
        match g.size with
        | 0 => decodeFrom { size := 1, bits := v } rest
        | 1 => (decodeFrom { size := 2, bits := bits % 16 } rest).map (bits / 16 :: ·)
        | 2 => (decodeFrom { size := 3, bits := bits % 4 } rest).map (bits / 4 :: ·)
        | _ => (decodeFrom {} rest).map (bits :: ·)

def decode (cs : List Char) : Option (List Nat) := decodeFrom {} cs

end PuzzleWorlds.Base64
