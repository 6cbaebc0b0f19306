/-! Bytes as text. A sequence of bytes that encodes no character becomes one replacement character,
as far as it could still have become one. -/

namespace PuzzleWorlds.Utf8

/-- A character under way: how many bytes are still missing, the bits so far, and the range of the
next byte. -/
structure Pending where
  missing : Nat
  bits : Nat
  low : Nat := 0x80
  high : Nat := 0xBF

/-- What a first byte begins. -/
def Pending.ofLead? (b : Nat) : Option Pending :=
  if 0xC2 ≤ b && b ≤ 0xDF then some { missing := 1, bits := b - 0xC0 }
  else if b == 0xE0 then some { missing := 2, bits := 0, low := 0xA0 }
  else if b == 0xED then some { missing := 2, bits := 0xD, high := 0x9F }
  else if 0xE1 ≤ b && b ≤ 0xEF then some { missing := 2, bits := b - 0xE0 }
  else if b == 0xF0 then some { missing := 3, bits := 0, low := 0x90 }
  else if b == 0xF4 then some { missing := 3, bits := 4, high := 0x8F }
  else if 0xF1 ≤ b && b ≤ 0xF3 then some { missing := 3, bits := b - 0xF0 }
  else none

def replacement : Char := Char.ofNat 0xFFFD

/-- The characters of the bytes that follow a character under way. -/
def decodeFrom : Option Pending → List Nat → List Char
  | none, [] => []
  | some _, [] => [replacement]
  | some p, b :: rest =>
    if p.low ≤ b && b ≤ p.high then
      let bits := p.bits * 64 + (b - 0x80)
      if p.missing ≤ 1 then Char.ofNat bits :: decodeFrom none rest
      else decodeFrom (some { missing := p.missing - 1, bits }) rest
    else replacement :: begin b rest
  | none, b :: rest => begin b rest
where
  /-- The characters from a byte on that continues nothing. -/
  begin (b : Nat) (rest : List Nat) : List Char :=
    if b < 0x80 then Char.ofNat b :: decodeFrom none rest
    else match Pending.ofLead? b with
      | some p => decodeFrom (some p) rest
      | none => replacement :: decodeFrom none rest

def decode (bytes : List Nat) : String := String.ofList (decodeFrom none bytes)

def encode (s : String) : List Nat := s.toUTF8.data.toList.map UInt8.toNat

end PuzzleWorlds.Utf8
