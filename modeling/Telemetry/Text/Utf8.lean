import Telemetry.Octets

/-!
UTF-8, written exactly and read leniently.

Text on the wire is whatever the router sent. Reading never fails: each longest run of bytes that
begins a character and does not end one, and each byte that can begin none, becomes one
replacement character. Reading is one pass of a small machine over the bytes. Between characters
it holds nothing; inside one it holds how many bytes are owed, the range that the next must lie
in, and the bits so far. A byte outside the range gives up the character and is looked at again as
a first byte.
-/

namespace Telemetry.Text.Utf8

/-- What stands for bytes that are no character. -/
def replacement : Char := '\ufffd'

/-- A character that has begun. -/
structure Pending where
  owed : Nat
  least : UInt8
  greatest : UInt8
  bits : Nat

/-- The state between two bytes: a character begun or none, and the characters so far, last one
first. -/
structure Scan where
  pending : Option Pending
  found : List Char

/-- Between characters: what a byte does as a first byte. The narrower ranges after `e0`, `ed`,
`f0` and `f4` keep out overlong forms, surrogates and what lies above the last code point. -/
def first (b : UInt8) (found : List Char) : Scan :=
  let n := b.toNat
  if b < 0x80 then ⟨none, Char.ofNat n :: found⟩
  else if 0xc2 ≤ b ∧ b ≤ 0xdf then ⟨some ⟨1, 0x80, 0xbf, n - 0xc0⟩, found⟩
  else if b = 0xe0 then ⟨some ⟨2, 0xa0, 0xbf, 0⟩, found⟩
  else if b = 0xed then ⟨some ⟨2, 0x80, 0x9f, 0xd⟩, found⟩
  else if 0xe1 ≤ b ∧ b ≤ 0xef then ⟨some ⟨2, 0x80, 0xbf, n - 0xe0⟩, found⟩
  else if b = 0xf0 then ⟨some ⟨3, 0x90, 0xbf, 0⟩, found⟩
  else if 0xf1 ≤ b ∧ b ≤ 0xf3 then ⟨some ⟨3, 0x80, 0xbf, n - 0xf0⟩, found⟩
  else if b = 0xf4 then ⟨some ⟨3, 0x80, 0x8f, 4⟩, found⟩
  else ⟨none, replacement :: found⟩

/-- One byte. -/
def step (s : Scan) (b : UInt8) : Scan :=
  match s.pending with
  | none => first b s.found
  | some p =>
    if p.least ≤ b ∧ b ≤ p.greatest then
      let bits := p.bits * 64 + b.toNat % 64
      if p.owed ≤ 1 then ⟨none, Char.ofNat bits :: s.found⟩
      else ⟨some ⟨p.owed - 1, 0x80, 0xbf, bits⟩, s.found⟩
    else first b (replacement :: s.found)

/-- The characters found when no byte is left. A character still owed bytes is given up. -/
def finish (s : Scan) : List Char :=
  match s.pending with
  | none => s.found.reverse
  | some _ => (replacement :: s.found).reverse

/-- The text that bytes stand for, with replacement characters where they stand for none. -/
def decode (bs : Octets) : String := String.ofList (finish (bs.foldl step ⟨none, []⟩))

/-- The bytes of a text. -/
def encode (s : String) : Octets := s.toList.flatMap String.utf8EncodeChar

end Telemetry.Text.Utf8
