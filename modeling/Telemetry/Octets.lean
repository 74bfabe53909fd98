/-!
Byte strings, and the numbers that are written in them.

Every protocol here writes its numbers big-endian, in one, two, four or eight bytes, and its
addresses as blocks of four, six or sixteen. Both are covered once, for any width: `Octets.ofNat`
writes a number and `Octets.value` reads it.

Bytes are lists rather than arrays, since lists are what a proof can take apart.
-/

namespace Telemetry

/-- A string of bytes, first byte first. -/
abbrev Octets := List UInt8

namespace Octets

/-- The first `n` bytes and what follows them, when there are `n`. Only the front is measured, so
a long tail costs nothing. -/
def cut? (n : Nat) (bs : Octets) : Option (Octets × Octets) :=
  let front := bs.take n
  if front.length = n then some (front, bs.drop n) else none

theorem cut?_eq_some {n : Nat} {bs : Octets} (h : n ≤ bs.length) :
    cut? n bs = some (bs.take n, bs.drop n) := by
  simp [cut?, Nat.min_eq_left h]

theorem cut?_eq_none {n : Nat} {bs : Octets} (h : bs.length < n) : cut? n bs = none := by
  have : (bs.take n).length ≠ n := by rw [List.length_take]; omega
  rw [cut?, if_neg this]

/-- Whether at least `n` bytes are there. -/
def holds (n : Nat) (bs : Octets) : Bool := (bs.take n).length == n

theorem holds_iff {n : Nat} {bs : Octets} : holds n bs = true ↔ n ≤ bs.length := by
  rw [holds, beq_iff_eq, List.length_take]
  omega

/-- At most `fuel` pieces of `n` bytes, the last as long as what is left. -/
def chunksWithin (n : Nat) : Nat → Octets → List Octets
  | 0, _ => []
  | fuel + 1, bs => if bs.isEmpty then [] else bs.take n :: chunksWithin n fuel (bs.drop n)

/-- The string in pieces of `n` bytes, the last as long as what is left. No piece is empty: pieces
of no bytes have one. -/
def chunks (n : Nat) (bs : Octets) : List Octets :=
  chunksWithin (if n = 0 then 1 else n) bs.length bs

/-- The number that the bytes spell, most significant byte first. -/
def value (bs : Octets) : Nat := bs.foldl (fun v b => v * 256 + b.toNat) 0

/-- The low `w` bytes of `n`, most significant byte first. -/
def ofNat : Nat → Nat → Octets
  | 0, _ => []
  | w + 1, n => ofNat w (n / 256) ++ [UInt8.ofNat n]

@[simp] theorem length_ofNat (w n : Nat) : (ofNat w n).length = w := by
  induction w generalizing n with
  | zero => rfl
  | succ w ih => simp [ofNat, ih]

/-- One byte. -/
def ofUInt8 (n : UInt8) : Octets := [n]

/-- Two bytes, big-endian. -/
def ofUInt16 (n : UInt16) : Octets := ofNat 2 n.toNat

/-- Four bytes, big-endian. -/
def ofUInt32 (n : UInt32) : Octets := ofNat 4 n.toNat

/-- Eight bytes, big-endian. -/
def ofUInt64 (n : UInt64) : Octets := ofNat 8 n.toNat

/-- `n` zero bytes. -/
def zeros (n : Nat) : Octets := List.replicate n 0

end Octets

/-- Exactly `n` bytes: an address, or any other field whose width never varies. -/
structure Block (n : Nat) where
  octets : Octets
  length_octets : octets.length = n
deriving DecidableEq

namespace Block

/-- The block that spells `value`, which is reduced to the width. -/
def ofNat (n value : Nat) : Block n := ⟨Octets.ofNat n value, Octets.length_ofNat n value⟩

/-- Of a longer or shorter string, no block. -/
def ofOctets? (n : Nat) (bs : Octets) : Option (Block n) :=
  if h : bs.length = n then some ⟨bs, h⟩ else none

end Block

end Telemetry
