import Telemetry.Octets
import Telemetry.Wire.Fault
import Telemetry.Wire.Code

/-!
Reading from the front of a byte string.

A reader answers with a value or an error, and in both cases with the bytes it did not consume:
what is left after a failure is part of the answer. A read that finds too few bytes consumes
none, while the reads that went well before it stay consumed.

Loops are readers too. `times` reads a known number of items. `whileLeft` reads items as long as
the rest asks for it; since an item takes at least one byte, the length of the input bounds the
number of rounds, and the loop is a recursion on that bound.
-/

namespace Telemetry.Wire

/-- The member of a closed set that a number stands for. -/
def member {ε : Type} [HasFault ε] (α : Type) [Code α] (n : Nat) : Except ε α :=
  match Code.ofNumber? n with
  | some a => .ok a
  | none => .error (HasFault.ofFault (.unrecognized (Code.title α) n))

/-- What a read gives: the answer, and the bytes left over. -/
abbrev Outcome (ε α : Type) := Except ε α × Octets

def Reader (ε α : Type) : Type := Octets → Outcome ε α

namespace Reader

variable {ε α β : Type}

/-- What the reader makes of the bytes. -/
@[inline] def run (r : Reader ε α) (bs : Octets) : Outcome ε α := r bs

@[inline] protected def pure (a : α) : Reader ε α := fun bs => (.ok a, bs)

@[inline] protected def bind (r : Reader ε α) (f : α → Reader ε β) : Reader ε β := fun bs =>
  match r bs with
  | (.ok a, rest) => f a rest
  | (.error e, rest) => (.error e, rest)

instance : Monad (Reader ε) where
  pure := Reader.pure
  bind := Reader.bind

/-- Stop here. -/
@[inline] def fail (e : ε) : Reader ε α := fun bs => (.error e, bs)

/-- An answer found without reading. -/
@[inline] def ofExcept (answer : Except ε α) : Reader ε α := fun bs => (answer, bs)

/-- The bytes that are left. -/
@[inline] def rest : Reader ε Octets := fun bs => (.ok bs, bs)

/-- All that is left, consumed. -/
@[inline] def all : Reader ε Octets := fun bs => (.ok bs, [])

/-- The same reads with another error. -/
@[inline] def mapError {δ : Type} (f : ε → δ) (r : Reader ε α) : Reader δ α := fun bs =>
  match r bs with
  | (.ok a, rest) => (.ok a, rest)
  | (.error e, rest) => (.error (f e), rest)

/-- Read a slice that has been cut off before. The answer comes with what the slice has left; the
bytes outside it are not touched. -/
@[inline] def inside (r : Reader ε α) (slice : Octets) : Reader ε (α × Octets) := fun bs =>
  match r slice with
  | (.ok a, left) => (.ok (a, left), bs)
  | (.error e, _) => (.error e, bs)

section Fields

variable [HasFault ε]

/-- Fail with a fault that all protocols share. -/
@[inline] def fault (f : Fault) : Reader ε α := fail (HasFault.ofFault f)

/-- Make sure that `n` bytes are there, and consume none. -/
def need (n : Nat) : Reader ε Unit := fun bs =>
  if Octets.holds n bs then (.ok (), bs)
  else (.error (HasFault.ofFault (.short n bs.length)), bs)

/-- The next `n` bytes. -/
def take (n : Nat) : Reader ε Octets := fun bs =>
  match Octets.cut? n bs with
  | some (front, rest) => (.ok front, rest)
  | none => (.error (HasFault.ofFault (.short n bs.length)), bs)

/-- The next `n` bytes, a number that a nested part has declared as its own length. -/
def slice (part : String) (n : Nat) : Reader ε Octets := fun bs =>
  match Octets.cut? n bs with
  | some (front, rest) => (.ok front, rest)
  | none => (.error (HasFault.ofFault (.overrun part n bs.length)), bs)

/-- A block of `n` bytes. -/
def block (n : Nat) : Reader ε (Block n) := fun bs =>
  if h : (bs.take n).length = n then (.ok ⟨bs.take n, h⟩, bs.drop n)
  else (.error (HasFault.ofFault (.short n bs.length)), bs)

/-- A big-endian number of `w` bytes. -/
def nat (w : Nat) : Reader ε Nat := do return Octets.value (← take w)

def u8 : Reader ε UInt8 := do return UInt8.ofNat (← nat 1)

def u16 : Reader ε UInt16 := do return UInt16.ofNat (← nat 2)

def u32 : Reader ε UInt32 := do return UInt32.ofNat (← nat 4)

def u64 : Reader ε UInt64 := do return UInt64.ofNat (← nat 8)

/-- A member of a closed set, written as a number of `w` bytes. -/
def code (α : Type) [Code α] (w : Nat) : Reader ε α := do ofExcept (member α (← nat w))

end Fields

/-! ## Repetition -/

/-- The rounds of `times`, with the items so far in reverse. -/
def timesInto (item : Reader ε α) : Nat → List α → Octets → Outcome ε (List α)
  | 0, found, bs => (.ok found.reverse, bs)
  | n + 1, found, bs =>
    match item bs with
    | (.ok a, rest) => timesInto item n (a :: found) rest
    | (.error e, rest) => (.error e, rest)

/-- `n` items in a row. -/
def times (n : Nat) (item : Reader ε α) : Reader ε (List α) := fun bs =>
  timesInto item n [] bs

/-- What a loop has read when it ends: the items, why it ended early if it did, and the bytes
left. -/
structure Gathered (ε α : Type) where
  items : List α
  failure : Option ε
  rest : Octets

/-- At most `n` rounds of `gather`, with the items so far in reverse. -/
def rounds (more : Octets → Bool) (item : Reader ε α) : Nat → List α → Octets → Gathered ε α
  | 0, found, bs => ⟨found.reverse, none, bs⟩
  | n + 1, found, bs =>
    if more bs then
      match item bs with
      | (.ok a, rest) => rounds more item n (a :: found) rest
      | (.error e, rest) => ⟨found.reverse, some e, rest⟩
    else ⟨found.reverse, none, bs⟩

/-- Items as long as `more` holds of the bytes left, or up to the first that fails. An item is to
take at least one byte. -/
def gather (more : Octets → Bool) (item : Reader ε α) (bs : Octets) : Gathered ε α :=
  rounds more item bs.length [] bs

/-- Items as long as `more` holds of the bytes left, all of which have to go well. -/
def whileLeft (more : Octets → Bool) (item : Reader ε α) : Reader ε (List α) := fun bs =>
  let g := gather more item bs
  match g.failure with
  | none => (.ok g.items, g.rest)
  | some e => (.error e, g.rest)

/-- Whether a byte is left. -/
def notEnded (bs : Octets) : Bool := !bs.isEmpty

/-- Items up to the end of the input. -/
def untilEnd (item : Reader ε α) : Reader ε (List α) := whileLeft notEnded item

end Reader

end Telemetry.Wire
