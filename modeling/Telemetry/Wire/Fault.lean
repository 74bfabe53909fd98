/-!
What can be wrong with bytes that were to spell something.

The protocols share these faults; what only one of them knows is in its own error type, which
contains this one. Only `short` can be mended by more input. Everything behind a declared length
is read from a slice of that length, and a slice that ends too early has lied about its length:
that is `exhausted`, and no further byte helps.
-/

namespace Telemetry.Wire

inductive Fault where
  /-- A number that is no member of a closed set of codes. -/
  | unrecognized (codes : String) (value : Nat)
  /-- The input ends inside a field. -/
  | short (needed left : Nat)
  /-- A part declares more bytes than its container has left. -/
  | overrun (part : String) (declared left : Nat)
  /-- A slice ends inside a field. -/
  | exhausted (slice : String) (needed left : Nat)
  /-- Fewer than four bytes are left where a type and a length should stand. -/
  | brokenTlv (message : String) (left : Nat)
  /-- A value that has one width only comes in another. -/
  | wrongWidth (value : String) (width got : Nat)
  /-- The sixteen bytes in front of a BGP message are not all ones. -/
  | badMarker
  /-- A BGP message cannot be as long as it says. -/
  | badMessageLength (length : Nat)
  /-- A mirrored BGP message does not fill its container. -/
  | afterMirrored (count : Nat)
deriving DecidableEq, Repr

namespace Fault

/-- The four kinds that answers tell apart. -/
inductive Kind where
  | unrecognized
  | short
  | truncated
  | invalid
deriving DecidableEq, Repr

def kind : Fault → Kind
  | unrecognized .. => .unrecognized
  | short .. => .short
  | overrun .. | exhausted .. | brokenTlv .. => .truncated
  | wrongWidth .. | badMarker | badMessageLength .. | afterMirrored .. => .invalid

/-- Whether more input could still make a value of it. -/
def isInsufficient (f : Fault) : Bool := f.kind == .short

/-- What went wrong, without the kind in front. -/
def detail : Fault → String
  | unrecognized codes value => s!"unrecognized value {value} for {codes}"
  | short needed left => s!"not enough bytes: need {needed}, {left} remaining"
  | overrun part declared left => s!"{part} declares {declared} bytes, only {left} left"
  | exhausted slice needed left => s!"{slice} needs {needed} more bytes, {left} left"
  | brokenTlv message left => s!"{message} TLV header needs 4 bytes, {left} left"
  | wrongWidth value width got => s!"{value} must be {width} bytes, got {got}"
  | badMarker => "BGP message marker is not all ones"
  | badMessageLength length => s!"invalid BGP message length {length}"
  | afterMirrored count => s!"{count} trailing bytes after mirrored BGP message"

def message (f : Fault) : String :=
  match f.kind with
  | .unrecognized | .short => f.detail
  | .truncated => "truncated message: " ++ f.detail
  | .invalid => "invalid field: " ++ f.detail

/-- Read from a slice of declared length, a shortage is the slice's fault. -/
def inSlice (slice : String) : Fault → Fault
  | short needed left => exhausted slice needed left
  | f => f

theorem isInsufficient_inSlice (slice : String) (f : Fault) :
    (f.inSlice slice).isInsufficient = false := by
  cases f <;> rfl

end Fault

/-- Errors that have the common faults among them. -/
class HasFault (ε : Type) where
  ofFault : Fault → ε

instance : HasFault Fault := ⟨id⟩

end Telemetry.Wire
