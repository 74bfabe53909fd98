import Telemetry.Bmp.Packet
import Telemetry.Log

/-!
Cutting a byte stream into BMP messages.

A common header says how long its message is, so a frame is complete once that many bytes are
buffered. A frame whose content is malformed is dropped alone, and the next one begins behind it.
Six bytes that cannot begin a message give no usable length: the decoder has lost its place, and
looks for it one byte further each time.

While it looks, a plausible header may be chance. Such a frame is taken only if it decodes;
otherwise the search goes on at the next byte, so that messages covered by a bogus length are
found.

The decoder works by looks: one look at the buffer finds that more bytes are needed, that one byte
is to be skipped, or that a frame ends the look with a packet or with an error. What each costs is
written beside it, and every look but the first kind shortens the buffer.
-/

namespace Telemetry.Bmp

open Wire

namespace Frame

structure Stats where
  /-- Frames that gave a packet. -/
  decoded : Nat := 0
  /-- Complete frames whose content was malformed. -/
  dropped : Nat := 0
  /-- Bytes passed over in search of a header. -/
  skipped : Nat := 0
deriving DecidableEq, Repr

/-- What the decoder has to say. -/
inductive Event where
  /-- No message begins with these six bytes; the search begins. -/
  | lostSync (header : Octets)
  /-- The search has ended. The number is of all bytes skipped so far on this stream. -/
  | backInSync (skipped : Nat)
  /-- A frame of this length was dropped. -/
  | dropped (length : Nat) (error : Error)
  /-- The stream ended inside a message. -/
  | discarded (count : Nat)
deriving DecidableEq

namespace Event

def level : Event → Log.Level
  | lostSync _ | dropped .. => .warn
  | backInSync _ | discarded _ => .debug

def text : Event → String
  | lostSync header =>
    "invalid BMP header [" ++ ", ".intercalate (header.map fun b => Text.hexPadded 2 b.toNat) ++
      "], resynchronizing"
  | backInSync skipped => s!"BMP stream back in sync after {skipped} skipped bytes"
  | dropped length error => s!"dropping malformed BMP message of {length} bytes: " ++ error.message
  | discarded count => s!"discarding {count} bytes of an incomplete BMP message at end of stream"

/-- The line for a stream from `source`. -/
def line (source : String) (e : Event) : Log.Line := ⟨e.level, source ++ ": " ++ e.text⟩

end Event

/-- The declared length, when six bytes can begin a message of at most `maxLength` bytes. -/
def plausibleLength? (maxLength : Nat) (header : Octets) : Option Nat :=
  match header with
  | [version, a, b, c, d, type] =>
    let length := Octets.value [a, b, c, d]
    if version.toNat = Code.number Version.bmp3 ∧
        (Code.ofNumber? type.toNat : Option MessageType).isSome ∧
        commonHeaderLength ≤ length ∧ length ≤ maxLength then some length
    else none
  | _ => none

/-- What one look at the buffer finds. -/
inductive Look where
  /-- Nothing can be said before more bytes come. -/
  | wait
  /-- The first byte begins no message. -/
  | skip
  /-- A frame of this length, and its packet. -/
  | packet (length : Nat) (packet : Packet)
  /-- A frame of this length without a packet. -/
  | malformed (length : Nat) (error : Error)
deriving DecidableEq

/-- Look at the front of the buffer. -/
def look (maxLength : Nat) (resyncing : Bool) (buffer : Octets) : Look :=
  if Octets.holds commonHeaderLength buffer then
    match plausibleLength? maxLength (buffer.take commonHeaderLength) with
    | none => .skip
    | some length =>
      match Octets.cut? length buffer with
      | none => .wait
      | some (frame, _) =>
        match (Packet.read.run frame).1 with
        | .ok p => .packet length p
        | .error e => if resyncing then .skip else .malformed length e
  else .wait

end Frame

open Telemetry.Bmp.Frame

/-- The state of a stream, apart from its buffer. -/
structure Decoder where
  maxLength : Nat
  resyncing : Bool := false
  stats : Stats := {}
deriving DecidableEq, Repr

namespace Decoder

/-- A decoder at the beginning of a stream. -/
def new (maxLength : Nat) : Decoder := ⟨maxLength, false, {}⟩

/-- One byte passed over. The loss of sync is reported once, with the bytes at which it showed. -/
def skip (d : Decoder) (buffer : Octets) : Decoder × List Event :=
  let stats := { d.stats with skipped := d.stats.skipped + 1 }
  ({ d with resyncing := true, stats },
    if d.resyncing then [] else [.lostSync (buffer.take commonHeaderLength)])

/-- A frame that gave a packet ends a search. -/
def accept (d : Decoder) : Decoder × List Event :=
  let stats := { d.stats with decoded := d.stats.decoded + 1 }
  ({ d with resyncing := false, stats },
    if d.resyncing then [.backInSync d.stats.skipped] else [])

/-- A frame that gave none. -/
def drop (d : Decoder) (length : Nat) (e : Error) : Decoder × List Event :=
  let stats := { d.stats with dropped := d.stats.dropped + 1 }
  ({ d with stats }, [.dropped length e])

/-- What a call of the decoder gives: at most one packet, the state and the buffer after it, and
what there is to say. -/
structure Decoded where
  packet : Option Packet
  decoder : Decoder
  buffer : Octets
  events : List Event

/-- At most `n` looks, with the events so far in reverse. -/
def looks : Nat → Decoder → Octets → List Event → Decoded
  | 0, d, buffer, said => ⟨none, d, buffer, said.reverse⟩
  | n + 1, d, buffer, said =>
    match look d.maxLength d.resyncing buffer with
    | .wait => ⟨none, d, buffer, said.reverse⟩
    | .skip =>
      let (d', events) := d.skip buffer
      looks n d' (buffer.drop 1) (events.reverse ++ said)
    | .packet length p =>
      let (d', events) := d.accept
      ⟨some p, d', buffer.drop length, (events.reverse ++ said).reverse⟩
    | .malformed length e =>
      let (d', events) := d.drop length e
      looks n d' (buffer.drop length) (events.reverse ++ said)

/-- Look until a packet is found or more bytes are needed. A look that goes on takes at least one
byte, so there are no more of them than bytes. -/
def decode (d : Decoder) (buffer : Octets) : Decoded := looks buffer.length d buffer []

/-- The same at the end of the stream, where an incomplete message is given up. -/
def decodeEof (d : Decoder) (buffer : Octets) : Decoded :=
  let r := d.decode buffer
  if r.packet.isNone ∧ !r.buffer.isEmpty then
    { r with buffer := [], events := r.events ++ [.discarded r.buffer.length] }
  else r

/-- What repeated calls give. -/
structure Drained where
  packets : List Packet
  decoder : Decoder
  buffer : Octets
  events : List Event

/-- At most `n` calls, until one gives no packet. Packets and events so far are in reverse. -/
def calls (call : Decoder → Octets → Decoded) :
    Nat → Decoder → Octets → List Packet → List Event → Drained
  | 0, d, buffer, packets, said => ⟨packets.reverse, d, buffer, said.reverse⟩
  | n + 1, d, buffer, packets, said =>
    let r := call d buffer
    let said := r.events.reverse ++ said
    match r.packet with
    | none => ⟨packets.reverse, r.decoder, r.buffer, said.reverse⟩
    | some p => calls call n r.decoder r.buffer (p :: packets) said

/-- Decode until no packet comes. A packet takes bytes, so one call more than there are bytes is
enough. -/
def drain (d : Decoder) (buffer : Octets) : Drained :=
  calls decode (buffer.length + 1) d buffer [] []

/-- More bytes, and whatever they complete. -/
def Drained.feed (r : Drained) (chunk : Octets) : Drained :=
  let next := drain r.decoder (r.buffer ++ chunk)
  ⟨r.packets ++ next.packets, next.decoder, next.buffer, r.events ++ next.events⟩

/-- Decode to the end of the stream. -/
def drainEof (d : Decoder) (buffer : Octets) : Drained :=
  calls decodeEof (buffer.length + 1) d buffer [] []

end Decoder

end Telemetry.Bmp
