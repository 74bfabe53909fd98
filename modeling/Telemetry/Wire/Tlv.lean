import Telemetry.Wire.Reader

/-!
Type-length-value lists: a two-byte type, a two-byte length, and as many bytes. A list fills its
container to the last byte.
-/

namespace Telemetry.Wire

structure Tlv where
  type : UInt16
  value : Octets
deriving DecidableEq

namespace Tlv

/-- The written form. A value too long for the length field is written whole, and its length
reduced to sixteen bits. -/
def encode (t : Tlv) : Octets :=
  Octets.ofUInt16 t.type ++ Octets.ofNat 2 t.value.length ++ t.value

variable {ε : Type} [HasFault ε]

/-- One entry of the list in a `message`. -/
def read (message : String) : Reader ε Tlv := do
  let bs ← Reader.rest
  if !Octets.holds 4 bs then Reader.fault (.brokenTlv message bs.length)
  else
    let type ← Reader.u16
    let length ← Reader.u16
    let value ← Reader.slice message length.toNat
    return ⟨type, value⟩

/-- The whole list, before any type is looked at. -/
def readAll (message : String) : Reader ε (List Tlv) := Reader.untilEnd (read message)

end Tlv

end Telemetry.Wire
