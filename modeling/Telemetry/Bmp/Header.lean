import Telemetry.Net.Ip
import Telemetry.Bmp.Code
import Telemetry.Bmp.PeerFlags
import Telemetry.Bmp.Error

/-!
The two headers of BMP.

Every message begins with a common header of six bytes: the version, the length of the whole
message, and its type. Messages about a monitored peer go on with a header of 42 bytes that says
which peer, and when. The peer's address takes sixteen bytes; whether it is an IPv6 address is
said by a flag, and of an IPv4 address the first twelve bytes are zero.
-/

namespace Telemetry.Bmp

open Wire

/-- The length of the common header. -/
def commonHeaderLength : Nat := 6

/-- The length of the header of a peer. -/
def peerHeaderLength : Nat := 42

structure CommonHeader where
  version : Version
  /-- The length of the message, this header included. -/
  length : UInt32
  type : MessageType
deriving DecidableEq

namespace CommonHeader

def encode (h : CommonHeader) : Octets :=
  Octets.ofNat 1 (Code.number h.version) ++ Octets.ofUInt32 h.length ++
    Octets.ofNat 1 h.type.number

/-- Version, length and type, each checked before the next is read. -/
def read : Reader Error CommonHeader := do
  let number ← Reader.u8
  match Code.ofNumber? number.toNat with
  | none => Reader.fail (.unsupportedVersion number)
  | some version =>
    let length ← Reader.u32
    if length.toNat < commonHeaderLength then Reader.fail (.invalidMessageLength length)
    else
      let type ← Reader.code MessageType 1
      return ⟨version, length, type⟩

end CommonHeader

structure PeerHeader where
  type : PeerType
  flags : PeerFlags
  distinguisher : UInt64
  address : Ip
  asn : UInt32
  bgpId : Ipv4
  /-- Seconds since 1970. -/
  seconds : UInt32
  micros : UInt32
deriving DecidableEq

namespace PeerHeader

def isIpv6 (h : PeerHeader) : Bool := h.flags.has PeerFlags.ipv6

def isPostPolicy (h : PeerHeader) : Bool := h.flags.has PeerFlags.postPolicy

/-- The flag and the address agree on the family. -/
def familyAgrees (h : PeerHeader) : Bool := h.isIpv6 == h.address.isV6

/-- The header itself when its flag and its address agree. -/
def checked (h : PeerHeader) : Except Error PeerHeader :=
  if h.familyAgrees then .ok h else .error .addressFamilyMismatch

/-- Seconds with their fraction. -/
def timestamp (h : PeerHeader) : Float := h.seconds.toFloat + h.micros.toFloat / 1000000.0

def encode (h : PeerHeader) : Octets :=
  Octets.ofNat 1 (Code.number h.type) ++ Octets.ofUInt8 h.flags.bits ++
    Octets.ofUInt64 h.distinguisher ++ h.address.padded ++ Octets.ofUInt32 h.asn ++
    h.bgpId.octets ++ Octets.ofUInt32 h.seconds ++ Octets.ofUInt32 h.micros

/-- An address field of sixteen bytes whose family is known. -/
def readAddress (isV6 : Bool) : Reader Error Ip := do
  let field ← Reader.block 16
  match Ip.ofPadded? isV6 field with
  | some ip => return ip
  | none => Reader.fail .addressFamilyMismatch

/-- All 42 bytes have to be there before the first is consumed. -/
def read : Reader Error PeerHeader := do
  Reader.need peerHeaderLength
  let type ← Reader.code PeerType 1
  let flags := PeerFlags.mk (← Reader.u8)
  let distinguisher ← Reader.u64
  let address ← readAddress (flags.has PeerFlags.ipv6)
  let asn ← Reader.u32
  let bgpId ← Reader.block 4
  let seconds ← Reader.u32
  let micros ← Reader.u32
  return ⟨type, flags, distinguisher, address, asn, bgpId, seconds, micros⟩

end PeerHeader

end Telemetry.Bmp
