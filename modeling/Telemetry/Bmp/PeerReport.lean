import Telemetry.Bmp.Header
import Telemetry.Bmp.RouterMessage

/-!
What a router reports of a peer that it watches: the routes it hears, how many there are, when the
peer comes and goes, and copies of what it could not handle. Each report follows the header of its
peer.
-/

namespace Telemetry.Bmp

open Wire

/-! ## Statistics -/

inductive StatData where
  | counter (value : UInt32)
  | gauge (value : UInt64)
  /-- A gauge for one address family. -/
  | familyGauge (afi : UInt16) (safi : UInt8) (value : UInt64)
  /-- The value of a statistic without a meaning here. -/
  | unknown (value : Octets)
deriving DecidableEq

namespace StatData

def encode : StatData → Octets
  | counter v => Octets.ofUInt32 v
  | gauge v => Octets.ofUInt64 v
  | familyGauge afi safi v => Octets.ofUInt16 afi ++ Octets.ofUInt8 safi ++ Octets.ofUInt64 v
  | unknown bs => bs

/-- The value of a known statistic, told apart by its width alone. -/
def ofKnown? (bs : Octets) : Option StatData :=
  match bs.length with
  | 4 => some (counter (UInt32.ofNat (Octets.value bs)))
  | 8 => some (gauge (UInt64.ofNat (Octets.value bs)))
  | 11 =>
    some (familyGauge (UInt16.ofNat (Octets.value (bs.take 2)))
      (UInt8.ofNat (Octets.value ((bs.drop 2).take 1))) (UInt64.ofNat (Octets.value (bs.drop 3))))
  | _ => none

end StatData

structure StatCounter where
  type : UInt16
  data : StatData
deriving DecidableEq

namespace StatCounter

/-- The meaning of the statistic, if it has one here. -/
def known? (c : StatCounter) : Option StatType := Code.ofNumber? c.type.toNat

def encode (c : StatCounter) : Octets := (Tlv.mk c.type c.data.encode).encode

def read : Reader Error StatCounter := do
  let type ← Reader.u16
  let length ← Reader.u16
  let value ← Reader.slice "stat counter" length.toNat
  match (Code.ofNumber? type.toNat : Option StatType) with
  | none => return ⟨type, .unknown value⟩
  | some _ =>
    match StatData.ofKnown? value with
    | some data => return ⟨type, data⟩
    | none => Reader.fail (.invalidStatsDataLength length)

/-- A count of four bytes, and the counters. -/
def encodeAll (cs : List StatCounter) : Octets :=
  Octets.ofNat 4 cs.length ++ cs.flatMap encode

def readAll : Reader Error (List StatCounter) := do
  let count ← Reader.u32
  Reader.times count.toNat read

end StatCounter

/-! ## BGP messages in their places -/

/-- A BGP message that has to be of one type. -/
def readExpected (expected : Bgp.MessageType) : Reader Error Bgp.Message := do
  let m ← Bgp.Message.read
  if m.type = expected then return m
  else Reader.fail (.unexpectedBgpMessage expected m.type)

/-! ## The end of a session -/

/-- What follows the reason. -/
inductive PeerDownDetail where
  /-- The notification that was sent or received. -/
  | notification (message : Bgp.Message)
  /-- The event of the state machine that ended the session, zero if none did. -/
  | event (code : UInt16)
  | nothing
deriving DecidableEq

namespace PeerDownDetail

def encode : PeerDownDetail → Octets
  | notification m => m.encode
  | event c => Octets.ofUInt16 c
  | nothing => []

/-- What follows is settled by the reason. -/
def read : PeerDownReason → Reader Error PeerDownDetail
  | .localNotification | .remoteNotification => do
    return notification (← readExpected .notification)
  | .localNoNotification => do return event (← Reader.u16)
  | .remoteNoNotification | .peerDeConfigured => return nothing

end PeerDownDetail

/-! ## The beginning of a session -/

structure PeerUp where
  localAddress : Ip
  localPort : UInt16
  remotePort : UInt16
  sentOpen : Bgp.Message
  receivedOpen : Bgp.Message
  tlvs : List (TextTlv PeerUpTlvType)
deriving DecidableEq

namespace PeerUp

def encode (u : PeerUp) : Octets :=
  u.localAddress.padded ++ Octets.ofUInt16 u.localPort ++ Octets.ofUInt16 u.remotePort ++
    u.sentOpen.encode ++ u.receivedOpen.encode ++ TextTlv.encodeAll u.tlvs

/-- The router's own address is of the family that the peer's flag says. -/
def read (isV6 : Bool) : Reader Error PeerUp := do
  let localAddress ← PeerHeader.readAddress isV6
  let localPort ← Reader.u16
  let remotePort ← Reader.u16
  let sentOpen ← readExpected .opening
  let receivedOpen ← readExpected .opening
  let tlvs ← TextTlv.readAll PeerUpTlvType "peer up"
  return ⟨localAddress, localPort, remotePort, sentOpen, receivedOpen, tlvs⟩

end PeerUp

/-! ## Mirrored messages -/

inductive MirroringTlv where
  /-- A BGP message as it was received, which may be what is wrong with it. -/
  | message (message : Bgp.Message)
  | information (type : MirroringType)
deriving DecidableEq

namespace MirroringTlv

def toTlv : MirroringTlv → Tlv
  | message m => ⟨UInt16.ofNat (Code.number MirroringTlvType.bgpMessage), m.encode⟩
  | information i =>
    ⟨UInt16.ofNat (Code.number MirroringTlvType.information), Octets.ofNat 2 (Code.number i)⟩

def ofTlv (t : Tlv) : Except Error MirroringTlv := do
  match ← member MirroringTlvType t.type.toNat with
  | .bgpMessage =>
    match Bgp.Message.read.run t.value with
    | (.ok m, []) => return message m
    | (.ok _, left) => throw (HasFault.ofFault (.afterMirrored left.length))
    | (.error e, _) => throw e
  | .information =>
    if t.value.length ≠ 2 then
      throw (HasFault.ofFault (.wrongWidth "mirroring information" 2 t.value.length))
    return information (← member MirroringType (Octets.value t.value))

def encodeAll (ts : List MirroringTlv) : Octets := ts.flatMap fun t => t.toTlv.encode

def readAll : Reader Error (List MirroringTlv) := do
  let tlvs ← Tlv.readAll "route mirroring"
  Reader.ofExcept (tlvs.mapM ofTlv)

end MirroringTlv

/-! ## All reports -/

inductive PeerReport where
  /-- One update, as the peer sent it. -/
  | routeMonitoring (update : Bgp.Message)
  | statistics (counters : List StatCounter)
  | peerDown (reason : PeerDownReason) (detail : PeerDownDetail)
  | peerUp (session : PeerUp)
  | routeMirroring (tlvs : List MirroringTlv)
deriving DecidableEq

namespace PeerReport

def type : PeerReport → MessageType
  | routeMonitoring _ => .routeMonitoring
  | statistics _ => .statisticsReport
  | peerDown .. => .peerDownNotification
  | peerUp _ => .peerUpNotification
  | routeMirroring _ => .routeMirroringMessage

def encode : PeerReport → Octets
  | routeMonitoring m => m.encode
  | statistics cs => StatCounter.encodeAll cs
  | peerDown reason detail => Octets.ofNat 1 (Code.number reason) ++ detail.encode
  | peerUp u => u.encode
  | routeMirroring ts => MirroringTlv.encodeAll ts

def readRouteMonitoring : Reader Error PeerReport := do
  return routeMonitoring (← readExpected .update)

def readStatistics : Reader Error PeerReport := do
  return statistics (← StatCounter.readAll)

def readPeerDown : Reader Error PeerReport := do
  let reason ← Reader.code PeerDownReason 1
  return peerDown reason (← PeerDownDetail.read reason)

def readPeerUp (isV6 : Bool) : Reader Error PeerReport := do
  return peerUp (← PeerUp.read isV6)

def readRouteMirroring : Reader Error PeerReport := do
  return routeMirroring (← MirroringTlv.readAll)

end PeerReport

end Telemetry.Bmp
