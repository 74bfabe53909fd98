import Telemetry.Bmp.PeerReport

/-!
Whole BMP messages.

A packet is the common header and a body. The body is a slice of the declared length: content that
needs more is an error that no further input mends, and content that needs less is an error too.
So once the declared length is there, what is decoded depends on that many bytes only, and they
are consumed whatever comes of them.
-/

namespace Telemetry.Bmp

open Wire

/-- The body of a message. -/
inductive Message where
  | initiation (tlvs : List InitiationTlv)
  | termination (tlvs : List TerminationTlv)
  | peer (header : PeerHeader) (report : PeerReport)
deriving DecidableEq

namespace Message

def type : Message → MessageType
  | initiation _ => .initiationMessage
  | termination _ => .terminationMessage
  | peer _ report => report.type

/-- The peer that the message is about, if it is about one. -/
def peerHeader? : Message → Option PeerHeader
  | peer header _ => some header
  | _ => none

def encode : Message → Octets
  | initiation ts => TextTlv.encodeAll ts
  | termination ts => TerminationTlv.encodeAll ts
  | peer header report => header.encode ++ report.encode

/-- A report and the peer in front of it. -/
def readPeer (report : PeerHeader → Reader Error PeerReport) : Reader Error Message := do
  let header ← PeerHeader.read
  return peer header (← report header)

/-- The body of a message whose type is known. -/
def read : MessageType → Reader Error Message
  | .initiationMessage => do
    return initiation (← TextTlv.readAll InitiationTlvType "initiation")
  | .terminationMessage => do return termination (← TerminationTlv.readAll)
  | .routeMonitoring => readPeer fun _ => PeerReport.readRouteMonitoring
  | .statisticsReport => readPeer fun _ => PeerReport.readStatistics
  | .peerDownNotification => readPeer fun _ => PeerReport.readPeerDown
  | .peerUpNotification => readPeer fun header => PeerReport.readPeerUp header.isIpv6
  | .routeMirroringMessage => readPeer fun _ => PeerReport.readRouteMirroring

end Message

structure Packet where
  version : Version
  /-- The length of the message, the common header included. -/
  length : UInt32
  type : MessageType
  message : Message
deriving DecidableEq

namespace Packet

/-- The packet that carries a message. -/
def ofMessage (m : Message) : Packet :=
  ⟨.bmp3, UInt32.ofNat (commonHeaderLength + m.encode.length), m.type, m⟩

/-- The written form. The length is that of the body; the one in the packet is not looked at. -/
def encode (p : Packet) : Octets :=
  let body := p.message.encode
  CommonHeader.encode ⟨p.version, UInt32.ofNat (commonHeaderLength + body.length), p.type⟩ ++ body

/-- The message in front of the input. -/
def read : Reader Error Packet := do
  let header ← CommonHeader.read
  let body ← Reader.take (header.length.toNat - commonHeaderLength)
  let (message, left) ← Reader.inside (Reader.mapError Error.inBody (Message.read header.type)) body
  if left.isEmpty then return ⟨header.version, header.length, header.type, message⟩
  else Reader.fail (.lengthMismatch header.length (header.length.toNat - left.length))

end Packet

end Telemetry.Bmp
