import Telemetry.Json
import Telemetry.Net.AddressText
import Telemetry.Bmp.Packet

/-!
BMP packets as JSON.
-/

namespace Telemetry

open Wire

namespace Json

/-- A member of a closed set by its name. -/
def ofCode {α : Type} [Code α] (a : α) : Json := str (Code.name a)

end Json

open Json

def Bgp.Message.toJson (m : Bgp.Message) : Json :=
  obj [("msg_type", ofCode m.type), ("body", ofOctets m.body)]

namespace Bmp

def CommonHeader.toJson (h : CommonHeader) : Json :=
  obj [("version", ofCode h.version), ("msg_len", num h.length.toNat), ("msg_type", ofCode h.type)]

def PeerHeader.toJson (h : PeerHeader) : Json :=
  obj [("peer_type", ofCode h.type), ("peer_flags", str h.flags.toText),
    ("peer_distinguisher", num h.distinguisher.toNat), ("peer_ip", str h.address.toText),
    ("peer_asn", num h.asn.toNat), ("peer_bgp_id", str (Ipv4.toText h.bgpId)),
    ("timestamp_secs", num h.seconds.toNat), ("timestamp_micros", num h.micros.toNat)]

/-- A text with its type; how the text is called depends on the message. -/
def TextTlv.toJson {τ : Type} [Code τ] (label : String) (t : TextTlv τ) : Json :=
  obj [("info_type", ofCode t.type), (label, str t.text)]

def TerminationTlv.toJson : TerminationTlv → Json
  | text s => tagged "String" (str s)
  | reason r => tagged "Reason" (ofCode r)

def StatData.toJson : StatData → Json
  | counter v => tagged "Counter" (num v.toNat)
  | gauge v => tagged "Gauge" (num v.toNat)
  | familyGauge afi safi v =>
    tagged "AfiSafiGauge"
      (obj [("afi", num afi.toNat), ("safi", num safi.toNat), ("value", num v.toNat)])
  | unknown bs => tagged "Unknown" (ofOctets bs)

def StatCounter.toJson (c : StatCounter) : Json :=
  obj [("stat_type", num c.type.toNat), ("stat_data", c.data.toJson)]

def PeerDownDetail.toJson : PeerDownDetail → Json
  | notification m => tagged "Notification" m.toJson
  | event c => tagged "FsmEventCode" (num c.toNat)
  | nothing => str "None"

def MirroringTlv.toJson : MirroringTlv → Json
  | message m => tagged "BgpMessage" m.toJson
  | information i => tagged "Information" (ofCode i)

/-- The fields of a report behind the header of its peer. -/
def PeerReport.fields : PeerReport → List (String × Json)
  | routeMonitoring m => [("bgp_message", m.toJson)]
  | statistics cs => [("counters", ofList StatCounter.toJson cs)]
  | peerDown reason detail => [("reason", ofCode reason), ("data", detail.toJson)]
  | peerUp u =>
    [("local_addr", str u.localAddress.toText), ("local_port", num u.localPort.toNat),
      ("remote_port", num u.remotePort.toNat), ("sent_open", u.sentOpen.toJson),
      ("received_open", u.receivedOpen.toJson),
      ("tlvs", ofList (TextTlv.toJson "info_value") u.tlvs)]
  | routeMirroring ts => [("tlvs", ofList MirroringTlv.toJson ts)]

def PeerReport.tag : PeerReport → String
  | routeMonitoring _ => "RouteMonitoring"
  | statistics _ => "StatsReport"
  | peerDown .. => "PeerDownNotification"
  | peerUp _ => "PeerUpNotification"
  | routeMirroring _ => "RouteMirroring"

def Message.toJson : Message → Json
  | initiation ts => tagged "Initiation" (obj [("tlvs", ofList (TextTlv.toJson "info") ts)])
  | termination ts => tagged "Termination" (obj [("tlvs", ofList TerminationTlv.toJson ts)])
  | peer header report =>
    tagged report.tag (obj (("per_peer_header", header.toJson) :: report.fields))

def Packet.toJson (p : Packet) : Json :=
  obj [("version", ofCode p.version), ("length", num p.length.toNat), ("msg_type", ofCode p.type),
    ("message", p.message.toJson)]

end Bmp

end Telemetry
