import Telemetry.Net.Endpoint
import Telemetry.Bmp.Report
import Telemetry.Sflow.Report
import Telemetry.Netflow.Report

/-!
What the station hands on: a packet of one of the three protocols, and where it came from.
-/

namespace Telemetry.Station

open Json

inductive Transport where
  | bmp
  | sflow
  | netflow
deriving DecidableEq, Repr

namespace Transport

/-- The protocol as it is written. -/
def title : Transport → String
  | bmp => "BMP"
  | sflow => "sFlow"
  | netflow => "NetFlow"

/-- The protocol as a case name. -/
def tag : Transport → String
  | bmp => "Bmp"
  | sflow => "Sflow"
  | netflow => "Netflow"

end Transport

/-- Where a packet came from, and how. -/
structure Context where
  peer : Endpoint
  transport : Transport
deriving DecidableEq

def Context.toJson (c : Context) : Json :=
  obj [("peer", str c.peer.toText), ("transport", str c.transport.tag)]

inductive Packet where
  | bmp (packet : Bmp.Packet)
  | sflow (datagram : Sflow.Datagram)
  | netflow (packet : Netflow.Packet)
deriving DecidableEq

namespace Packet

/-- The protocol that the packet is of. -/
def transport : Packet → Transport
  | bmp _ => .bmp
  | sflow _ => .sflow
  | netflow _ => .netflow

def toJson : Packet → Json
  | bmp p => tagged "Bmp" p.toJson
  | sflow d => tagged "Sflow" d.toJson
  | netflow p => tagged "Netflow" p.toJson

/-- The data records of a flowset. -/
def dataRecords : Netflow.FlowSet → List Netflow.DataRecord
  | .data _ records => records
  | _ => []

/-- The packet in a few words. -/
def summary : Packet → String
  | bmp p =>
    match p.message.peerHeader? with
    | some peer =>
      "|".intercalate [p.type.name, peer.address.toText, toString peer.asn.toNat]
    | none => p.type.name
  | sflow d =>
    "agent " ++ d.header.agent.toText ++ "|seq " ++ toString d.header.sequence.toNat ++ "|" ++
      toString d.samples.length ++ " samples"
  | netflow p =>
    "source " ++ toString p.header.source.toNat ++ "|seq " ++ toString p.header.sequence.toNat ++
      "|" ++ toString p.flowSets.length ++ " flowsets|" ++
      toString (p.flowSets.flatMap dataRecords).length ++ " data records"

end Packet

/-- How packets are printed. -/
inductive PrintStyle where
  | summary
  | json
deriving DecidableEq, Repr

/-- The line that a printer writes for a packet. -/
def PrintStyle.line (style : PrintStyle) (context : Context) (packet : Packet) : String :=
  match style with
  | summary => "|".intercalate [context.transport.title, context.peer.toText, packet.summary]
  | json => (obj [("context", context.toJson), ("packet", packet.toJson)]).render

end Telemetry.Station
