import Telemetry.Json
import Telemetry.Net.AddressText
import Telemetry.Sflow.Writer

/-!
sFlow datagrams as JSON.
-/

namespace Telemetry.Sflow

open Json

def RawHeader.toJson (h : RawHeader) : Json :=
  obj [("protocol", num h.protocol.toNat), ("frame_length", num h.frameLength.toNat),
    ("stripped", num h.stripped.toNat), ("header", ofOctets h.header)]

def InterfaceCounters.toJson (c : InterfaceCounters) : Json :=
  obj [("if_index", num c.index.toNat), ("if_type", num c.type.toNat),
    ("if_speed", num c.speed.toNat), ("if_direction", num c.direction.toNat),
    ("if_status", num c.status.toNat), ("in_octets", num c.inOctets.toNat),
    ("in_ucast_pkts", num c.inUnicast.toNat), ("in_multicast_pkts", num c.inMulticast.toNat),
    ("in_broadcast_pkts", num c.inBroadcast.toNat), ("in_discards", num c.inDiscards.toNat),
    ("in_errors", num c.inErrors.toNat), ("in_unknown_protos", num c.inUnknownProtocols.toNat),
    ("out_octets", num c.outOctets.toNat), ("out_ucast_pkts", num c.outUnicast.toNat),
    ("out_multicast_pkts", num c.outMulticast.toNat),
    ("out_broadcast_pkts", num c.outBroadcast.toNat), ("out_discards", num c.outDiscards.toNat),
    ("out_errors", num c.outErrors.toNat), ("promiscuous_mode", num c.promiscuous.toNat)]

def FlowData.toJson : FlowData → Json
  | rawHeader h => tagged "RawPacketHeader" h.toJson
  | unknown bs => tagged "Unknown" (ofOctets bs)

def CounterData.toJson : CounterData → Json
  | interface c => tagged "GenericInterface" c.toJson
  | unknown bs => tagged "Unknown" (ofOctets bs)

def DataFormat.fields (f : DataFormat) : List (String × Json) :=
  [("enterprise", num f.enterprise.toNat), ("format", num f.format.toNat)]

def Record.toJson {δ : Type} (content : δ → Json) (r : Record δ) : Json :=
  obj (r.format.fields ++ [("data", content r.data)])

/-- A source: its type and its index. -/
def Tagged.sourceFields (t : Tagged) : List (String × Json) :=
  [("source_id_type", num t.kind.toNat), ("source_id_index", num t.value.toNat)]

def FlowSample.toJson (s : FlowSample) : Json :=
  obj ([("sequence_number", num s.sequence.toNat)] ++ s.source.sourceFields ++
    [("sampling_rate", num s.samplingRate.toNat), ("sample_pool", num s.samplePool.toNat),
      ("drops", num s.drops.toNat), ("input_format", num s.input.kind.toNat),
      ("input", num s.input.value.toNat), ("output_format", num s.output.kind.toNat),
      ("output", num s.output.value.toNat),
      ("records", ofList (Record.toJson FlowData.toJson) s.records)])

def CounterSample.toJson (s : CounterSample) : Json :=
  obj ([("sequence_number", num s.sequence.toNat)] ++ s.source.sourceFields ++
    [("records", ofList (Record.toJson CounterData.toJson) s.records)])

def Sample.toJson : Sample → Json
  | flow .compact s => tagged "Flow" s.toJson
  | flow .expanded s => tagged "ExpandedFlow" s.toJson
  | counter .compact s => tagged "Counter" s.toJson
  | counter .expanded s => tagged "ExpandedCounter" s.toJson
  | unknown format data => tagged "Unknown" (obj (format.fields ++ [("data", ofOctets data)]))

def Datagram.toJson (d : Datagram) : Json :=
  obj [("version", num d.header.version.toNat), ("agent_address", str d.header.agent.toText),
    ("sub_agent_id", num d.header.subAgent.toNat),
    ("sequence_number", num d.header.sequence.toNat), ("sys_uptime", num d.header.uptime.toNat),
    ("sample_count", num d.header.sampleCount.toNat), ("samples", ofList Sample.toJson d.samples)]

end Telemetry.Sflow
