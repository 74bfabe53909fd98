import Telemetry.Sflow.Datagram
import Telemetry.Sflow.Error

/-!
sFlow datagrams as bytes.

Writing never fails. A value too wide for its place overlaps its neighbour or is reduced, as the
arithmetic of 32-bit words has it, and the sample count is written as it stands.
-/

namespace Telemetry.Sflow

open Wire

/-- A two-part value; in the compact form the kind is moved `shift` bits up over the value. -/
def Tagged.encode (form : Form) (shift : Nat) (t : Tagged) : Octets :=
  match form with
  | .expanded => Octets.ofUInt32 t.kind ++ Octets.ofUInt32 t.value
  | .compact => Octets.ofNat 4 (t.kind.toNat <<< shift ||| t.value.toNat)

/-- The kind of a source takes the upper eight bits of a word. -/
def sourceShift : Nat := 24

/-- The format of an interface takes the upper two bits of a word. -/
def interfaceShift : Nat := 30

/-- A format, a length, and as many bytes. -/
def encodePart (format : DataFormat) (body : Octets) : Octets :=
  Octets.ofUInt32 format.toWord ++ Octets.ofNat 4 body.length ++ body

namespace RawHeader

/-- The header bytes are filled up with zeros to a multiple of four, which their own length does
not count. -/
def encode (h : RawHeader) : Octets :=
  Octets.ofUInt32 h.protocol ++ Octets.ofUInt32 h.frameLength ++ Octets.ofUInt32 h.stripped ++
    Octets.ofNat 4 h.header.length ++ h.header ++ Octets.zeros ((4 - h.header.length % 4) % 4)

end RawHeader

namespace InterfaceCounters

def encode (c : InterfaceCounters) : Octets :=
  Octets.ofUInt32 c.index ++ Octets.ofUInt32 c.type ++ Octets.ofUInt64 c.speed ++
    Octets.ofUInt32 c.direction ++ Octets.ofUInt32 c.status ++ Octets.ofUInt64 c.inOctets ++
    Octets.ofUInt32 c.inUnicast ++ Octets.ofUInt32 c.inMulticast ++
    Octets.ofUInt32 c.inBroadcast ++ Octets.ofUInt32 c.inDiscards ++ Octets.ofUInt32 c.inErrors ++
    Octets.ofUInt32 c.inUnknownProtocols ++ Octets.ofUInt64 c.outOctets ++
    Octets.ofUInt32 c.outUnicast ++ Octets.ofUInt32 c.outMulticast ++
    Octets.ofUInt32 c.outBroadcast ++ Octets.ofUInt32 c.outDiscards ++
    Octets.ofUInt32 c.outErrors ++ Octets.ofUInt32 c.promiscuous

end InterfaceCounters

def FlowData.encode : FlowData → Octets
  | rawHeader h => h.encode
  | unknown bs => bs

def CounterData.encode : CounterData → Octets
  | interface c => c.encode
  | unknown bs => bs

/-- A count of four bytes, and the records. -/
def Record.encodeAll {δ : Type} (encode : δ → Octets) (rs : List (Record δ)) : Octets :=
  Octets.ofNat 4 rs.length ++ rs.flatMap fun r => encodePart r.format (encode r.data)

def FlowSample.encode (form : Form) (s : FlowSample) : Octets :=
  Octets.ofUInt32 s.sequence ++ s.source.encode form sourceShift ++
    Octets.ofUInt32 s.samplingRate ++ Octets.ofUInt32 s.samplePool ++ Octets.ofUInt32 s.drops ++
    s.input.encode form interfaceShift ++ s.output.encode form interfaceShift ++
    Record.encodeAll FlowData.encode s.records

def CounterSample.encode (form : Form) (s : CounterSample) : Octets :=
  Octets.ofUInt32 s.sequence ++ s.source.encode form sourceShift ++
    Record.encodeAll CounterData.encode s.records

namespace Sample

def format : Sample → DataFormat
  | flow .compact _ => .standard 1
  | counter .compact _ => .standard 2
  | flow .expanded _ => .standard 3
  | counter .expanded _ => .standard 4
  | unknown format _ => format

def body : Sample → Octets
  | flow form s => s.encode form
  | counter form s => s.encode form
  | unknown _ data => data

def encode (s : Sample) : Octets := encodePart s.format s.body

end Sample

namespace Header

def addressType (h : Header) : AddressType :=
  match h.agent with
  | .v4 _ => .ipv4
  | .v6 _ => .ipv6

def encode (h : Header) : Octets :=
  Octets.ofUInt32 h.version ++ Octets.ofNat 4 (Code.number h.addressType) ++ h.agent.octets ++
    Octets.ofUInt32 h.subAgent ++ Octets.ofUInt32 h.sequence ++ Octets.ofUInt32 h.uptime ++
    Octets.ofUInt32 h.sampleCount

end Header

def Datagram.encode (d : Datagram) : Octets := d.header.encode ++ d.samples.flatMap Sample.encode

end Telemetry.Sflow
