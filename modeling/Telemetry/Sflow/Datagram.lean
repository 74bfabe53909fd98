import Telemetry.Net.Ip

/-!
What an sFlow version 5 datagram holds: a header, and samples of the traffic and of the counters
of an agent.

A sample says its format and its length, and so does each record in it, so what has no meaning
here is carried as it comes. Samples come in a compact and an expanded form, which differ only in
how two-part values are packed, and share their types.
-/

namespace Telemetry.Sflow

/-- The format of a sample or record: who defined it, and which of theirs it is. -/
structure DataFormat where
  enterprise : UInt32
  format : UInt32
deriving DecidableEq

namespace DataFormat

/-- Twenty bits for the enterprise, twelve for the format. -/
def ofWord (w : UInt32) : DataFormat :=
  ⟨UInt32.ofNat (w.toNat / 4096), UInt32.ofNat (w.toNat % 4096)⟩

/-- What does not fit the twenty or twelve bits is lost. -/
def toWord (f : DataFormat) : UInt32 :=
  UInt32.ofNat (f.enterprise.toNat * 4096 + f.format.toNat % 4096)

/-- The formats that the standard itself defines. -/
def standard (format : UInt32) : DataFormat := ⟨0, format⟩

end DataFormat

/-- How two-part values are packed: both in one word, or each in its own. -/
inductive Form where
  | compact
  | expanded
deriving DecidableEq, Repr

/-- A value with the kind that says how to take it: a source, or an interface. -/
structure Tagged where
  kind : UInt32
  value : UInt32
deriving DecidableEq

/-- The first bytes of a sampled packet. -/
structure RawHeader where
  /-- What the bytes are a header of: 1 is Ethernet, 11 IPv4, 12 IPv6. -/
  protocol : UInt32
  frameLength : UInt32
  stripped : UInt32
  header : Octets
deriving DecidableEq

/-- The counters that any interface has. -/
structure InterfaceCounters where
  index : UInt32
  type : UInt32
  speed : UInt64
  direction : UInt32
  status : UInt32
  inOctets : UInt64
  inUnicast : UInt32
  inMulticast : UInt32
  inBroadcast : UInt32
  inDiscards : UInt32
  inErrors : UInt32
  inUnknownProtocols : UInt32
  outOctets : UInt64
  outUnicast : UInt32
  outMulticast : UInt32
  outBroadcast : UInt32
  outDiscards : UInt32
  outErrors : UInt32
  promiscuous : UInt32
deriving DecidableEq

/-- The content of a record of a flow sample. -/
inductive FlowData where
  | rawHeader (header : RawHeader)
  | unknown (data : Octets)
deriving DecidableEq

/-- The content of a record of a counter sample. -/
inductive CounterData where
  | interface (counters : InterfaceCounters)
  | unknown (data : Octets)
deriving DecidableEq

/-- A record and its format. -/
structure Record (δ : Type) where
  format : DataFormat
  data : δ
deriving DecidableEq

structure FlowSample where
  sequence : UInt32
  source : Tagged
  samplingRate : UInt32
  samplePool : UInt32
  drops : UInt32
  input : Tagged
  output : Tagged
  records : List (Record FlowData)
deriving DecidableEq

structure CounterSample where
  sequence : UInt32
  source : Tagged
  records : List (Record CounterData)
deriving DecidableEq

inductive Sample where
  | flow (form : Form) (sample : FlowSample)
  | counter (form : Form) (sample : CounterSample)
  /-- A sample without a meaning here. -/
  | unknown (format : DataFormat) (data : Octets)
deriving DecidableEq

structure Header where
  version : UInt32
  agent : Ip
  subAgent : UInt32
  sequence : UInt32
  /-- Milliseconds since the agent started. -/
  uptime : UInt32
  /-- How many samples the agent says there are. -/
  sampleCount : UInt32
deriving DecidableEq

structure Datagram where
  header : Header
  samples : List Sample
deriving DecidableEq

end Telemetry.Sflow
