import Telemetry.Sflow.Writer
import Telemetry.Net.AddressText
import Telemetry.Log

/-!
sFlow datagrams from bytes.

After the header come samples to the end of the datagram. A sample is read once all of it is
there; what is left behind the last complete one, and a number of samples other than the header
announces, are errors in strict mode and worth a remark in lenient mode. Inside a sample the two
modes do not differ: a malformed sample fails the datagram.
-/

namespace Telemetry.Sflow

open Wire

/-- What to do with a datagram that does not hold exactly the samples it announces. -/
inductive Mode where
  | strict
  | lenient
deriving DecidableEq, Repr

def version5 : UInt32 := 5

/-- A two-part value. -/
def Tagged.read (form : Form) (shift : Nat) : Reader Error Tagged := do
  match form with
  | .expanded => return ⟨← Reader.u32, ← Reader.u32⟩
  | .compact =>
    let w := (← Reader.u32).toNat
    return ⟨UInt32.ofNat (w >>> shift), UInt32.ofNat (w % (1 <<< shift))⟩

def DataFormat.read : Reader Error DataFormat := do return ofWord (← Reader.u32)

namespace RawHeader

/-- Filling behind the header bytes is not looked at. -/
def read : Reader Error RawHeader := do
  let protocol ← Reader.u32
  let frameLength ← Reader.u32
  let stripped ← Reader.u32
  let length ← Reader.u32
  return ⟨protocol, frameLength, stripped, ← Reader.take length.toNat⟩

end RawHeader

namespace InterfaceCounters

/-- The length of all counters together. -/
def wireLength : Nat := 88

/-- All counters have to be there before the first is consumed. -/
def read : Reader Error InterfaceCounters := do
  Reader.need wireLength
  return {
    index := ← Reader.u32
    type := ← Reader.u32
    speed := ← Reader.u64
    direction := ← Reader.u32
    status := ← Reader.u32
    inOctets := ← Reader.u64
    inUnicast := ← Reader.u32
    inMulticast := ← Reader.u32
    inBroadcast := ← Reader.u32
    inDiscards := ← Reader.u32
    inErrors := ← Reader.u32
    inUnknownProtocols := ← Reader.u32
    outOctets := ← Reader.u64
    outUnicast := ← Reader.u32
    outMulticast := ← Reader.u32
    outBroadcast := ← Reader.u32
    outDiscards := ← Reader.u32
    outErrors := ← Reader.u32
    promiscuous := ← Reader.u32 }

end InterfaceCounters

/-- The content of a flow record, of which one format is known. -/
def FlowData.read (format : DataFormat) : Reader Error FlowData := do
  if format = .standard 1 then return rawHeader (← RawHeader.read)
  else return unknown (← Reader.all)

/-- The content of a counter record, of which one format is known. -/
def CounterData.read (format : DataFormat) : Reader Error CounterData := do
  if format = .standard 1 then return interface (← InterfaceCounters.read)
  else return unknown (← Reader.all)

namespace Record

variable {δ : Type}

/-- A format, a length, and a slice for the content; what the content leaves of it is ignored. -/
def read (part : String) (content : DataFormat → Reader Error δ) : Reader Error (Record δ) := do
  let format ← DataFormat.read
  let length ← Reader.u32
  let body ← Reader.slice part length.toNat
  let (data, _) ← Reader.inside (content format) body
  return ⟨format, data⟩

def readAll (part : String) (content : DataFormat → Reader Error δ) :
    Reader Error (List (Record δ)) := do
  let count ← Reader.u32
  Reader.times count.toNat (read part content)

end Record

def FlowSample.read (form : Form) : Reader Error FlowSample := do
  return {
    sequence := ← Reader.u32
    source := ← Tagged.read form sourceShift
    samplingRate := ← Reader.u32
    samplePool := ← Reader.u32
    drops := ← Reader.u32
    input := ← Tagged.read form interfaceShift
    output := ← Tagged.read form interfaceShift
    records := ← Record.readAll "sFlow flow record" FlowData.read }

def CounterSample.read (form : Form) : Reader Error CounterSample := do
  return {
    sequence := ← Reader.u32
    source := ← Tagged.read form sourceShift
    records := ← Record.readAll "sFlow counter record" CounterData.read }

namespace Sample

/-- The length of what stands in front of a sample: its format and its length. -/
def headLength : Nat := 8

/-- Whether a whole sample is in front. -/
def isComplete (bs : Octets) : Bool :=
  match Octets.cut? headLength bs with
  | some (head, rest) => Octets.holds (Octets.value (head.drop 4)) rest
  | none => false

/-- The content of a sample. -/
def readBody (format : DataFormat) : Reader Error Sample := do
  let type := if format.enterprise = 0 then Code.ofNumber? format.format.toNat else none
  match (type : Option SampleType) with
  | some .flow => return flow .compact (← FlowSample.read .compact)
  | some .counter => return counter .compact (← CounterSample.read .compact)
  | some .expandedFlow => return flow .expanded (← FlowSample.read .expanded)
  | some .expandedCounter => return counter .expanded (← CounterSample.read .expanded)
  | none => return unknown format (← Reader.all)

/-- A format, a length, and a slice for the content; what the content leaves of it is ignored. -/
def read : Reader Error Sample := do
  let format ← DataFormat.read
  let length ← Reader.u32
  let body ← Reader.take length.toNat
  let (sample, _) ← Reader.inside (Reader.mapError Error.inSample (readBody format)) body
  return sample

/-- All complete samples in front. -/
def readAll : Reader Error (List Sample) := Reader.whileLeft isComplete read

end Sample

def Header.read : Reader Error Header := do
  let version ← Reader.u32
  if version ≠ version5 then Reader.fail (.unsupportedVersion version)
  else
    let agent ← match ← Reader.code AddressType 4 with
      | .ipv4 => do pure (Ip.v4 (← Reader.block 4))
      | .ipv6 => do pure (Ip.v6 (← Reader.block 16))
    return {
      version
      agent
      subAgent := ← Reader.u32
      sequence := ← Reader.u32
      uptime := ← Reader.u32
      sampleCount := ← Reader.u32 }

/-- What decoding has to remark. -/
inductive Event where
  | dropped (agent : Ip) (count samples : Nat)
  | miscounted (agent : Ip) (declared : UInt32) (decoded : Nat)
deriving DecidableEq

namespace Event

def text : Event → String
  | dropped agent count samples =>
    "sFlow agent " ++ agent.toText ++ ": dropping " ++ toString count ++
      " trailing bytes after sample " ++ toString samples
  | miscounted agent declared decoded =>
    "sFlow agent " ++ agent.toText ++ ": header announces " ++ toString declared.toNat ++
      " samples, decoded " ++ toString decoded

def line (e : Event) : Log.Line := ⟨.debug, e.text⟩

end Event

/-- A decoded datagram, and how many bytes behind its last complete sample were dropped. -/
structure Decoded where
  datagram : Datagram
  dropped : Nat
deriving DecidableEq

namespace Decoded

/-- The remarks on a datagram: of one that is as it should be there are none. -/
def events (d : Decoded) : List Event :=
  let h := d.datagram.header
  let n := d.datagram.samples.length
  (if d.dropped = 0 then [] else [.dropped h.agent d.dropped n]) ++
    (if n = h.sampleCount.toNat then [] else [.miscounted h.agent h.sampleCount n])

end Decoded

/-- Refuse what strict mode does not allow. -/
def Datagram.check (h : Header) (samples : List Sample) (left : Octets) : Except Error Unit :=
  if !left.isEmpty then .error (.trailingBytes left.length)
  else if samples.length ≠ h.sampleCount.toNat then
    .error (.sampleCountMismatch h.sampleCount samples.length)
  else .ok ()

/-- A whole datagram. -/
def Datagram.read (mode : Mode) : Reader Error Decoded := do
  let header ← Header.read
  let samples ← Sample.readAll
  let left ← Reader.rest
  match mode with
  | .strict => Reader.ofExcept (Datagram.check header samples left)
  | .lenient => pure ()
  let _ ← Reader.all
  return ⟨⟨header, samples⟩, left.length⟩

end Telemetry.Sflow
