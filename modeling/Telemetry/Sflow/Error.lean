import Telemetry.Wire.Reader

/-!
What can be wrong with an sFlow datagram, and the code points that it has.
-/

namespace Telemetry.Sflow

open Wire

inductive Error where
  /-- A fault that all protocols share. -/
  | wire (fault : Fault)
  | unsupportedVersion (version : UInt32)
  /-- The datagram goes on behind its last complete sample. -/
  | trailingBytes (count : Nat)
  /-- The header announces another number of samples than there are. -/
  | sampleCountMismatch (declared : UInt32) (decoded : Nat)
deriving DecidableEq, Repr

namespace Error

instance : HasFault Error := ⟨wire⟩

/-- Whether the datagram ended inside its header. -/
def isInsufficient : Error → Bool
  | wire f => f.isInsufficient
  | _ => false

/-- A sample is a slice of declared length: a shortage there is the sample's own fault. -/
def inSample : Error → Error
  | wire f => wire (f.inSlice "sFlow sample")
  | e => e

def message : Error → String
  | wire f => f.message
  | unsupportedVersion version => "unsupported sFlow version " ++ toString version.toNat
  | trailingBytes count => s!"{count} bytes after the last complete sample"
  | sampleCountMismatch declared decoded =>
    "header announces " ++ toString declared.toNat ++ " samples, datagram holds " ++
      toString decoded

end Error

/-- The family of an agent's address. -/
inductive AddressType where
  | ipv4
  | ipv6
deriving DecidableEq, Repr

instance : Code AddressType where
  title := "AgentAddressType"
  members := [.ipv4, .ipv6]
  number
    | .ipv4 => 1
    | .ipv6 => 2
  name
    | .ipv4 => "Ipv4"
    | .ipv6 => "Ipv6"
  find_number a := by cases a <;> rfl

/-- The standard formats of samples. -/
inductive SampleType where
  | flow
  | counter
  | expandedFlow
  | expandedCounter
deriving DecidableEq, Repr

instance : Code SampleType where
  title := "SampleType"
  members := [.flow, .counter, .expandedFlow, .expandedCounter]
  number
    | .flow => 1
    | .counter => 2
    | .expandedFlow => 3
    | .expandedCounter => 4
  name
    | .flow => "FlowSample"
    | .counter => "CounterSample"
    | .expandedFlow => "ExpandedFlowSample"
    | .expandedCounter => "ExpandedCounterSample"
  find_number a := by cases a <;> rfl

end Telemetry.Sflow
