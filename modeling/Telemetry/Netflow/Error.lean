import Telemetry.Wire.Reader
import Telemetry.Net.AddressText
import Telemetry.Netflow.FlowField

/-!
What can be wrong with a NetFlow packet.
-/

namespace Telemetry.Netflow

open Wire

/-- What makes a template unusable. -/
inductive Flaw where
  | reservedId
  | emptyField
  | noFields
deriving DecidableEq, Repr

def Flaw.text : Flaw → String
  | reservedId => "template ids below 256 are reserved"
  | emptyField => "zero-length field"
  | noFields => "no fields"

inductive Error where
  /-- A fault that all protocols share. -/
  | wire (fault : Fault)
  | unsupportedVersion (version : UInt16)
  /-- Data that no template describes. -/
  | missingTemplate (exporter : Ip) (source : UInt32) (template : UInt16)
  /-- A flowset declares a length below that of its own head. -/
  | invalidSetLength (length : UInt16)
  | invalidTemplate (template : UInt16) (flaw : Flaw)
deriving DecidableEq

namespace Error

instance : HasFault Error := ⟨wire⟩

/-- Whether the packet ended inside its header or the head of a flowset. -/
def isInsufficient : Error → Bool
  | wire f => f.isInsufficient
  | _ => false

/-- A flowset is a slice of declared length: a shortage there is the flowset's own fault. -/
def inSet : Error → Error
  | wire f => wire (f.inSlice "NetFlow flowset")
  | e => e

def message : Error → String
  | wire f => f.message
  | unsupportedVersion version => "unsupported NetFlow version " ++ toString version.toNat
  | missingTemplate exporter source template =>
    "no template " ++ toString template.toNat ++ " from exporter " ++ exporter.toText ++
      " source id " ++ toString source.toNat
  | invalidSetLength length => "invalid flowset length " ++ toString length.toNat
  | invalidTemplate template flaw =>
    "invalid template " ++ toString template.toNat ++ ": " ++ flaw.text

end Error

end Telemetry.Netflow
