import Telemetry.Bgp.Message

/-!
What can be wrong with a BMP message.
-/

namespace Telemetry.Bmp

open Wire

inductive Error where
  /-- A fault that all protocols share. -/
  | wire (fault : Fault)
  | unsupportedVersion (version : UInt8)
  /-- The message declares a length below that of its common header. -/
  | invalidMessageLength (length : UInt32)
  /-- The content stops short of the declared length. -/
  | lengthMismatch (declared : UInt32) (consumed : Nat)
  /-- The address is of one family and the flag of the peer says the other. -/
  | addressFamilyMismatch
  /-- A known statistic has a width that no statistic has. -/
  | invalidStatsDataLength (length : UInt16)
  /-- A BGP message of another type than its place asks for. -/
  | unexpectedBgpMessage (expected found : Bgp.MessageType)
deriving DecidableEq, Repr

namespace Error

instance : HasFault Error := ⟨wire⟩

/-- Whether the input ended before the message did. -/
def isInsufficient : Error → Bool
  | wire f => f.isInsufficient
  | _ => false

/-- The body is a slice of declared length: a shortage there is the message's own fault. -/
def inBody : Error → Error
  | wire f => wire (f.inSlice "BMP message body")
  | e => e

def message : Error → String
  | wire f => f.message
  | unsupportedVersion version => "unsupported BMP version " ++ toString version.toNat
  | invalidMessageLength length => "invalid BMP message length " ++ toString length.toNat
  | lengthMismatch declared consumed =>
    "BMP message declares " ++ toString declared.toNat ++ " bytes but its content ends after " ++
      toString consumed
  | addressFamilyMismatch => "address does not match the address family flag"
  | invalidStatsDataLength length => "invalid stats data length " ++ toString length.toNat
  | unexpectedBgpMessage expected found =>
    "expected BGP " ++ expected.name ++ " message, found " ++ found.name

end Error

end Telemetry.Bmp
