import Telemetry.Text.Utf8
import Telemetry.Wire.Tlv
import Telemetry.Bmp.Code
import Telemetry.Bmp.Error

/-!
What a router says of itself: who it is when it connects, and why it leaves. Both messages are
lists of TLVs. The list is split to its end first; only then are the types looked at, in order.
-/

namespace Telemetry.Bmp

open Wire

/-- A text with a type, such as a name or a description. -/
structure TextTlv (τ : Type) where
  type : τ
  text : String
deriving DecidableEq

namespace TextTlv

variable {τ : Type} [Code τ]

def toTlv (t : TextTlv τ) : Tlv := ⟨UInt16.ofNat (Code.number t.type), Text.Utf8.encode t.text⟩

def ofTlv (t : Tlv) : Except Error (TextTlv τ) := do
  let type ← member τ t.type.toNat
  return ⟨type, Text.Utf8.decode t.value⟩

def encodeAll (ts : List (TextTlv τ)) : Octets := ts.flatMap fun t => t.toTlv.encode

/-- A list of texts up to the end. -/
def readAll (τ : Type) [Code τ] (message : String) : Reader Error (List (TextTlv τ)) := do
  let tlvs ← Tlv.readAll message
  Reader.ofExcept (tlvs.mapM ofTlv)

end TextTlv

abbrev InitiationTlv := TextTlv InitiationTlvType

/-- The first system name among the texts. -/
def InitiationTlv.systemName? (ts : List InitiationTlv) : Option String :=
  (ts.find? fun t => t.type == .sysName).map (·.text)

inductive TerminationTlv where
  | text (text : String)
  | reason (reason : TerminationReason)
deriving DecidableEq

namespace TerminationTlv

def toTlv : TerminationTlv → Tlv
  | text s => ⟨UInt16.ofNat (Code.number TerminationTlvType.string), Text.Utf8.encode s⟩
  | reason r => ⟨UInt16.ofNat (Code.number TerminationTlvType.reason), Octets.ofNat 2 (Code.number r)⟩

def ofTlv (t : Tlv) : Except Error TerminationTlv := do
  match ← member TerminationTlvType t.type.toNat with
  | .string => return text (Text.Utf8.decode t.value)
  | .reason =>
    if t.value.length ≠ 2 then
      throw (HasFault.ofFault (.wrongWidth "termination reason" 2 t.value.length))
    return reason (← member TerminationReason (Octets.value t.value))

def encodeAll (ts : List TerminationTlv) : Octets := ts.flatMap fun t => t.toTlv.encode

def readAll : Reader Error (List TerminationTlv) := do
  let tlvs ← Tlv.readAll "termination"
  Reader.ofExcept (tlvs.mapM ofTlv)

/-- The first reason given. -/
def reason? (ts : List TerminationTlv) : Option TerminationReason :=
  ts.findSome? fun
    | reason r => some r
    | text _ => none

end TerminationTlv

end Telemetry.Bmp
