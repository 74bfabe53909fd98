import Telemetry.Wire.Reader

/-!
BGP messages, framed but not interpreted.

A message is sixteen one-bytes, its length in two bytes, its type in one, and a body. The length
counts the nineteen bytes of this header, and no message is longer than 4096 bytes. What the body
says is left to whoever receives it.
-/

namespace Telemetry.Bgp

open Wire

inductive MessageType where
  | opening
  | update
  | notification
  | keepAlive
  | routeRefresh
deriving DecidableEq, Repr

namespace MessageType

def number : MessageType → Nat
  | opening => 1
  | update => 2
  | notification => 3
  | keepAlive => 4
  | routeRefresh => 5

def name : MessageType → String
  | opening => "Open"
  | update => "Update"
  | notification => "Notification"
  | keepAlive => "KeepAlive"
  | routeRefresh => "RouteRefresh"

end MessageType

instance : Code MessageType where
  title := "BgpMessageType"
  members := [.opening, .update, .notification, .keepAlive, .routeRefresh]
  number := MessageType.number
  name := MessageType.name
  find_number a := by cases a <;> rfl

/-- The bytes in front of the body. -/
def headerLength : Nat := 19

def maxLength : Nat := 4096

def marker : Octets := List.replicate 16 0xff

structure Message where
  type : MessageType
  body : Octets
deriving DecidableEq

namespace Message

/-- The length with the header, whatever a length field could hold. -/
def wireLength (m : Message) : Nat := headerLength + m.body.length

/-- An update that announces and withdraws nothing marks the end of the initial routes. -/
def isEndOfRib (m : Message) : Bool := m.type == .update && m.body == [0, 0, 0, 0]

/-- The written form. A length above sixteen bits is reduced, so a body that is too long spoils
the length field and nothing else. -/
def encode (m : Message) : Octets :=
  marker ++ Octets.ofNat 2 m.wireLength ++ Octets.ofNat 1 m.type.number ++ m.body

variable {ε : Type} [HasFault ε]

/-- The message in front of a slice. The marker is checked before the length, and the length
before the type. -/
def read : Reader ε Message := do
  let front ← Reader.take 16
  if front != marker then Reader.fault .badMarker
  else
    let length := (← Reader.u16).toNat
    if length < headerLength ∨ maxLength < length then Reader.fault (.badMessageLength length)
    else
      let type ← Reader.code MessageType 1
      let body ← Reader.slice "BGP message" (length - headerLength)
      return ⟨type, body⟩

end Message

end Telemetry.Bgp
