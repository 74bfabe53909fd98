import Telemetry.Octets

/-!
Internet addresses. An address is its bytes in network order, and the family is which of the two
widths it has.
-/

namespace Telemetry

abbrev Ipv4 := Block 4

abbrev Ipv6 := Block 16

/-- A hardware address. -/
abbrev Mac := Block 6

inductive Ip where
  | v4 (address : Ipv4)
  | v6 (address : Ipv6)
deriving DecidableEq

namespace Ip

def isV6 : Ip → Bool
  | v4 _ => false
  | v6 _ => true

/-- The bytes, four or sixteen. -/
def octets : Ip → Octets
  | v4 a => a.octets
  | v6 a => a.octets

/-- A field of sixteen bytes that holds either family, an IPv4 address behind twelve zeros. -/
def padded : Ip → Octets
  | v4 a => Octets.zeros 12 ++ a.octets
  | v6 a => a.octets

/-- The address in a field of sixteen bytes, when the field is of that family: of an IPv4 address
the twelve bytes in front have to be zero. -/
def ofPadded? (isV6 : Bool) (field : Block 16) : Option Ip :=
  if isV6 then some (v6 field)
  else if (field.octets.take 12).all (· == 0) then
    some (v4 ⟨field.octets.drop 12, by simp [field.length_octets]⟩)
  else none

/-- The first byte is 127. -/
def isLoopback : Ip → Bool
  | v4 a => a.octets.head? == some 127
  | v6 a => a.octets == Octets.zeros 15 ++ [1]

end Ip

end Telemetry
