import Telemetry.Net.AddressText

/-!
An address with a port: where a packet comes from, or where a socket listens. IPv6 addresses may
carry the zone they are meant in.
-/

namespace Telemetry

inductive Endpoint where
  | v4 (address : Ipv4) (port : UInt16)
  | v6 (address : Ipv6) (zone : UInt32) (port : UInt16)
deriving DecidableEq

namespace Endpoint

/-- The address alone. -/
def ip : Endpoint → Ip
  | v4 a _ => .v4 a
  | v6 a _ _ => .v6 a

def port : Endpoint → UInt16
  | v4 _ p => p
  | v6 _ _ p => p

def ofIp : Ip → UInt16 → Endpoint
  | .v4 a, port => v4 a port
  | .v6 a, port => v6 a 0 port

/-- An IPv6 address stands in brackets, with its zone unless that is zero. -/
def toText : Endpoint → String
  | v4 a port => Ipv4.toText a ++ ":" ++ toString port.toNat
  | v6 a zone port =>
    let scope := if zone = 0 then "" else "%" ++ toString zone.toNat
    "[" ++ Ipv6.toText a ++ scope ++ "]:" ++ toString port.toNat

open AddressText in
/-- A colon and a port. -/
def portText : Scanner UInt16 := fun cs => do
  let (_, cs) ← char ':' cs
  let (n, cs) ← decimal 65536 cs
  return (UInt16.ofNat n, cs)

open AddressText in
/-- A per cent sign and a zone number, or no zone. -/
def zoneText : Scanner UInt32 := fun cs =>
  match cs with
  | '%' :: rest => do
    let (n, rest) ← decimal 4294967296 rest
    return (UInt32.ofNat n, rest)
  | _ => some (0, cs)

open AddressText in
def scanV4 : Scanner Endpoint := fun cs => do
  let (a, cs) ← ipv4 cs
  let (port, cs) ← portText cs
  return (v4 a port, cs)

open AddressText in
def scanV6 : Scanner Endpoint := fun cs => do
  let (_, cs) ← char '[' cs
  let (a, cs) ← ipv6 cs
  let (zone, cs) ← zoneText cs
  let (_, cs) ← char ']' cs
  let (port, cs) ← portText cs
  return (v6 a zone port, cs)

def ofText? (s : String) : Option Endpoint :=
  AddressText.whole scanV4 s <|> AddressText.whole scanV6 s

end Endpoint

end Telemetry
