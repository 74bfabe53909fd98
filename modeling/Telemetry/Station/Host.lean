import Telemetry.Station.Config

/-!
The machine that the station runs on, as far as its ports go.

A port can be bound once for connections and once for datagrams. Binding a port that is taken
fails; binding port zero takes some free port. A station binds all its transports or none: when
one fails, those bound before it are free again.
-/

namespace Telemetry.Station

/-- What a port is bound for. -/
inductive PortKind where
  | connections
  | datagrams
deriving DecidableEq, Repr

def Transport.portKind : Transport → PortKind
  | .bmp => .connections
  | .sflow | .netflow => .datagrams

structure Host where
  /-- The ports that are taken, by the station or by others. -/
  taken : List (PortKind × UInt16) := []
deriving DecidableEq

/-- How a machine answers somebody who does not mind which port it is: with one that is free, as
long as there is any. -/
structure PortChoice where
  port? : PortKind → List (PortKind × UInt16) → Option UInt16
  free : ∀ {kind taken port}, port? kind taken = some port → port ≠ 0 ∧ (kind, port) ∉ taken
  exhausted : ∀ {kind taken}, port? kind taken = none → ∀ port, port ≠ 0 → (kind, port) ∈ taken

/-- For one, the lowest. -/
instance : Inhabited PortChoice where
  default :=
    { port? := fun kind taken => ((List.range 65536).map UInt16.ofNat).find? fun port =>
        port != 0 && !taken.contains (kind, port)
      free := fun h => by simpa using List.find?_some h
      exhausted := by
        intro kind taken h port
        have hmem : port ∈ (List.range 65536).map UInt16.ofNat :=
          List.mem_map.mpr ⟨port.toNat, List.mem_range.mpr port.toNat_lt, UInt16.ofNat_toNat⟩
        simpa using List.find?_eq_none.mp h port hmem }

/-- A transport whose port is taken by somebody else. -/
structure BindError where
  transport : Transport
  address : Endpoint
deriving DecidableEq

namespace BindError

/-- The error, with the address as it is to be written. -/
def messageAt (e : BindError) (address : String) : String :=
  "failed to bind " ++ e.transport.title ++ " listener to " ++ address ++
    ": Address already in use (os error 98)"

def message (e : BindError) : String := e.messageAt e.address.toText

end BindError

namespace Host

/-- A free port for a request: the port itself, or any if that is zero. -/
def freePort? (choice : PortChoice) (h : Host) (kind : PortKind) (port : UInt16) : Option UInt16 :=
  if port = 0 then choice.port? kind h.taken
  else if h.taken.contains (kind, port) then none
  else some port

/-- Bind one transport. -/
def bind (choice : PortChoice) (h : Host) (t : Transport) (address : Endpoint) (port : UInt16) :
    Except BindError (Endpoint × Host) :=
  match h.freePort? choice t.portKind port with
  | some p => .ok (Endpoint.ofIp address.ip p, { h with taken := (t.portKind, p) :: h.taken })
  | none => .error ⟨t, address⟩

/-- The transports in the order of binding. -/
def order : List Transport := [.bmp, .sflow, .netflow]

/-- Bind all of the transports that have a port. -/
def bindEach (choice : PortChoice) (config : Config) :
    List Transport → Host → Except BindError (List (Transport × Endpoint) × Host)
  | [], h => .ok ([], h)
  | t :: ts, h =>
    match config.port t with
    | none => bindEach choice config ts h
    | some port => do
      let (address, h) ← h.bind choice t (Endpoint.ofIp config.bindAddress port) port
      let (others, h) ← bindEach choice config ts h
      return ((t, address) :: others, h)

def bindAll (choice : PortChoice) (h : Host) (config : Config) :
    Except BindError (List (Transport × Endpoint) × Host) :=
  bindEach choice config order h

/-- Give a port back. -/
def free (h : Host) (t : Transport) (port : UInt16) : Host :=
  { h with taken := h.taken.erase (t.portKind, port) }

/-- Give back what was bound. -/
def freeAll (h : Host) (bound : List (Transport × Endpoint)) : Host :=
  bound.foldl (fun h b => h.free b.1 b.2.port) h

end Host

end Telemetry.Station
