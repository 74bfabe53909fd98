import Telemetry.Station.Config
import Telemetry.Station.Listener
import Telemetry.Netflow.Packet

/-!
The middle of the station: packets come in from sessions and datagrams, and go out to every
listener in the order of registration. Templates and counters are kept here.

A packet is dispatched once, whatever its listeners make of it, and each listener sees it once.
A datagram is dispatched or dropped. BMP does not come in datagrams.
-/

namespace Telemetry.Station

/-- How many sessions there are and have been. -/
structure SessionCounts where
  opened : Nat := 0
  active : Nat := 0
  /-- Connections turned away because there were too many. -/
  rejected : Nat := 0
deriving DecidableEq, Repr

structure Counters where
  sessions : SessionCounts := {}
  packetsDispatched : Nat := 0
  /-- Malformed BMP frames. -/
  framesDropped : Nat := 0
  datagramsReceived : Nat := 0
  /-- Malformed datagrams. -/
  datagramsDropped : Nat := 0
  listenerFailures : Nat := 0
deriving DecidableEq, Repr

structure Controller where
  config : Config
  registrations : List Registration := []
  /-- The number for the next registration. -/
  nextId : Nat := 0
  templates : Netflow.TemplateCache
  counters : Counters := {}

namespace Controller

def new (config : Config) : Controller :=
  { config, templates := .empty config.maxTemplatesPerExporter }

/-- Add a listener behind the others. -/
def register (c : Controller) (l : Listener) : Controller × Trace :=
  ({ c with registrations := c.registrations ++ [⟨c.nextId, l, 0⟩], nextId := c.nextId + 1 },
    .ofLog [⟨.info, "registering listener " ++ l.name⟩])

/-- Remove all listeners of a name. The answer says whether there was one. -/
def unregister (c : Controller) (name : String) : Bool × Controller :=
  (c.registrations.any fun r => r.listener.name == name,
    { c with registrations := c.registrations.filter fun r => r.listener.name != name })

/-- Hand a packet to every listener. -/
def dispatch (c : Controller) (context : Context) (packet : Packet) : Controller × Trace :=
  let calls := c.registrations.map fun r => r.call context packet
  let counters := { c.counters with
    packetsDispatched := c.counters.packetsDispatched + 1
    listenerFailures := c.counters.listenerFailures + calls.countP Call.hasFailed }
  ({ c with registrations := c.registrations.map Registration.called, counters },
    ⟨calls, calls.filterMap Call.complaint?⟩)

/-- Count malformed frames. -/
def recordFramesDropped (c : Controller) (n : Nat) : Controller :=
  { c with counters.framesDropped := c.counters.framesDropped + n }

/-- Why a datagram is dropped. -/
inductive DatagramError where
  | sflow (error : Sflow.Error)
  | netflow (error : Netflow.Error)
  | notDatagrams
deriving DecidableEq

def DatagramError.message : DatagramError → String
  | sflow e => e.message
  | netflow e => e.message
  | notDatagrams => "BMP is not carried over UDP"

/-- Decode a datagram. The templates in it are kept, also those of one that fails. -/
def decodeDatagram (c : Controller) (transport : Transport) (peer : Endpoint) (bs : Octets) :
    Except DatagramError Packet × Controller × List Log.Line :=
  match transport with
  | .sflow =>
    match (Sflow.Datagram.read c.config.sflowMode).run bs with
    | (.ok d, _) => (.ok (.sflow d.datagram), c, d.events.map (·.line))
    | (.error e, _) => (.error (.sflow e), c, [])
  | .netflow =>
    let d := Netflow.decode peer.ip c.templates bs
    let answer := match d.answer with
      | .ok p => .ok (.netflow p)
      | .error e => .error (.netflow e)
    (answer, { c with templates := d.cache }, d.events.map (·.line))
  | .bmp => (.error .notDatagrams, c, [])

/-- Decode a datagram and dispatch it, or drop it. -/
def receive (c : Controller) (transport : Transport) (peer : Endpoint) (bs : Octets) :
    Controller × Trace :=
  let c := { c with counters.datagramsReceived := c.counters.datagramsReceived + 1 }
  match c.decodeDatagram transport peer bs with
  | (.ok packet, c, lines) =>
    let (c, trace) := c.dispatch ⟨peer, transport⟩ packet
    (c, .ofLog lines ++ trace)
  | (.error e, c, lines) =>
    let line : Log.Line :=
      ⟨.warn, peer.toText ++ ": dropping " ++ transport.title ++ " datagram: " ++ e.message⟩
    ({ c with counters.datagramsDropped := c.counters.datagramsDropped + 1 },
      .ofLog (lines ++ [line]))

/-- Forget the templates of an exporter. -/
def forget (c : Controller) (exporter : Ip) : Controller :=
  { c with templates := c.templates.removeExporter exporter }

end Controller

end Telemetry.Station
