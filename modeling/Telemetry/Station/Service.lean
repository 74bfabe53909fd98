import Telemetry.Station.Session
import Telemetry.Station.AcceptLoop
import Telemetry.Station.Host

/-!
The station at work: started and closed, with routers that connect and exporters that send.

Starting binds every transport or none, and does nothing when the station runs already. Closing
stops all sessions, also those that wait for bytes, and gives the ports back; it does nothing when
the station does not run. In between, connections are admitted by the accept loop, and each
session gets what its own router sends.
-/

namespace Telemetry.Station

/-- What a running station has. -/
structure Running where
  /-- Where each transport is listened on, in the order of binding. -/
  addresses : List (Transport × Endpoint)
  acceptLoop : AcceptLoop
  /-- The sessions under their numbers. -/
  sessions : List (Nat × LiveSession) := []

structure Service where
  controller : Controller
  host : Host := {}
  running : Option Running := none

/-- Why somebody does not reach the station. -/
inductive Refusal where
  /-- There are too many already. -/
  | rejected
  /-- The transport is not listened on. -/
  | unavailable
deriving DecidableEq, Repr

namespace Service

def isRunning (s : Service) : Bool := s.running.isSome

/-- Where the station listens: nowhere, unless it runs. -/
def addresses (s : Service) : List (Transport × Endpoint) :=
  match s.running with
  | some r => r.addresses
  | none => []

def listensOn (s : Service) (t : Transport) : Bool := s.addresses.any fun a => a.1 == t

/-! ## Starting and closing -/

def listeningLine (a : Transport × Endpoint) : Log.Line :=
  ⟨.info, a.1.title ++ " listening on " ++ a.2.toText⟩

def start (s : Service) (choice : PortChoice) :
    Except BindError Unit × Service × List Log.Line :=
  match s.running with
  | some _ => (.ok (), s, [⟨.info, "collector already running"⟩])
  | none =>
    match s.host.bindAll choice s.controller.config with
    | .error e => (.error e, s, [])
    | .ok (addresses, host) =>
      let acceptLoop := { maxConnections := s.controller.config.maxConnections : AcceptLoop }
      (.ok (), { s with host, running := some { addresses, acceptLoop } },
        addresses.map listeningLine)

/-- Let the accept loop do some steps. -/
def acceptSteps (s : Service) (r : Running) (events : List AcceptEvent) : Service × Running :=
  let (acceptLoop, sessions) := r.acceptLoop.run s.controller.counters.sessions events
  ({ s with controller.counters.sessions := sessions }, { r with acceptLoop })

/-- One session does something about an event, and leaves when it is over. -/
def sessionStep (s : Service) (r : Running) (id : Nat) (e : SessionEvent) :
    Service × Running × Trace :=
  match r.sessions.lookup id with
  | none => (s, r, {})
  | some live =>
    let w := LiveSession.Work.handle ⟨s.controller, live, {}⟩ e
    let s := { s with controller := w.controller }
    if w.live.ended.isSome then
      let r := { r with sessions := r.sessions.filter fun p => p.1 != id }
      let (s, r) := s.acceptSteps r (AcceptLoop.leaving id)
      (s, r, w.trace)
    else
      let sessions := r.sessions.map fun p => if p.1 = id then (id, w.live) else p
      (s, { r with sessions }, w.trace)

/-- Stop the sessions with these numbers. -/
def stopAll (s : Service) (r : Running) (ids : List Nat) : Service × Running × Trace :=
  ids.foldl (fun (s, r, trace) id =>
    let (s, r, t) := s.sessionStep r id .stopNow
    (s, r, trace ++ t)) (s, r, {})

def close (s : Service) : Service × Trace :=
  match s.running with
  | none => (s, .ofLog [⟨.debug, "collector not running"⟩])
  | some r =>
    let (s, r) := s.acceptSteps r [.stop]
    let ids := r.sessions.map (·.1)
    let waiting := if ids.isEmpty then [] else
      [⟨.debug, "waiting for " ++ toString ids.length ++ " BMP sessions to close"⟩]
    let (s, r, trace) := s.stopAll r ids
    ({ s with host := s.host.freeAll r.addresses, running := none },
      .ofLog (⟨.info, "stopping collector"⟩ :: waiting) ++ trace ++
        .ofLog [⟨.info, "collector stopped"⟩])

/-! ## Routers and exporters -/

/-- A router connects. The answer is the number of its session. -/
def connect (s : Service) (peer : Endpoint) : Except Refusal Nat × Service × Trace :=
  match s.running with
  | none => (.error .unavailable, s, {})
  | some r =>
    if !s.listensOn .bmp then (.error .unavailable, s, {})
    else
      let id := r.acceptLoop.nextId
      let hasRoom := r.acceptLoop.hasRoom
      let (s, r) := s.acceptSteps r [.arrive]
      if hasRoom then
        let w := LiveSession.start s.controller peer
        let r := { r with sessions := r.sessions ++ [(id, w.live)] }
        (.ok id, { s with controller := w.controller, running := some r }, w.trace)
      else
        let line : Log.Line := ⟨.warn, peer.toText ++ ": refusing BMP connection, " ++
          toString r.acceptLoop.maxConnections ++ " sessions active"⟩
        (.error .rejected, { s with running := some r }, .ofLog [line])

/-- Something happens to the session with this number. -/
def onSession (s : Service) (id : Nat) (e : SessionEvent) : Service × Trace :=
  match s.running with
  | none => (s, {})
  | some r =>
    let (s, r, trace) := s.sessionStep r id e
    ({ s with running := some r }, trace)

/-- An exporter sends a datagram, of which no more is seen than the buffer holds. -/
def datagram (s : Service) (t : Transport) (peer : Endpoint) (bs : Octets) :
    Except Refusal Unit × Service × Trace :=
  if !s.listensOn t then (.error .unavailable, s, {})
  else
    let (controller, trace) :=
      s.controller.receive t peer (bs.take s.controller.config.udpBufferSize)
    (.ok (), { s with controller }, trace)

end Service

end Telemetry.Station
