import Telemetry.Station.Controller
import Telemetry.Bmp.Frame

/-!
One connection of a router.

A session reads the router's stream, cuts it into packets, and hands each on before it asks for
the next. It owns its buffer and its decoder; all that it shares is the controller.

What happens to a session is a list of events: bytes arrive, the stream ends or fails, the session
is told to stop. It can be told while a read is under way, and then sees it before it asks for
another packet; or while it waits for bytes, and then stops at once. The decoder's statistics are
taken over when a packet, the end or a failure is seen.
-/

namespace Telemetry.Station

inductive SessionState where
  /-- Accepted, not reading yet. -/
  | connected
  | active
  | disconnected
deriving DecidableEq, Repr

def SessionState.name : SessionState → String
  | connected => "Connected"
  | active => "Active"
  | disconnected => "Disconnected"

/-- Why a session is over. -/
inductive SessionEnd where
  | peerClosed
  | transportError
  | cancelled
deriving DecidableEq, Repr

def SessionEnd.name : SessionEnd → String
  | peerClosed => "PeerClosed"
  | transportError => "TransportError"
  | cancelled => "Cancelled"

structure Session where
  peer : Endpoint
  state : SessionState := .connected
  /-- What the router calls itself, once it has said so. -/
  routerName : Option String := none
  /-- How many packets have been dispatched. -/
  packets : Nat := 0
  frames : Bmp.Frame.Stats := {}
deriving DecidableEq

namespace Session

/-- A remark in the log. -/
def remark (s : Session) (level : Log.Level) (text : String) : Log.Line :=
  ⟨level, s.peer.toText ++ ": " ++ text⟩

/-- A reason as it is logged. -/
def reasonText : Option Bmp.TerminationReason → String
  | some r => "Some(" ++ Wire.Code.name r ++ ")"
  | none => "None"

/-- What the session itself takes from a message. -/
def note (s : Session) : Bmp.Message → Session × List Log.Line
  | .initiation tlvs =>
    match Bmp.InitiationTlv.systemName? tlvs with
    | some name =>
      ({ s with routerName := some name }, [s.remark .info ("router identifies as " ++ name)])
    | none => (s, [])
  | .termination tlvs =>
    (s, [s.remark .info
      ("router terminates the session, reason " ++ reasonText (Bmp.TerminationTlv.reason? tlvs))])
  | .peer header (.peerDown reason _) =>
    (s, [s.remark .debug
      ("peer " ++ header.address.toText ++ " down, " ++ Wire.Code.name reason)])
  | .peer .. => (s, [])

end Session

/-- What happens to a session. -/
inductive SessionEvent where
  | bytes (bytes : Octets)
  /-- The router has closed the connection. -/
  | closed
  /-- The connection has failed. -/
  | failed (reason : String)
  /-- The session is told to stop while a read is under way. -/
  | stopSoon
  /-- The session is told to stop while it waits. -/
  | stopNow
deriving DecidableEq

/-- A session with its stream. -/
structure LiveSession where
  session : Session
  decoder : Bmp.Decoder
  buffer : Octets := []
  /-- Told to stop, and not yet aware of it. -/
  stopping : Bool := false
  ended : Option SessionEnd := none
deriving DecidableEq

namespace LiveSession

/-- A session at work, the controller that it works for, and what could be seen of it. -/
structure Work where
  controller : Controller
  live : LiveSession
  trace : Trace := {}

namespace Work

def say (w : Work) (lines : List Log.Line) : Work := { w with trace := w.trace ++ .ofLog lines }

/-- Take over the decoder's statistics, and tell the controller of malformed frames. -/
def settle (w : Work) : Work :=
  let stats := w.live.decoder.stats
  let dropped := stats.dropped - w.live.session.frames.dropped
  { w with
    controller := w.controller.recordFramesDropped dropped
    live.session.frames := stats }

/-- The session is over. -/
def finish (w : Work) (how : SessionEnd) : Work :=
  let s := { w.live.session with state := .disconnected }
  let text := "BMP session closed (" ++ how.name ++ ") after " ++ toString s.packets ++
    " messages, " ++ toString s.frames.dropped ++ " dropped, " ++ toString s.frames.skipped ++
    " bytes skipped"
  { w with live.session := s, live.ended := some how }.say [s.remark .info text]

/-- Hand on one packet. -/
def deliver (w : Work) (p : Bmp.Packet) : Work :=
  let (s, lines) := w.live.session.note p.message
  let s := { s with packets := s.packets + 1 }
  let (controller, trace) := w.controller.dispatch ⟨s.peer, .bmp⟩ (.bmp p)
  { controller, live := { w.live with session := s }, trace := w.trace ++ .ofLog lines ++ trace }

/-- Hand on packets, at most `n`, until the decoder gives none or the session stops. -/
def pump (call : Bmp.Decoder → Octets → Bmp.Decoder.Decoded) : Nat → Work → Work
  | 0, w => w
  | n + 1, w =>
    let r := call w.live.decoder w.live.buffer
    let w := { w with live.decoder := r.decoder, live.buffer := r.buffer }.say
      (r.events.map (Bmp.Frame.Event.line w.live.session.peer.toText))
    match r.packet with
    | none => w
    | some p =>
      let w := w.settle.deliver p
      if w.live.stopping then w.finish .cancelled else pump call n w

/-- All packets in the buffer. Each takes bytes. -/
def pumpAll (call : Bmp.Decoder → Octets → Bmp.Decoder.Decoded) (w : Work) : Work :=
  pump call (w.live.buffer.length + 1) w

/-- What the session does about an event. After its end it does nothing more. -/
def handle (w : Work) (e : SessionEvent) : Work :=
  if w.live.ended.isSome then w
  else match e with
    | .bytes bs => { w with live.buffer := w.live.buffer ++ bs }.pumpAll Bmp.Decoder.decode
    | .stopSoon => { w with live.stopping := true }
    | .stopNow => w.finish .cancelled
    | .failed reason =>
      (w.settle.say [w.live.session.remark .warn ("BMP transport error: " ++ reason)]).finish
        .transportError
    | .closed =>
      let w := w.pumpAll Bmp.Decoder.decodeEof
      if w.live.ended.isSome then w else w.settle.finish .peerClosed

end Work

/-- A new connection: the session begins to read. -/
def start (controller : Controller) (peer : Endpoint) : Work :=
  let session := { peer, state := .active : Session }
  { controller
    live := { session, decoder := .new controller.config.maxBmpMessageLength }
    trace := .ofLog [session.remark .info "BMP session connected"] }

/-- A whole session. One that is told to stop before it begins reads nothing. -/
def run (controller : Controller) (peer : Endpoint) (stopped : Bool) (events : List SessionEvent) :
    Work :=
  let w := start controller peer
  if stopped then w.finish .cancelled else events.foldl Work.handle w

end LiveSession

end Telemetry.Station
