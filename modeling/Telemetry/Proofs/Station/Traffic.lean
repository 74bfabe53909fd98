import Telemetry.Proofs.Station.Listening
import Telemetry.Proofs.Station.Turns

/-!
All that goes on at one controller.

Listeners come and go, packets are handed in, datagrams are received, routers connect, and each
session gets its events, in any order whatever. The sessions keep their numbers when they are over,
so what has become of each can be said at any time.
-/

namespace Telemetry.Station

inductive Operation where
  | request (request : Controller.Request)
  | datagram (transport : Transport) (peer : Endpoint) (bytes : Octets)
  /-- A router connects; its session gets the next number. -/
  | connect (peer : Endpoint)
  /-- Something happens to the session with this number. -/
  | session (number : Nat) (event : SessionEvent)

/-- A controller with its sessions, and what could be seen so far. -/
structure Traffic where
  controller : Controller
  /-- All sessions there have been, in the order of their numbers. -/
  sessions : List LiveSession := []
  trace : Trace := {}

namespace Traffic

def perform (t : Traffic) : Operation → Traffic
  | .request q =>
    let (controller, trace) := t.controller.serve q
    { t with controller, trace := t.trace ++ trace }
  | .datagram transport peer bs =>
    let (controller, trace) := t.controller.receive transport peer bs
    { t with controller, trace := t.trace ++ trace }
  | .connect peer =>
    let w := LiveSession.start t.controller peer
    { controller := w.controller, sessions := t.sessions ++ [w.live], trace := t.trace ++ w.trace }
  | .session number e =>
    match t.sessions[number]? with
    | none => t
    | some live =>
      let w := LiveSession.Work.handle ⟨t.controller, live, t.trace⟩ e
      { controller := w.controller, sessions := t.sessions.set number w.live, trace := w.trace }

def performAll (t : Traffic) (operations : List Operation) : Traffic := operations.foldl perform t

def run (c : Controller) (operations : List Operation) : Traffic :=
  performAll { controller := c } operations

variable {t : Traffic} {number : Nat} {live : LiveSession}

lemma performAll_append (first later : List Operation) :
    t.performAll (first ++ later) = (t.performAll first).performAll later :=
  List.foldl_append

lemma perform_session_none (h : t.sessions[number]? = none) (e : SessionEvent) :
    t.perform (.session number e) = t := by
  simp only [perform, h]

lemma perform_session (h : t.sessions[number]? = some live) (e : SessionEvent) :
    ∃ ps n next, LiveSession.Turns (·.handle e) live ps n next ∧
      (t.perform (.session number e)).controller =
        (t.controller.dispatchBmp live.session.peer ps).1.recordFramesDropped n ∧
      (t.perform (.session number e)).sessions = t.sessions.set number next ∧
      (t.perform (.session number e)).trace.calls =
        t.trace.calls ++ (t.controller.dispatchBmp live.session.peer ps).2.calls := by
  obtain ⟨ps, n, next, hturns⟩ := LiveSession.Turns.handle e live
  refine ⟨ps, n, next, hturns, ?_⟩
  simp only [perform, h, hturns.live, hturns.controller, hturns.calls, and_self]

end Traffic

end Telemetry.Station
