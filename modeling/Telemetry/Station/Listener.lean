import Telemetry.Station.Packet
import Telemetry.Log

/-!
Who receives the packets.

A listener takes a packet, and may refuse it with a reason or break. Neither concerns anybody
else: what a call comes to is a value. The answer may depend on how many packets the listener has
had before, so any behaviour over time can be given.
-/

namespace Telemetry.Station

/-- What comes of handing a packet to a listener. -/
inductive Verdict where
  | accepted
  | failed (reason : String)
  /-- The listener broke down. -/
  | panicked
deriving DecidableEq, Repr

structure Listener where
  name : String
  /-- The answer to the packet with this number, counted from zero. -/
  respond : Nat → Context → Packet → Verdict

/-- A listener that accepts whatever comes. -/
def Listener.accepting (name : String) : Listener := ⟨name, fun _ _ _ => .accepted⟩

/-- A listener at the station. The same one may be registered again, under another number. -/
structure Registration where
  id : Nat
  listener : Listener
  /-- How many packets it has had. -/
  calls : Nat

/-- One packet handed to one listener. -/
structure Call where
  registration : Nat
  name : String
  context : Context
  packet : Packet
  verdict : Verdict
deriving DecidableEq

namespace Call

/-- Whether the call went wrong. -/
def hasFailed (c : Call) : Bool := c.verdict != .accepted

/-- What the log says of a call that went wrong. -/
def complaint? (c : Call) : Option Log.Line :=
  let who := c.context.peer.toText ++ ": listener " ++ c.name
  match c.verdict with
  | .accepted => none
  | .failed reason =>
    some ⟨.warn, who ++ " failed on " ++ c.context.transport.title ++ " packet: " ++ reason⟩
  | .panicked =>
    some ⟨.error, who ++ " panicked on " ++ c.context.transport.title ++ " packet"⟩

end Call

namespace Registration

def call (r : Registration) (context : Context) (packet : Packet) : Call :=
  ⟨r.id, r.listener.name, context, packet, r.listener.respond r.calls context packet⟩

/-- The registration after one more packet. -/
def called (r : Registration) : Registration := { r with calls := r.calls + 1 }

end Registration

/-- What an operation does that can be seen from outside: calls, and log lines. -/
structure Trace where
  calls : List Call := []
  log : List Log.Line := []

namespace Trace

def append (t u : Trace) : Trace := ⟨t.calls ++ u.calls, t.log ++ u.log⟩

instance : Append Trace := ⟨append⟩

/-- Lines without calls. -/
def ofLog (lines : List Log.Line) : Trace := ⟨[], lines⟩

end Trace

end Telemetry.Station
