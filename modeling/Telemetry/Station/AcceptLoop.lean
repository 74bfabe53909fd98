import Telemetry.Station.Controller

/-!
Accepting connections, no more than a limit at a time.

A connection that is accepted takes a permit and gets a task for its session. When the session is
over the task first counts it as no longer active, then gives the permit back, and last is
collected. Between these steps anything may happen, so each is a step of its own. A connection
that finds no permit is turned away. Once the loop is told to stop, nobody is accepted, and the
loop is over when the last task has been collected. Tasks are numbered in the order in which their
connections are accepted, so no two have the same number.
-/

namespace Telemetry.Station

/-- Where a task stands. -/
inductive TaskStage where
  | serving
  /-- The session is over and no longer counted, the permit still taken. -/
  | uncounted
  /-- The permit is given back. -/
  | released
deriving DecidableEq, Repr

structure SessionTask where
  id : Nat
  stage : TaskStage
deriving DecidableEq, Repr

structure AcceptLoop where
  maxConnections : Nat
  tasks : List SessionTask := []
  /-- The number of the next task. -/
  nextId : Nat := 0
  accepting : Bool := true
deriving DecidableEq, Repr

/-- What happens to the loop. -/
inductive AcceptEvent where
  /-- A connection arrives. -/
  | arrive
  /-- The session is over, and counted so. -/
  | finish (id : Nat)
  /-- Its permit is given back. -/
  | release (id : Nat)
  /-- Its task is collected. -/
  | collect (id : Nat)
  | stop
deriving DecidableEq, Repr

namespace AcceptLoop

/-- How many permits are taken. -/
def permits (a : AcceptLoop) : Nat := a.tasks.countP fun t => t.stage != .released

/-- Whether a connection would be taken. -/
def hasRoom (a : AcceptLoop) : Bool := a.permits < a.maxConnections

/-- Stopped, and all tasks collected. -/
def isDrained (a : AcceptLoop) : Bool := !a.accepting && a.tasks.isEmpty

/-- Whether a task stands at a stage. -/
def isAt (a : AcceptLoop) (id : Nat) (stage : TaskStage) : Bool := a.tasks.contains ⟨id, stage⟩

/-- Move a task on. -/
def advance (a : AcceptLoop) (id : Nat) (stage : TaskStage) : AcceptLoop :=
  { a with tasks := a.tasks.map fun t => if t.id = id then { t with stage } else t }

/-- One step of the loop and of the counts. What cannot happen changes nothing: no connection
arrives after the loop has stopped, and the steps of a task come in their order. -/
def step (a : AcceptLoop) (n : SessionCounts) : AcceptEvent → AcceptLoop × SessionCounts
  | .arrive =>
    if !a.accepting then (a, n)
    else if a.hasRoom then
      ({ a with tasks := a.tasks ++ [⟨a.nextId, .serving⟩], nextId := a.nextId + 1 },
        { n with opened := n.opened + 1, active := n.active + 1 })
    else (a, { n with rejected := n.rejected + 1 })
  | .finish id =>
    if a.isAt id .serving then (a.advance id .uncounted, { n with active := n.active - 1 })
    else (a, n)
  | .release id => if a.isAt id .uncounted then (a.advance id .released, n) else (a, n)
  | .collect id =>
    if a.isAt id .released then ({ a with tasks := a.tasks.filter fun t => t.id != id }, n)
    else (a, n)
  | .stop => ({ a with accepting := false }, n)

def run (a : AcceptLoop) (n : SessionCounts) (events : List AcceptEvent) :
    AcceptLoop × SessionCounts :=
  events.foldl (fun s e => s.1.step s.2 e) (a, n)

/-- All steps of a session that is over. -/
def leaving (id : Nat) : List AcceptEvent := [.finish id, .release id, .collect id]

end AcceptLoop

end Telemetry.Station
