import Mathlib
import Telemetry.Station.Controller

/-!
Packets dispatched one after the other.

Each packet is handed to every registration, in the order of registration, and is counted; the
registrations stay who they are. Counting malformed frames in between changes none of this.
-/

namespace Telemetry.Station

variable {c : Controller} {context : Context} {p : Packet}

def Call.delivery (k : Call) : Nat × Context × Packet := (k.registration, k.context, k.packet)

@[simp] lemma Trace.calls_append (t u : Trace) : (t ++ u).calls = t.calls ++ u.calls := rfl

@[simp] lemma Trace.calls_ofLog (lines : List Log.Line) : (Trace.ofLog lines).calls = [] := rfl

lemma Trace.append_assoc (t u v : Trace) : t ++ u ++ v = t ++ (u ++ v) := by
  have h (a b : Trace) : a ++ b = ⟨a.calls ++ b.calls, a.log ++ b.log⟩ := rfl
  simp only [h, List.append_assoc]

lemma Trace.ofLog_append (lines more : List Log.Line) :
    ofLog (lines ++ more) = ofLog lines ++ ofLog more := rfl

namespace Controller

/-- The numbers of the registrations, in their order. -/
def ids (c : Controller) : List Nat := c.registrations.map (·.id)

@[simp] lemma ids_dispatch : (c.dispatch context p).1.ids = c.ids := by
  simp only [dispatch, ids, List.map_map]
  rfl

lemma deliveries_dispatch :
    (c.dispatch context p).2.calls.map Call.delivery = c.ids.map fun id => (id, context, p) := by
  simp only [dispatch, ids, List.map_map]
  rfl

lemma dispatch_recordFramesDropped (n : Nat) :
    (c.recordFramesDropped n).dispatch context p =
      ((c.dispatch context p).1.recordFramesDropped n, (c.dispatch context p).2) := rfl

lemma recordFramesDropped_add (m n : Nat) :
    (c.recordFramesDropped m).recordFramesDropped n = c.recordFramesDropped (m + n) := by
  simp only [recordFramesDropped, Nat.add_assoc]

def dispatchAll (c : Controller) (context : Context) (ps : List Packet) : Controller × Trace :=
  ps.foldl (fun s p => ((s.1.dispatch context p).1, s.2 ++ (s.1.dispatch context p).2)) (c, {})

lemma dispatchAll_append_singleton (ps : List Packet) :
    c.dispatchAll context (ps ++ [p]) =
      (((c.dispatchAll context ps).1.dispatch context p).1,
        (c.dispatchAll context ps).2 ++ ((c.dispatchAll context ps).1.dispatch context p).2) := by
  simp [dispatchAll]

lemma dispatchAll_append (ps qs : List Packet) :
    (c.dispatchAll context (ps ++ qs)).1 =
        ((c.dispatchAll context ps).1.dispatchAll context qs).1 ∧
      (c.dispatchAll context (ps ++ qs)).2.calls =
        (c.dispatchAll context ps).2.calls ++
          ((c.dispatchAll context ps).1.dispatchAll context qs).2.calls := by
  induction qs using List.reverseRecOn with
  | nil => simp [dispatchAll]
  | append_singleton qs q ih =>
    rw [← List.append_assoc, dispatchAll_append_singleton, dispatchAll_append_singleton, ih.1]
    refine ⟨rfl, ?_⟩
    rw [Trace.calls_append, Trace.calls_append, ih.2, List.append_assoc]

lemma dispatchAll_recordFramesDropped (n : Nat) (ps : List Packet) :
    (c.recordFramesDropped n).dispatchAll context ps =
      ((c.dispatchAll context ps).1.recordFramesDropped n, (c.dispatchAll context ps).2) := by
  induction ps using List.reverseRecOn with
  | nil => rfl
  | append_singleton ps p ih =>
    rw [dispatchAll_append_singleton, dispatchAll_append_singleton, ih,
      dispatch_recordFramesDropped]

lemma ids_dispatchAll (ps : List Packet) : (c.dispatchAll context ps).1.ids = c.ids := by
  induction ps using List.reverseRecOn with
  | nil => rfl
  | append_singleton ps p ih => rw [dispatchAll_append_singleton, ids_dispatch, ih]

lemma config_dispatchAll (ps : List Packet) :
    (c.dispatchAll context ps).1.config = c.config := by
  induction ps using List.reverseRecOn with
  | nil => rfl
  | append_singleton ps p ih =>
    rw [dispatchAll_append_singleton]
    exact ih

lemma deliveries_dispatchAll (ps : List Packet) :
    (c.dispatchAll context ps).2.calls.map Call.delivery =
      ps.flatMap fun p => c.ids.map fun id => (id, context, p) := by
  induction ps using List.reverseRecOn with
  | nil => rfl
  | append_singleton ps p ih =>
    rw [dispatchAll_append_singleton, Trace.calls_append, List.map_append, ih,
      deliveries_dispatch, ids_dispatchAll, List.flatMap_append, List.flatMap_singleton]

/-- Packets are counted, and malformed frames are counted elsewhere. -/
lemma counters_dispatchAll (ps : List Packet) :
    (c.dispatchAll context ps).1.counters.packetsDispatched =
        c.counters.packetsDispatched + ps.length ∧
      (c.dispatchAll context ps).1.counters.framesDropped = c.counters.framesDropped := by
  induction ps using List.reverseRecOn with
  | nil => exact ⟨rfl, rfl⟩
  | append_singleton ps p ih =>
    rw [dispatchAll_append_singleton]
    refine ⟨?_, ih.2⟩
    simp only [dispatch, ih.1, List.length_append, List.length_singleton, Nat.add_assoc]

end Controller

end Telemetry.Station
