import Telemetry.Proofs.Station.Dispatching

/-!
Listeners that come and go while packets are dispatched.

Who is registered follows from what was asked so far: a listener stands from its registration until
its name is removed. A packet is handed to everybody who stands, once and in the order of
registration. What the others make of it is nowhere in this, and so a registration receives what it
would receive if it were alone.
-/

namespace Telemetry.Station

namespace Controller

/-- What is asked of a controller where listeners are concerned. -/
inductive Request where
  | register (listener : Listener)
  | unregister (name : String)
  | dispatch (context : Context) (packet : Packet)

namespace Request

def registers : Request → Bool
  | register _ => true
  | _ => false

def dispatches : Request → Bool
  | dispatch .. => true
  | _ => false

def removes (name : String) : Request → Bool
  | unregister removed => removed == name
  | _ => false

/-- The same request, but for what a listener makes of its packets. -/
inductive Alike : Request → Request → Prop where
  | register {l l' : Listener} (name : l.name = l'.name) : Alike (register l) (register l')
  | unregister (name : String) : Alike (unregister name) (unregister name)
  | dispatch (context : Context) (packet : Packet) :
    Alike (dispatch context packet) (dispatch context packet)

end Request

def serve (c : Controller) : Request → Controller × Trace
  | .register l => c.register l
  | .unregister name => ((c.unregister name).2, {})
  | .dispatch context packet => c.dispatch context packet

def serveAll (c : Controller) : List Request → Controller × Trace
  | [] => (c, {})
  | q :: later =>
    let (c, first) := c.serve q
    let (c, others) := c.serveAll later
    (c, first ++ others)

/-- What becomes of a registration: it goes when its name is removed, and otherwise it has had every
packet. -/
def outcome (later : List Request) (r : Registration) : Option Registration :=
  if later.any (Request.removes r.listener.name) then none
  else some { r with calls := r.calls + later.countP Request.dispatches }

/-- Who stands at the end of a history in which registrations are numbered from `n`. -/
def standing (n : Nat) : List Request → List Registration
  | [] => []
  | .register l :: later => (outcome later ⟨n, l, 0⟩).toList ++ standing (n + 1) later
  | .unregister _ :: later | .dispatch .. :: later => standing n later

/-- What a registration receives from now on: every packet until its name is removed. -/
def received (r : Registration) : List Request → List Call
  | [] => []
  | .register _ :: later => received r later
  | .unregister name :: later => if r.listener.name = name then [] else received r later
  | .dispatch context packet :: later => r.call context packet :: received r.called later

variable {c d : Controller} {n i : Nat} {r : Registration} {q : Request}
  {history later other : List Request}

/-! ### Who stands -/

lemma outcome_nil (r : Registration) : outcome [] r = some r := by simp [outcome]

lemma outcome_register (later : List Request) (l : Listener) (r : Registration) :
    outcome (.register l :: later) r = outcome later r := by
  simp [outcome, Request.removes, Request.dispatches]

lemma outcome_unregister (later : List Request) (name : String) (r : Registration) :
    outcome (.unregister name :: later) r =
      if r.listener.name != name then outcome later r else none := by
  by_cases h : r.listener.name = name
  · simp [outcome, Request.removes, h]
  · simp [outcome, Request.removes, Request.dispatches, h, Ne.symm h]

lemma outcome_dispatch (context : Context) (packet : Packet) :
    outcome (.dispatch context packet :: later) r = outcome later r.called := by
  simp [outcome, Request.removes, Request.dispatches, Registration.called, List.countP_cons,
    Nat.add_comm 1, Nat.add_assoc]

/-- Those who were registered before stand if they last, and those who come stand behind them. -/
lemma registrations_serveAll : (c.serveAll history).1.registrations =
    c.registrations.filterMap (outcome history) ++ standing c.nextId history := by
  induction history generalizing c with
  | nil => simp [serveAll, standing, funext outcome_nil]
  | cons q later ih =>
    rw [serveAll, ih]
    cases q with
    | register l =>
      simp only [serve, register, standing, List.filterMap_append, List.append_assoc,
        funext (outcome_register later l)]
      cases h : outcome later ⟨c.nextId, l, 0⟩ <;> simp [h]
    | unregister name =>
      simp only [serve, unregister, standing, List.filterMap_filter,
        funext (outcome_unregister later name)]
    | dispatch context packet =>
      simp only [serve, dispatch, standing, List.filterMap_map, Function.comp_def,
        outcome_dispatch]

lemma standing_id (h : r ∈ standing n history) : n ≤ r.id := by
  induction history generalizing n with
  | nil => cases h
  | cons q later ih =>
    cases q with
    | register l =>
      rw [standing, List.mem_append, Option.mem_toList] at h
      rcases h with h | h
      · unfold outcome at h
        split_ifs at h
        cases h
        exact Nat.le_refl n
      · exact Nat.le_of_succ_le (ih h)
    | unregister name => exact ih h
    | dispatch context packet => exact ih h

lemma standing_sorted : ((standing n history).map (·.id)).Pairwise (· < ·) := by
  induction history generalizing n with
  | nil => exact List.Pairwise.nil
  | cons q later ih =>
    cases q with
    | register l =>
      rw [standing]
      unfold outcome
      split_ifs
      · exact ih
      · refine List.Pairwise.cons ?_ ih
        intro i hi
        obtain ⟨r, hr, rfl⟩ := List.mem_map.mp hi
        exact standing_id hr
    | unregister name => exact ih
    | dispatch context packet => exact ih

/-! ### Who hears what -/

lemma nextId_serve (q : Request) :
    (c.serve q).1.nextId = c.nextId + [q].countP Request.registers := by
  cases q <;> rfl

/-- A registration hears what it would hear alone, until it goes. -/
lemma calls_serveAll (history : List Request) (old : i < c.nextId) {o : Option Registration}
    (alone : c.registrations.filter (fun r => r.id = i) = o.toList) :
    (c.serveAll history).2.calls.filter (fun k => k.registration = i) =
      o.toList.flatMap (received · history) := by
  induction history generalizing c o with
  | nil => cases o <;> rfl
  | cons q later ih =>
    have hold : i < (c.serve q).1.nextId := by
      rw [nextId_serve]
      omega
    rw [serveAll, Trace.calls_append, List.filter_append]
    cases q with
    | register l =>
      rw [ih hold (o := o) (by simp [serve, register, alone, Nat.ne_of_gt old])]
      cases o <;> rfl
    | unregister name =>
      have halone : (c.serve (.unregister name)).1.registrations.filter (fun r => r.id = i) =
          (o.filter fun r => r.listener.name != name).toList := by
        simp only [serve, unregister]
        rw [List.filter_comm, alone, Option.toList_filter]
      rw [ih hold halone]
      cases o with
      | none => rfl
      | some r => by_cases h : r.listener.name = name <;> simp [serve, received, Option.filter, h]
    | dispatch context packet =>
      have halone : (c.serve (.dispatch context packet)).1.registrations.filter
          (fun r => r.id = i) = (o.map Registration.called).toList := by
        simp only [serve, dispatch, List.filter_map]
        exact (congrArg (List.map Registration.called) alone).trans (by cases o <;> rfl)
      have hcalls : (c.serve (.dispatch context packet)).2.calls.filter
          (fun k => k.registration = i) = o.toList.map (·.call context packet) := by
        simp only [serve, dispatch, List.filter_map]
        exact congrArg (List.map (·.call context packet)) alone
      rw [ih hold halone, hcalls]
      cases o <;> rfl

def Numbered (c : Controller) : Prop := ∀ r ∈ c.registrations, r.id < c.nextId

lemma Numbered.serve (h : Numbered c) (q : Request) : Numbered (c.serve q).1 := by
  cases q with
  | register l =>
    intro r hr
    rcases List.mem_append.mp hr with hr | hr
    · exact Nat.lt_succ_of_lt (h r hr)
    · rw [List.mem_singleton.mp hr]
      exact Nat.lt_succ_self _
  | unregister name => exact fun r hr => h r (List.mem_of_mem_filter hr)
  | dispatch context packet =>
    intro r hr
    obtain ⟨old, hold, rfl⟩ := List.mem_map.mp hr
    exact h old hold

/-- Whoever is registered hears nothing before that, and from then on what it would hear alone. -/
lemma Numbered.calls_serveAll (h : Numbered c) (before : List Request) (l : Listener)
    (later : List Request) :
    (c.serveAll (before ++ .register l :: later)).2.calls.filter
        (fun k => k.registration = c.nextId + before.countP Request.registers) =
      received ⟨c.nextId + before.countP Request.registers, l, 0⟩ later := by
  induction before generalizing c with
  | nil =>
    have halone : (c.serve (.register l)).1.registrations.filter (fun r => r.id = c.nextId) =
        (some ⟨c.nextId, l, 0⟩ : Option Registration).toList := by
      have hold : c.registrations.filter (fun r => r.id = c.nextId) = [] :=
        List.filter_eq_nil_iff.mpr fun r hr => by simpa using Nat.ne_of_lt (h r hr)
      simp [Controller.serve, register, hold]
    have hnew : c.nextId < (c.serve (.register l)).1.nextId := Nat.lt_succ_self _
    have hcalls := Controller.calls_serveAll later hnew halone
    simpa [serveAll, Controller.serve, register] using hcalls
  | cons q before ih =>
    have hnumber : c.nextId + (q :: before).countP Request.registers =
        (c.serve q).1.nextId + before.countP Request.registers := by
      rw [nextId_serve, Nat.add_assoc, ← List.countP_append, List.singleton_append]
    have hcalls : (c.serve q).2.calls.filter
        (fun k => k.registration = c.nextId + (q :: before).countP Request.registers) = [] := by
      cases q with
      | register k => rfl
      | unregister name => rfl
      | dispatch context packet =>
        refine List.filter_eq_nil_iff.mpr fun k hk => ?_
        obtain ⟨r, hr, rfl⟩ := List.mem_map.mp hk
        have hlt : r.id < c.nextId := h r hr
        have hne : r.id ≠ c.nextId + (Request.dispatch context packet :: before).countP
            Request.registers := by omega
        exact fun heq => hne (of_decide_eq_true heq)
    rw [List.cons_append, serveAll, Trace.calls_append, List.filter_append, hcalls, List.nil_append,
      hnumber]
    exact ih (h.serve q)

/-! ### What does not matter -/

def roll (c : Controller) : List (Nat × String) :=
  c.registrations.map fun r => (r.id, r.listener.name)

/-- Who is called next, and with which numbers, has nothing to do with what listeners make of their
packets. -/
lemma Request.Alike.serve {p q : Request} (h : p.Alike q) (hroll : c.roll = d.roll)
    (hnext : c.nextId = d.nextId) : (c.serve p).1.roll = (d.serve q).1.roll ∧
      (c.serve p).1.nextId = (d.serve q).1.nextId ∧
      (c.serve p).2.calls.map Call.delivery = (d.serve q).2.calls.map Call.delivery := by
  cases h with
  | register name =>
    refine ⟨?_, congrArg (· + 1) hnext, rfl⟩
    simp only [roll] at hroll
    simp only [Controller.serve, Controller.register, roll, List.map_append, hroll,
      List.map_singleton, hnext, name]
  | unregister name =>
    refine ⟨?_, hnext, rfl⟩
    have hrolls (c : Controller) : (c.serve (.unregister name)).1.roll =
        c.roll.filter fun entry => entry.2 != name := by
      simp only [Controller.serve, Controller.unregister, roll, List.filter_map]
      rfl
    rw [hrolls, hrolls, hroll]
  | dispatch context packet =>
    have hrolls (c : Controller) : (c.serve (.dispatch context packet)).1.roll = c.roll := by
      simp only [Controller.serve, Controller.dispatch, roll, List.map_map]
      rfl
    have hcalls (c : Controller) : (c.serve (.dispatch context packet)).2.calls.map Call.delivery =
        c.roll.map fun entry => (entry.1, context, packet) := by
      simp only [Controller.serve, deliveries_dispatch, ids, roll, List.map_map]
      rfl
    rw [hrolls, hrolls, hcalls, hcalls, hroll]
    exact ⟨rfl, hnext, rfl⟩

lemma deliveries_serveAll (h : List.Forall₂ Request.Alike history other) (hroll : c.roll = d.roll)
    (hnext : c.nextId = d.nextId) : (c.serveAll history).2.calls.map Call.delivery =
      (d.serveAll other).2.calls.map Call.delivery := by
  induction h generalizing c d with
  | nil => rfl
  | cons first _ ih =>
    obtain ⟨hroll, hnext, hcalls⟩ := first.serve hroll hnext
    simp only [serveAll, Trace.calls_append, List.map_append, hcalls, ih hroll hnext]

/-! ### Counters -/

lemma counters_serveAll (history : List Request) :
    (c.serveAll history).1.counters.packetsDispatched =
        c.counters.packetsDispatched + history.countP Request.dispatches ∧
      (c.serveAll history).1.counters.listenerFailures =
        c.counters.listenerFailures + (c.serveAll history).2.calls.countP Call.hasFailed := by
  induction history generalizing c with
  | nil => exact ⟨rfl, rfl⟩
  | cons q later ih =>
    obtain ⟨hpackets, hfailures⟩ := ih (c := (c.serve q).1)
    rw [serveAll, Trace.calls_append, List.countP_append, hpackets, hfailures, List.countP_cons]
    cases q with
    | register l => simp [serve, register, Request.dispatches]
    | unregister name => simp [serve, unregister, Request.dispatches]
    | dispatch context packet =>
      simp [serve, dispatch, Request.dispatches, Nat.add_assoc, Nat.add_comm 1]

/-- **Listeners do not reach each other, and each sees every packet once and in order.** After any
history of requests, a packet is handed to everybody who stands, once and in the order of
registration. A name is removed exactly where somebody of that name stands, and then all of that
name are gone and no others. Packets are counted once, and calls that went wrong beside them. Over a
whole history a registration receives what it would receive alone; and where listeners make
something else of their packets, the same packets are handed to the same registrations in the same
order. -/
theorem serveAll_isolates (config : Config) (history : List Request) :
    let (c, trace) := (new config).serveAll history
    let present := standing 0 history
    (∀ context packet,
      (c.dispatch context packet).2.calls = present.map (·.call context packet)) ∧
    (present.map (·.id)).Pairwise (· < ·) ∧
    (∀ name, ((c.unregister name).1 = true ↔ ∃ r ∈ present, r.listener.name = name) ∧
      (c.unregister name).2.registrations = present.filter fun r => r.listener.name != name) ∧
    c.counters.packetsDispatched = history.countP Request.dispatches ∧
    c.counters.listenerFailures = trace.calls.countP Call.hasFailed ∧
    (∀ before l later, history = before ++ .register l :: later →
      let number := before.countP Request.registers
      trace.calls.filter (fun k => k.registration = number) = received ⟨number, l, 0⟩ later) ∧
    ∀ other, List.Forall₂ Request.Alike history other →
      ((new config).serveAll other).2.calls.map Call.delivery =
        trace.calls.map Call.delivery := by
  have hpresent : ((new config).serveAll history).1.registrations = standing 0 history :=
    registrations_serveAll
  obtain ⟨hpackets, hfailures⟩ := counters_serveAll (c := new config) history
  refine ⟨fun context packet => ?_, standing_sorted, fun name => ⟨?_, ?_⟩, ?_, ?_, ?_, ?_⟩
  · rw [← hpresent]
    rfl
  · rw [← hpresent]
    simp [unregister]
  · rw [← hpresent]
    rfl
  · rw [hpackets]
    exact Nat.zero_add _
  · rw [hfailures]
    exact Nat.zero_add _
  · rintro before l later rfl
    have hnone : Numbered (new config) := fun r hr => nomatch hr
    have hcalls := hnone.calls_serveAll before l later
    simpa [new] using hcalls
  · exact fun other h => (deliveries_serveAll h rfl rfl).symm

/-- A listener that is registered before and behind another one, and goes after the first of two
packets. -/
def aroundAnother (another : Listener) : List Request :=
  let packet : Packet := .bmp (.ofMessage (.initiation []))
  let context : Context := ⟨.ofIp Config.localhost 40000, .bmp⟩
  [.register (.accepting "edge"), .register another, .register (.accepting "edge"),
    .dispatch context packet, .unregister "edge", .dispatch context packet]

/-- It hears the first packet twice whether the other one breaks down or not, and the other one
hears both. -/
theorem serveAll_isolates_around :
    let broken : Listener := ⟨"broken", fun _ _ _ => .panicked⟩
    let whole : Listener := .accepting "broken"
    List.Forall₂ Request.Alike (aroundAnother broken) (aroundAnother whole) ∧
    ((new .loopback).serveAll (aroundAnother broken)).2.calls.map (·.registration) =
      [0, 1, 2, 1] ∧
    ((new .loopback).serveAll (aroundAnother whole)).2.calls.map Call.delivery =
      ((new .loopback).serveAll (aroundAnother broken)).2.calls.map Call.delivery ∧
    (((new .loopback).serveAll (aroundAnother broken)).2.calls.filter
      fun k => k.registration = 2) = received ⟨2, .accepting "edge", 0⟩
        ((aroundAnother broken).drop 3) ∧
    ((new .loopback).serveAll (aroundAnother broken)).1.counters.listenerFailures = 2 := by
  intro broken whole
  obtain ⟨-, -, -, -, hfailures, hreceived, hother⟩ :=
    serveAll_isolates .loopback (aroundAnother broken)
  have halike : List.Forall₂ Request.Alike (aroundAnother broken) (aroundAnother whole) := by
    repeat constructor
  refine ⟨halike, rfl, hother _ halike, ?_, hfailures.trans rfl⟩
  exact hreceived [.register (.accepting "edge"), .register broken] (.accepting "edge") _ rfl

end Controller

end Telemetry.Station
