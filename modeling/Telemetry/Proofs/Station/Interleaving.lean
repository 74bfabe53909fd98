import Telemetry.Proofs.Station.Traffic
import Telemetry.Proofs.Station.Delivery
import Telemetry.Proofs.Station.Recutting

/-!
Sessions side by side.

A session keeps its own buffer and decoder and asks nothing of its controller, and what others do
there changes neither who is registered nor the limit on messages. So between its own events
anything may happen to the others: it becomes what it would become alone, and in what is dispatched
the packets with its peer are those that it would hand on alone.
-/

namespace Telemetry.Station

namespace Operation

def ofRouters : Operation → Bool
  | connect _ | session .. => true
  | _ => false

def connects : Operation → Bool
  | connect _ => true
  | _ => false

/-- What it is for the session with this number. -/
def eventOf? (number : Nat) : Operation → Option SessionEvent
  | session n e => if n = number then some e else none
  | _ => none

lemma eq_of_eventOf? {number : Nat} {o : Operation} {e : SessionEvent}
    (h : o.eventOf? number = some e) : o = session number e := by
  cases o with
  | session n f =>
    simp only [eventOf?, Option.ite_none_right_eq_some, Option.some.injEq] at h
    rw [h.1, h.2]
  | _ => cases h

/-- What comes from routers, but not from this peer. -/
def Foreign (peer : Endpoint) (o : Operation) : Prop := o.ofRouters = true ∧ o ≠ connect peer

end Operation

/-! ### What nobody changes -/

namespace Controller

variable {c d : Controller} {peer : Endpoint}

structure Agrees (c d : Controller) : Prop where
  config : d.config = c.config
  ids : d.ids = c.ids

lemma agrees_dispatchBmp (c : Controller) (peer : Endpoint) (ps : List Bmp.Packet) (n : Nat) :
    Agrees c ((c.dispatchBmp peer ps).1.recordFramesDropped n) where
  config := config_dispatchAll _
  ids := ids_dispatchAll _

lemma Agrees.trans {e : Controller} (h : Agrees c d) (h' : Agrees d e) : Agrees c e :=
  ⟨h'.config.trans h.config, h'.ids.trans h.ids⟩

lemma deliveries_dispatchBmp (c : Controller) (peer : Endpoint) (ps : List Bmp.Packet) :
    (c.dispatchBmp peer ps).2.calls.map Call.delivery =
      ps.flatMap fun p => c.ids.map fun id => (id, ⟨peer, .bmp⟩, .bmp p) := by
  rw [dispatchBmp, deliveries_dispatchAll, List.flatMap_map]

lemma peer_of_mem_dispatchBmp {ps : List Bmp.Packet} {k : Call}
    (h : k ∈ (c.dispatchBmp peer ps).2.calls) : k.context.peer = peer := by
  have hmem := List.mem_map_of_mem (f := Call.delivery) h
  rw [deliveries_dispatchBmp, List.mem_flatMap] at hmem
  obtain ⟨p, -, hp⟩ := hmem
  obtain ⟨id, -, heq⟩ := List.mem_map.mp hp
  exact (congrArg (·.2.1.peer) heq).symm

end Controller

namespace LiveSession

open Bmp.Decoder (Segment Drained)

variable {c : Controller} {peer : Endpoint} {bytes : Octets} {settled pending : List Segment}
  {s : Drained} {w : Work}

/-- The packets so far are the first that the whole stream gives. -/
lemma Ledger.packets_first (h : Ledger c peer bytes settled pending s w) (more : Octets) :
    s.packets <+:
      ((Bmp.Decoder.new c.config.maxBmpMessageLength).drain (bytes ++ more)).packets := by
  have hmore := h.reached.append more
  obtain ⟨hrest, hidle⟩ := Bmp.Decoder.drain_steps (s.append more)
  have hwhole := Bmp.Decoder.drain_unique (hmore.trans hrest) hidle
  have hstart : ((Drained.start c.config.maxBmpMessageLength).append bytes).append more =
      ⟨[], .new c.config.maxBmpMessageLength, bytes ++ more, []⟩ := rfl
  rw [hstart, Bmp.Decoder.start_andThen] at hwhole
  rw [hwhole]
  exact List.prefix_append _ _

/-- What a session has handed on are the first packets of its stream, in their order; all of them,
as long as it is not over. -/
lemma run_order (c : Controller) (peer : Endpoint) (events : List SessionEvent) :
    let w := run c peer false events
    let whole := (Bmp.Decoder.new c.config.maxBmpMessageLength).drain (events.flatMap received)
    ∃ ps, ps <+: whole.packets ∧ (w.live.ended = none → ps = whole.packets) ∧
      w.trace.calls.map Call.delivery =
        (ps.flatMap fun p => c.ids.map fun id => (id, ⟨peer, .bmp⟩, .bmp p)) ∧
      w.live.session.packets = ps.length ∧
      w.live.session.routerName = (ps.filterMap Bmp.Packet.systemName?).getLast? := by
  intro w whole
  obtain ⟨bytes, settled, pending, s, hstands⟩ := run_stands c peer false events
  have hledger : Ledger c peer bytes settled pending s w :=
    hstands.elim (·.2.toLedger) fun ⟨_, _, h⟩ => h.toLedger
  refine ⟨s.packets, ?_, ?_, ?_, hledger.books.packets, hledger.books.routerName⟩
  · obtain ⟨more, hmore⟩ : bytes <+: events.flatMap received :=
      hstands.elim (fun h => h.1 ▸ List.prefix_rfl) (·.1)
    have hfirst := hledger.packets_first more
    rwa [hmore] at hfirst
  · intro hgoing
    rcases hstands with ⟨rfl, h⟩ | ⟨-, how, h⟩
    · exact congrArg Drained.packets (hledger.drained h.idle)
    · cases hgoing.symm.trans h.ended
  · rw [hledger.books.calls, Controller.deliveries_dispatchBmp]

end LiveSession

namespace Traffic

def deliveredFor (peer : Endpoint) (calls : List Call) : List (Nat × Context × Packet) :=
  (calls.filter fun k => k.context.peer = peer).map Call.delivery

variable {c : Controller} {peer other : Endpoint} {ps : List Bmp.Packet} {t : Traffic}
  {o : Operation}

lemma deliveredFor_append (calls more : List Call) :
    deliveredFor peer (calls ++ more) = deliveredFor peer calls ++ deliveredFor peer more := by
  rw [deliveredFor, List.filter_append, List.map_append]
  rfl

lemma deliveredFor_own : deliveredFor peer (c.dispatchBmp peer ps).2.calls =
    ps.flatMap fun p => c.ids.map fun id => (id, ⟨peer, .bmp⟩, .bmp p) := by
  rw [← Controller.deliveries_dispatchBmp, deliveredFor, List.filter_eq_self.mpr]
  exact fun k hk => decide_eq_true (Controller.peer_of_mem_dispatchBmp hk)

lemma deliveredFor_other (h : other ≠ peer) :
    deliveredFor peer (c.dispatchBmp other ps).2.calls = [] := by
  rw [deliveredFor, List.filter_eq_nil_iff.mpr, List.map_nil]
  intro k hk
  rw [Controller.peer_of_mem_dispatchBmp hk]
  simpa using h

lemma perform_other {number : Nat} {live : LiveSession} (h : t.sessions[number]? = some live)
    (other : live.session.peer ≠ peer) (e : SessionEvent) :
    ∃ next, next.session.peer ≠ peer ∧
      (t.perform (.session number e)).sessions = t.sessions.set number next ∧
      t.controller.Agrees (t.perform (.session number e)).controller ∧
      deliveredFor peer (t.perform (.session number e)).trace.calls =
        deliveredFor peer t.trace.calls := by
  obtain ⟨ps, n, next, hturns, hcontroller, hsessions, hcalls⟩ := perform_session h e
  refine ⟨next, ?_, hsessions, ?_, ?_⟩
  · rwa [hturns.peer]
  · rw [hcontroller]
    exact t.controller.agrees_dispatchBmp _ ps n
  · rw [hcalls, deliveredFor_append, deliveredFor_other other, List.append_nil]

/-! ### Before the session begins -/

/-- Routers have done something, but nobody with this peer. -/
structure Without (c : Controller) (peer : Endpoint) (connected : Nat) (t : Traffic) : Prop where
  agrees : c.Agrees t.controller
  connected : t.sessions.length = connected
  others : ∀ live ∈ t.sessions, live.session.peer ≠ peer
  delivered : deliveredFor peer t.trace.calls = []

lemma without_start (c : Controller) (peer : Endpoint) :
    Without c peer 0 { controller := c } where
  agrees := ⟨rfl, rfl⟩
  connected := rfl
  others := by simp
  delivered := rfl

lemma Without.perform {n : Nat} (h : Without c peer n t) (foreign : o.Foreign peer) :
    Without c peer (n + [o].countP Operation.connects) (t.perform o) := by
  obtain ⟨hagrees, hconnected, hothers, hdelivered⟩ := h
  obtain ⟨hrouters, hpeer⟩ := foreign
  cases o with
  | request q => cases hrouters
  | datagram transport peer bs => cases hrouters
  | connect other =>
    refine ⟨hagrees, ?_, ?_, ?_⟩
    · simp [Traffic.perform, hconnected, Operation.connects]
    · refine List.forall_mem_append.mpr ⟨hothers, List.forall_mem_singleton.mpr ?_⟩
      rintro rfl
      exact hpeer rfl
    · exact (deliveredFor_append _ _).trans (by rw [hdelivered]; rfl)
  | session number e =>
    cases hlive : t.sessions[number]? with
    | none =>
      rw [perform_session_none hlive]
      exact ⟨hagrees, hconnected, hothers, hdelivered⟩
    | some live =>
      obtain ⟨next, hnext, hsessions, hsame, hcalls⟩ :=
        perform_other hlive (hothers live (List.mem_of_getElem? hlive)) e
      refine ⟨hagrees.trans hsame, ?_, ?_, ?_⟩
      · rw [hsessions, List.length_set, hconnected]
        rfl
      · rw [hsessions]
        intro other hother
        rcases List.mem_or_eq_of_mem_set hother with hother | rfl
        · exact hothers other hother
        · exact hnext
      · rw [hcalls, hdelivered]

lemma Without.performAll {n : Nat} (h : Without c peer n t) {operations : List Operation}
    (foreign : ∀ o ∈ operations, o.Foreign peer) :
    Without c peer (n + operations.countP Operation.connects) (t.performAll operations) := by
  induction operations generalizing n t with
  | nil => exact h
  | cons o later ih =>
    rw [List.forall_mem_cons] at foreign
    have hrest := ih (h.perform foreign.1) foreign.2
    rwa [Nat.add_assoc, ← List.countP_append, List.singleton_append] at hrest

/-! ### Beside the others -/

/-- One session among others stands where it would stand alone. -/
structure Beside (c : Controller) (peer : Endpoint) (number : Nat) (alone : LiveSession.Work)
    (t : Traffic) : Prop where
  agrees : c.Agrees t.controller
  agrees_alone : c.Agrees alone.controller
  own : t.sessions[number]? = some alone.live
  of_peer : alone.live.session.peer = peer
  others : ∀ i live, t.sessions[i]? = some live → i ≠ number → live.session.peer ≠ peer
  delivered : deliveredFor peer t.trace.calls = alone.trace.calls.map Call.delivery

variable {number : Nat} {alone : LiveSession.Work}

lemma Without.connect (h : Without c peer number t) :
    Beside c peer number (LiveSession.start c peer) (t.perform (.connect peer)) := by
  obtain ⟨hagrees, hconnected, hothers, hdelivered⟩ := h
  have hlive : (LiveSession.start t.controller peer).live = (LiveSession.start c peer).live := by
    simp only [LiveSession.start, hagrees.config]
  have hsessions : (t.perform (.connect peer)).sessions =
      t.sessions ++ [(LiveSession.start c peer).live] := by
    rw [← hlive]
    rfl
  refine ⟨hagrees, ⟨rfl, rfl⟩, ?_, rfl, ?_, ?_⟩
  · rw [hsessions, ← hconnected, List.getElem?_concat_length]
  · intro i live hi hne
    have hlt : i < t.sessions.length := by
      have hbound := (List.getElem?_eq_some_iff.mp hi).1
      rw [hsessions, List.length_append, List.length_singleton] at hbound
      omega
    rw [hsessions, List.getElem?_append_left hlt] at hi
    exact hothers live (List.mem_of_getElem? hi)
  · exact (deliveredFor_append _ _).trans (by rw [hdelivered]; rfl)

lemma Beside.own_event (h : Beside c peer number alone t) (e : SessionEvent) :
    Beside c peer number (alone.handle e) (t.perform (.session number e)) := by
  obtain ⟨hagrees, halone, hown, rfl, hothers, hdelivered⟩ := h
  obtain ⟨ps, n, next, hturns, hcontroller, hsessions, hcalls⟩ := perform_session hown e
  have hnumber : number < t.sessions.length := (List.getElem?_eq_some_iff.mp hown).1
  refine ⟨?_, ?_, ?_, ?_, ?_, ?_⟩
  · rw [hcontroller]
    exact hagrees.trans (t.controller.agrees_dispatchBmp _ ps n)
  · rw [hturns.controller alone.controller alone.trace]
    exact halone.trans (alone.controller.agrees_dispatchBmp _ ps n)
  · rw [hsessions, hturns.live alone.controller alone.trace, List.getElem?_set_self hnumber]
  · rw [hturns.live alone.controller alone.trace, hturns.peer]
  · intro i live hi hne
    rw [hsessions, List.getElem?_set_ne (Ne.symm hne)] at hi
    exact hothers i live hi hne
  · rw [hcalls, hturns.calls alone.controller alone.trace, deliveredFor_append, hdelivered,
      deliveredFor_own, List.map_append, Controller.deliveries_dispatchBmp, hagrees.ids,
      halone.ids]

/-- What comes from other routers does not touch the session. -/
lemma Beside.foreign (h : Beside c peer number alone t) (foreign : o.Foreign peer)
    (elsewhere : o.eventOf? number = none) : Beside c peer number alone (t.perform o) := by
  obtain ⟨hagrees, halone, hown, rfl, hothers, hdelivered⟩ := h
  obtain ⟨hrouters, hpeer⟩ := foreign
  cases o with
  | request q => cases hrouters
  | datagram transport peer bs => cases hrouters
  | connect other =>
    have hnumber : number < t.sessions.length := (List.getElem?_eq_some_iff.mp hown).1
    refine ⟨hagrees, halone, ?_, rfl, ?_, ?_⟩
    · exact (List.getElem?_append_left hnumber).trans hown
    · intro i live hi hne
      have happended : (t.sessions ++ [(LiveSession.start t.controller other).live])[i]? =
        some live := hi
      rw [List.getElem?_append] at happended
      split_ifs at happended
      · exact hothers i live happended hne
      · obtain rfl := List.mem_singleton.mp (List.mem_of_getElem? happended)
        rintro rfl
        exact hpeer rfl
    · exact (deliveredFor_append _ _).trans (by rw [hdelivered]; exact List.append_nil _)
  | session i e =>
    have hne : i ≠ number := by
      rintro rfl
      simp [Operation.eventOf?] at elsewhere
    cases hlive : t.sessions[i]? with
    | none =>
      rw [perform_session_none hlive]
      exact ⟨hagrees, halone, hown, rfl, hothers, hdelivered⟩
    | some live =>
      obtain ⟨next, hnext, hsessions, hsame, hcalls⟩ :=
        perform_other hlive (hothers i live hlive hne) e
      refine ⟨hagrees.trans hsame, halone, ?_, rfl, ?_, hcalls.trans hdelivered⟩
      · rw [hsessions, List.getElem?_set_ne hne, hown]
      · intro j last hj hother
        rw [hsessions, List.getElem?_set] at hj
        split_ifs at hj
        · cases hj
          exact hnext
        · exact hothers j last hj hother

lemma Beside.performAll (h : Beside c peer number alone t) {operations : List Operation}
    (foreign : ∀ o ∈ operations, o.Foreign peer) :
    Beside c peer number
      ((operations.filterMap (Operation.eventOf? number)).foldl LiveSession.Work.handle alone)
      (t.performAll operations) := by
  induction operations generalizing alone t with
  | nil => exact h
  | cons o later ih =>
    rw [List.forall_mem_cons] at foreign
    cases hevent : o.eventOf? number with
    | none =>
      rw [List.filterMap_cons_none hevent]
      exact ih (h.foreign foreign.1 hevent) foreign.2
    | some e =>
      obtain rfl : o = .session number e := Operation.eq_of_eventOf? hevent
      rw [List.filterMap_cons_some hevent]
      exact ih (h.own_event e) foreign.2

/-- **Sessions do not reach each other.** One router connects at any time, and before and behind
that, and between its own events, others connect, send whatever they like, end and are stopped. Its
session becomes exactly what it would become alone, with the same statistics, packets and name; and
what is dispatched with its peer is what the session alone would dispatch, in the same order. That
is the beginning of what its own bytes give, in the order of the wire, and all of it as long as the
session is not over. Nor does it matter how its bytes are cut into reads. -/
theorem run_isolates (c : Controller) (peer : Endpoint) (before later : List Operation)
    (foreign : ∀ o ∈ before ++ later, o.Foreign peer) :
    let number := before.countP Operation.connects
    let own := later.filterMap (Operation.eventOf? number)
    let alone := LiveSession.run c peer false own
    let t := run c (before ++ .connect peer :: later)
    let whole := (Bmp.Decoder.new c.config.maxBmpMessageLength).drain
      (own.flatMap LiveSession.received)
    t.sessions[number]? = some alone.live ∧
      deliveredFor peer t.trace.calls = alone.trace.calls.map Call.delivery ∧
      (∃ ps, ps <+: whole.packets ∧ (alone.live.ended = none → ps = whole.packets) ∧
        alone.trace.calls.map Call.delivery =
          (ps.flatMap fun p => c.ids.map fun id => (id, ⟨peer, .bmp⟩, .bmp p)) ∧
        alone.live.session.packets = ps.length ∧
        alone.live.session.routerName = (ps.filterMap Bmp.Packet.systemName?).getLast?) ∧
      ∀ (reads : List Octets) (rest : List SessionEvent), own = reads.map .bytes ++ rest →
        alone = LiveSession.run c peer false (.bytes reads.flatten :: rest) := by
  intro number own alone t whole
  rw [List.forall_mem_append] at foreign
  have hbefore := (without_start c peer).performAll foreign.1
  rw [Nat.zero_add] at hbefore
  have hrun : t = ((run c before).perform (.connect peer)).performAll later :=
    performAll_append before (.connect peer :: later)
  have hbeside : Beside c peer number alone t := by
    rw [hrun]
    exact hbefore.connect.performAll foreign.2
  refine ⟨hbeside.own, hbeside.delivered, LiveSession.run_order c peer own, ?_⟩
  rintro reads rest hown
  exact (congrArg (LiveSession.run c peer false) hown).trans
    (LiveSession.run_reads c peer reads rest)

def listening : Controller := ((Controller.new .loopback).register (.accepting "listener")).1

def peerOf (port : UInt16) : Endpoint := .ofIp Config.localhost port

/-- Somebody sends no message at all, before a router connects and while it sends one in two
pieces. The router might as well have sent it alone, and in one piece. -/
theorem run_isolates_garbage :
    let before : List Operation := [.connect (peerOf 40001), .session 0 (.bytes [7, 7, 7])]
    let later : List Operation :=
      [.session 1 (.bytes [3, 0, 0]), .session 0 (.bytes [7, 7, 7, 7]),
        .session 1 (.bytes [0, 6, 4]), .session 0 .closed, .session 1 .closed]
    let t := run listening (before ++ .connect (peerOf 40000) :: later)
    (∀ o ∈ before ++ later, o.Foreign (peerOf 40000)) ∧
      deliveredFor (peerOf 40000) t.trace.calls =
        [(0, ⟨peerOf 40000, .bmp⟩, .bmp (.ofMessage (.initiation [])))] ∧
      t.sessions[1]? = some (LiveSession.run listening (peerOf 40000) false
        [.bytes [3, 0, 0, 0, 6, 4], .closed]).live := by
  intro before later t
  have hforeign : ∀ o ∈ before ++ later, o.Foreign (peerOf 40000) := by
    have hdistinct : peerOf 40001 ≠ peerOf 40000 := by decide
    simpa [before, later, Operation.Foreign, Operation.ofRouters] using hdistinct
  obtain ⟨hlive, hdelivered, -, hcut⟩ :=
    run_isolates listening (peerOf 40000) before later hforeign
  have hwhole := hcut [[3, 0, 0], [0, 6, 4]] [.closed] rfl
  refine ⟨hforeign, hdelivered.trans (by decide +kernel), ?_⟩
  exact hlive.trans (congrArg (fun w : LiveSession.Work => some w.live) hwhole)

end Traffic

end Telemetry.Station
