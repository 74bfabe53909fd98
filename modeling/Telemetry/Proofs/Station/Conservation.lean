import Telemetry.Proofs.Station.Traffic

/-!
Whatever comes in is counted once.

Packets come to a controller from somebody who dispatches them himself, out of sessions and out of
datagrams, and all of them go through the same door. So the packets that have been dispatched are
those that were handed in, those that the sessions have counted, and the datagrams that were not
dropped, whoever listens and in whatever order it all happens.
-/

namespace Telemetry.Station

namespace Operation

/-- Whether somebody dispatches a packet himself. -/
def dispatches : Operation → Bool
  | request q => q.dispatches
  | _ => false

def isDatagram : Operation → Bool
  | datagram .. => true
  | _ => false

end Operation

/-! ### Datagrams -/

namespace Controller

variable {c : Controller} {transport : Transport} {peer : Endpoint} {bs : Octets}

/-- Decoding touches nothing but the templates, and those only for NetFlow; and what it gives is of
the protocol that was announced. -/
lemma decodeDatagram_keeps (c : Controller) (transport : Transport) (peer : Endpoint)
    (bs : Octets) :
    ∃ templates, (c.decodeDatagram transport peer bs).2.1 = { c with templates } ∧
      (transport ≠ .netflow → templates = c.templates) ∧
      ∀ packet, (c.decodeDatagram transport peer bs).1 = .ok packet →
        packet.transport = transport := by
  unfold decodeDatagram
  cases transport with
  | bmp =>
    refine ⟨c.templates, rfl, fun _ => rfl, fun packet h => ?_⟩
    cases h
  | sflow =>
    refine ⟨c.templates, ?_, fun _ => rfl, fun packet h => ?_⟩
    · dsimp only
      split <;> rfl
    · dsimp only at h
      split at h
      · cases h
        rfl
      · cases h
  | netflow =>
    refine ⟨(Netflow.decode peer.ip c.templates bs).cache, rfl, fun h => absurd rfl h,
      fun packet h => ?_⟩
    dsimp only at h
    split at h
    · cases h
      rfl
    · cases h

lemma receive_cases (c : Controller) (transport : Transport) (peer : Endpoint) (bs : Octets) :
    let d := (c.receive transport peer bs).1
    let calls := (c.receive transport peer bs).2.calls
    d.counters.datagramsReceived = c.counters.datagramsReceived + 1 ∧
      ((d.counters.datagramsDropped = c.counters.datagramsDropped + 1 ∧
          d.counters.packetsDispatched = c.counters.packetsDispatched ∧ calls = []) ∨
        d.counters.datagramsDropped = c.counters.datagramsDropped ∧
          d.counters.packetsDispatched = c.counters.packetsDispatched + 1 ∧
          ∃ packet, packet.transport = transport ∧
            calls = c.registrations.map (·.call ⟨peer, packet.transport⟩ packet)) ∧
      (transport ≠ .netflow → d.templates = c.templates) := by
  set opened : Controller :=
    { c with counters.datagramsReceived := c.counters.datagramsReceived + 1 } with hopened
  obtain ⟨templates, hkeeps, hsame, hown⟩ := opened.decodeDatagram_keeps transport peer bs
  rw [receive, ← hopened]
  generalize opened.decodeDatagram transport peer bs = decoded at hkeeps hown ⊢
  obtain ⟨_ | packet, d, lines⟩ := decoded
  · obtain rfl : d = { opened with templates } := hkeeps
    exact ⟨rfl, .inl ⟨rfl, rfl, rfl⟩, hsame⟩
  · obtain rfl : d = { opened with templates } := hkeeps
    obtain rfl := hown packet rfl
    exact ⟨rfl, .inr ⟨rfl, rfl, packet, rfl, rfl⟩, hsame⟩

lemma receive_bmp (c : Controller) (peer : Endpoint) (bs : Octets) :
    (c.receive .bmp peer bs).1.counters.datagramsDropped = c.counters.datagramsDropped + 1 := rfl

/-! ### What leaves the datagrams alone -/

def datagrams (c : Controller) : Nat × Nat :=
  (c.counters.datagramsReceived, c.counters.datagramsDropped)

lemma datagrams_serve (c : Controller) (q : Request) : (c.serve q).1.datagrams = c.datagrams := by
  cases q <;> rfl

lemma dispatched_serve (c : Controller) (q : Request) :
    (c.serve q).1.counters.packetsDispatched =
      c.counters.packetsDispatched + [q].countP Request.dispatches := by
  cases q <;> rfl

lemma datagrams_dispatchBmp (c : Controller) (peer : Endpoint) (ps : List Bmp.Packet) :
    (c.dispatchBmp peer ps).1.datagrams = c.datagrams := by
  induction ps using List.reverseRecOn with
  | nil => rfl
  | append_singleton ps p ih => rw [(dispatchBmp_append ps [p]).1, ← ih]; rfl

lemma dispatched_dispatchBmp (c : Controller) (peer : Endpoint) (ps : List Bmp.Packet) :
    (c.dispatchBmp peer ps).1.counters.packetsDispatched =
      c.counters.packetsDispatched + ps.length := by
  rw [dispatchBmp, (counters_dispatchAll _).1, List.length_map]

end Controller

/-! ### The balance -/

namespace Traffic

def packets (t : Traffic) : Nat := (t.sessions.map (·.session.packets)).sum

lemma packets_set {sessions : List LiveSession} {number : Nat} {live : LiveSession}
    (h : sessions[number]? = some live) (next : LiveSession) :
    ((sessions.set number next).map (·.session.packets)).sum + live.session.packets =
      (sessions.map (·.session.packets)).sum + next.session.packets := by
  induction sessions generalizing number with
  | nil => cases h
  | cons first others ih =>
    cases number with
    | zero =>
      cases h
      simp only [List.set_cons_zero, List.map_cons, List.sum_cons]
      omega
    | succ number =>
      have := ih h
      simp only [List.set_cons_succ, List.map_cons, List.sum_cons]
      omega

/-- All that has come in, counted by where it came from. -/
structure Balanced (done : List Operation) (t : Traffic) : Prop where
  received : t.controller.counters.datagramsReceived = done.countP Operation.isDatagram
  dropped : t.controller.counters.datagramsDropped ≤ t.controller.counters.datagramsReceived
  dispatched : t.controller.counters.packetsDispatched =
    done.countP Operation.dispatches + t.packets +
      (t.controller.counters.datagramsReceived - t.controller.counters.datagramsDropped)

variable {done : List Operation} {t : Traffic}

/-- What does not come in a datagram is a packet handed in or one of a session. -/
lemma Balanced.apart (h : Balanced done t) {operation : Operation} {next : Traffic}
    (other : operation.isDatagram = false)
    (same : next.controller.datagrams = t.controller.datagrams)
    (more : next.controller.counters.packetsDispatched + t.packets =
      t.controller.counters.packetsDispatched + [operation].countP Operation.dispatches +
        next.packets) :
    Balanced (done ++ [operation]) next := by
  obtain ⟨hreceived, hdropped, hdispatched⟩ := h
  obtain ⟨hsame, hsame'⟩ := Prod.mk.inj same
  constructor
  · rw [List.countP_append, List.countP_singleton, other, hsame, hreceived]
    rfl
  · rwa [hsame, hsame']
  · rw [List.countP_append, hsame, hsame']
    omega

lemma Balanced.datagram (h : Balanced done t) (transport : Transport) (peer : Endpoint)
    (bs : Octets) : Balanced (done ++ [.datagram transport peer bs])
      (t.perform (.datagram transport peer bs)) := by
  obtain ⟨hreceived, hdropped, hdispatched⟩ := h
  obtain ⟨hone, hcases, -⟩ := t.controller.receive_cases transport peer bs
  have hpackets : (t.perform (.datagram transport peer bs)).packets = t.packets := rfl
  have hnone : [Operation.datagram transport peer bs].countP Operation.dispatches = 0 := rfl
  constructor
  · rw [List.countP_append, ← hreceived]
    exact hone
  · simp only [Traffic.perform]
    rcases hcases with ⟨hdrop, -⟩ | ⟨hdrop, -⟩ <;> omega
  · rw [List.countP_append, hpackets, hnone]
    simp only [Traffic.perform]
    rcases hcases with ⟨hdrop, hsame, -⟩ | ⟨hdrop, hmore, -⟩ <;> omega

lemma Balanced.perform (h : Balanced done t) (operation : Operation) :
    Balanced (done ++ [operation]) (t.perform operation) := by
  cases operation with
  | request q =>
    refine h.apart rfl (t.controller.datagrams_serve q) ?_
    have hcount : (t.perform (.request q)).controller.counters.packetsDispatched =
        t.controller.counters.packetsDispatched +
          [Operation.request q].countP Operation.dispatches := t.controller.dispatched_serve q
    have hpackets : (t.perform (.request q)).packets = t.packets := rfl
    rw [hcount, hpackets]
  | datagram transport peer bs => exact h.datagram transport peer bs
  | connect peer =>
    have hpackets : (t.perform (.connect peer)).packets = t.packets := by
      simp [Traffic.perform, Traffic.packets, LiveSession.start]
    refine h.apart rfl rfl ?_
    rw [hpackets]
    rfl
  | session number e =>
    cases hlive : t.sessions[number]? with
    | none =>
      rw [perform_session_none hlive]
      exact h.apart rfl rfl rfl
    | some live =>
      obtain ⟨ps, n, next, hturns, hcontroller, hsessions, -⟩ := perform_session hlive e
      have hcount : (t.perform (.session number e)).controller.counters.packetsDispatched =
          t.controller.counters.packetsDispatched + ps.length := by
        rw [hcontroller]
        exact t.controller.dispatched_dispatchBmp _ ps
      have hpackets := packets_set hlive next
      rw [← hsessions, hturns.packets] at hpackets
      refine h.apart rfl ?_ ?_
      · rw [hcontroller]
        exact t.controller.datagrams_dispatchBmp _ ps
      · have hnone : [Operation.session number e].countP Operation.dispatches = 0 := rfl
        rw [hcount, hnone, packets, packets]
        omega

lemma balanced_run (config : Config) (operations : List Operation) :
    Balanced operations (run (.new config) operations) := by
  induction operations using List.reverseRecOn with
  | nil => exact ⟨rfl, Nat.le_refl 0, rfl⟩
  | append_singleton operations operation ih =>
    rw [run, performAll_append]
    exact ih.perform operation

/-- **Packets and datagrams are conserved.** Whatever happens at a controller, the packets that it
has dispatched are those that were handed in, those that its sessions have counted, and one for each
datagram that was not dropped. A datagram is counted once as received, and then it is either dropped
and nobody is called, or it is one packet for everybody who is registered, with the sender as peer
and the protocol of the packet as transport. One that is said to be BMP is dropped; and only NetFlow
changes the templates. -/
theorem run_balances (config : Config) (operations : List Operation) :
    let t := run (.new config) operations
    let n := t.controller.counters
    n.packetsDispatched = operations.countP Operation.dispatches + t.packets +
        (n.datagramsReceived - n.datagramsDropped) ∧
      n.datagramsDropped ≤ n.datagramsReceived ∧
      n.datagramsReceived = operations.countP Operation.isDatagram ∧
      ∀ transport peer bs,
        let d := (t.controller.receive transport peer bs).1
        let calls := (t.controller.receive transport peer bs).2.calls
        d.counters.datagramsReceived = n.datagramsReceived + 1 ∧
          ((d.counters.datagramsDropped = n.datagramsDropped + 1 ∧
              d.counters.packetsDispatched = n.packetsDispatched ∧ calls = []) ∨
            d.counters.datagramsDropped = n.datagramsDropped ∧
              d.counters.packetsDispatched = n.packetsDispatched + 1 ∧
              ∃ packet, packet.transport = transport ∧
                calls = t.controller.registrations.map
                  (·.call ⟨peer, packet.transport⟩ packet)) ∧
          (transport = .bmp → d.counters.datagramsDropped = n.datagramsDropped + 1) ∧
          (transport ≠ .netflow → d.templates = t.controller.templates) := by
  intro t n
  have h := balanced_run config operations
  refine ⟨h.dispatched, h.dropped, h.received, fun transport peer bs => ?_⟩
  obtain ⟨hreceived, hcases, htemplates⟩ := t.controller.receive_cases transport peer bs
  refine ⟨hreceived, hcases, ?_, htemplates⟩
  rintro rfl
  exact t.controller.receive_bmp peer bs

def sender : Endpoint := .ofIp Config.localhost 40000

/-- A listener that breaks down, a packet handed in, one out of a session, an sFlow datagram without
samples, one that is cut short, and one that is said to be BMP. -/
def mixed : Traffic :=
  run (.new .loopback)
    [.request (.register ⟨"broken", fun _ _ _ => .panicked⟩),
      .request (.dispatch ⟨sender, .bmp⟩ (.bmp (.ofMessage (.initiation [])))),
      .connect sender,
      .session 0 (.bytes [3, 0, 0, 0, 6, 4]),
      .datagram .sflow sender (Octets.ofNat 4 5 ++ Octets.ofNat 4 1 ++ Octets.ofNat 20 0),
      .datagram .sflow sender (Octets.ofNat 4 5),
      .datagram .bmp sender [3, 0, 0, 0, 6, 4]]

/-- The listener has broken down three times, and all packets are counted. One more datagram of BMP
would be dropped as well, and leave the templates. -/
theorem run_balances_mixed :
    mixed.controller.counters = ⟨{}, 1 + 1 + (3 - 2), 0, 3, 2, 3⟩ ∧ mixed.packets = 1 ∧
      mixed.controller.counters.packetsDispatched =
        1 + mixed.packets + (mixed.controller.counters.datagramsReceived -
          mixed.controller.counters.datagramsDropped) ∧
      (mixed.controller.receive .bmp sender []).1.counters.datagramsDropped =
        mixed.controller.counters.datagramsDropped + 1 ∧
      (mixed.controller.receive .bmp sender []).1.templates = mixed.controller.templates := by
  obtain ⟨hbalance, -, -, heach⟩ := run_balances .loopback _
  obtain ⟨-, -, hbmp, htemplates⟩ := heach .bmp sender []
  exact ⟨by decide +kernel, by decide +kernel, hbalance, hbmp rfl, htemplates (by decide)⟩

end Traffic

end Telemetry.Station
