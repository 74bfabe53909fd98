import Telemetry.Station.Session
import Telemetry.Proofs.Bmp.Landing
import Telemetry.Proofs.Bmp.RouterNames
import Telemetry.Proofs.Station.Dispatching

/-!
What a session has done, event after event.

Two things are kept apart. The books say which packets have been handed on and which statistics
have been taken over; no look of the decoder is in them. The ledger ties the books to the account
of the stream: the segments up to the last packet are settled, and those behind it are pending
until the next packet, the end or a failure is seen. A session waits where no look is possible, and
it is over when it has settled everything, or when it was told to stop.
-/

namespace Telemetry

namespace Bmp

def Decoder.Segment.stats (segments : List Decoder.Segment) : Frame.Stats :=
  ⟨segments.countP isPacket, segments.countP isMalformed, segments.countP isSkipped⟩

lemma Decoder.Accounted.stats {maxLength : Nat} {bytes : Octets} {segments : List Segment}
    {s : Drained} (h : Accounted maxLength bytes segments s) :
    s.decoder.stats = Segment.stats segments := by
  rw [Segment.stats, ← h.decoded, ← h.dropped, ← h.skipped]

end Bmp

namespace Station

open Bmp.Decoder (Segment Drained Accounted Decoded)

variable {c : Controller} {peer : Endpoint} {p : Bmp.Packet} {ps : List Bmp.Packet}

/-- A message says at most one thing that a session remembers. -/
lemma Session.note_fst (s : Session) (m : Bmp.Message) :
    (s.note m).1 = { s with routerName := m.systemName?.or s.routerName } := by
  cases m with
  | initiation ts =>
    simp only [note, Bmp.Message.systemName?]
    cases Bmp.InitiationTlv.systemName? ts <;> rfl
  | termination ts => rfl
  | peer header report => cases report <;> rfl

def Controller.dispatchBmp (c : Controller) (peer : Endpoint) (ps : List Bmp.Packet) :
    Controller × Trace :=
  c.dispatchAll ⟨peer, .bmp⟩ (ps.map .bmp)

namespace LiveSession

open Work

variable {w : Work} {r : Decoded}

/-! ### The books -/

/-- What has been done with the packets so far, and with the statistics last taken over. -/
structure Books (c : Controller) (peer : Endpoint) (ps : List Bmp.Packet)
    (stats : Bmp.Frame.Stats) (w : Work) : Prop where
  controller : w.controller = (c.dispatchBmp peer ps).1.recordFramesDropped stats.dropped
  calls : w.trace.calls = (c.dispatchBmp peer ps).2.calls
  peer : w.live.session.peer = peer
  routerName : w.live.session.routerName = (ps.filterMap Bmp.Packet.systemName?).getLast?
  packets : w.live.session.packets = ps.length
  frames : w.live.session.frames = stats

def Work.called (w : Work) (r : Decoded) : Work :=
  { w with live.decoder := r.decoder, live.buffer := r.buffer }.say
    (r.events.map (Bmp.Frame.Event.line w.live.session.peer.toText))

namespace Books

variable {stats : Bmp.Frame.Stats}

lemma start (c : Controller) (peer : Endpoint) : Books c peer [] {} (start c peer) :=
  ⟨rfl, rfl, rfl, rfl, rfl, rfl⟩

lemma say (h : Books c peer ps stats w) (lines : List Log.Line) :
    Books c peer ps stats (w.say lines) where
  controller := h.controller
  calls := by simp [Work.say, h.calls]
  peer := h.peer
  routerName := h.routerName
  packets := h.packets
  frames := h.frames

lemma withLive (h : Books c peer ps stats w) {live : LiveSession}
    (same : live.session = w.live.session) : Books c peer ps stats { w with live } where
  controller := h.controller
  calls := h.calls
  peer := (congrArg Session.peer same).trans h.peer
  routerName := (congrArg Session.routerName same).trans h.routerName
  packets := (congrArg Session.packets same).trans h.packets
  frames := (congrArg Session.frames same).trans h.frames

lemma called (h : Books c peer ps stats w) (r : Decoded) : Books c peer ps stats (w.called r) := by
  rw [Work.called]
  exact (h.withLive (by rfl)).say _

lemma finish (h : Books c peer ps stats w) (how : SessionEnd) :
    Books c peer ps stats (w.finish how) :=
  say (w := { w with live.session.state := .disconnected, live.ended := some how })
    ⟨h.controller, h.calls, h.peer, h.routerName, h.packets, h.frames⟩ _

lemma settle (h : Books c peer ps stats w)
    (grown : stats.dropped ≤ w.live.decoder.stats.dropped) :
    Books c peer ps w.live.decoder.stats w.settle where
  controller := by
    simp only [Work.settle, h.frames, h.controller, Controller.recordFramesDropped_add,
      Nat.add_sub_of_le grown]
  calls := h.calls
  peer := h.peer
  routerName := h.routerName
  packets := h.packets
  frames := rfl

lemma deliver (h : Books c peer ps stats w) (p : Bmp.Packet) :
    Books c peer (ps ++ [p]) stats (w.deliver p) where
  controller := by
    simp only [Work.deliver, Session.note_fst, h.peer, h.controller, Controller.dispatchBmp,
      Controller.dispatch_recordFramesDropped, List.map_append, List.map_singleton,
      Controller.dispatchAll_append_singleton]
  calls := by
    simp only [Work.deliver, Session.note_fst, h.peer, h.controller, Controller.dispatchBmp,
      Controller.dispatch_recordFramesDropped, List.map_append, List.map_singleton,
      Controller.dispatchAll_append_singleton, Trace.calls_append, Trace.calls_ofLog,
      List.append_nil, h.calls]
  peer := by simp only [Work.deliver, Session.note_fst, h.peer]
  routerName := by
    simp only [Work.deliver, Session.note_fst, h.routerName, List.filterMap_append,
      List.filterMap_cons, List.filterMap_nil, Bmp.Packet.systemName?]
    cases p.message.systemName? <;> simp
  packets := by simp [Work.deliver, Session.note_fst, h.packets]
  frames := by simp only [Work.deliver, Session.note_fst, h.frames]

end Books

/-! ### The ledger -/

/-- What is settled ends with a packet, or is nothing. -/
def Landed (settled : List Segment) : Prop := ∀ x ∈ settled.getLast?, x.isPacket = true

lemma landed_nil : Landed [] := by simp [Landed]

lemma landed_packet (segments : List Segment) (frame : Octets) (p : Bmp.Packet) :
    Landed (segments ++ [.packet frame p]) := by
  simp [Landed, Segment.isPacket]

/-- The stream as far as it has been looked at, and what the session has made of it. Packets are
handed on at once; the counters lie behind by the segments that are pending. -/
structure Ledger (c : Controller) (peer : Endpoint) (bytes : Octets)
    (settled pending : List Segment) (s : Drained) (w : Work) : Prop where
  reached : Drained.Steps ((Drained.start c.config.maxBmpMessageLength).append bytes) s
  accounted : Accounted c.config.maxBmpMessageLength bytes (settled ++ pending) s
  quiet : Segment.Quiet pending
  decoder : w.live.decoder = s.decoder
  books : Books c peer s.packets (Segment.stats settled) w

namespace Ledger

variable {bytes : Octets} {settled pending : List Segment} {s : Drained}

lemma start (c : Controller) (peer : Endpoint) :
    Ledger c peer [] [] [] (Drained.start c.config.maxBmpMessageLength) (start c peer) where
  reached := .refl
  accounted := Bmp.Decoder.accounted_start _ []
  quiet := by simp [Segment.Quiet]
  decoder := rfl
  books := .start c peer

lemma say (h : Ledger c peer bytes settled pending s w) (lines : List Log.Line) :
    Ledger c peer bytes settled pending s (w.say lines) :=
  ⟨h.reached, h.accounted, h.quiet, h.decoder, h.books.say lines⟩

lemma finish (h : Ledger c peer bytes settled pending s w) (how : SessionEnd) :
    Ledger c peer bytes settled pending s (w.finish how) :=
  ⟨h.reached, h.accounted, h.quiet, h.decoder, h.books.finish how⟩

lemma settle (h : Ledger c peer bytes settled pending s w) :
    Ledger c peer bytes (settled ++ pending) [] s w.settle where
  reached := h.reached
  accounted := by
    rw [List.append_nil]
    exact h.accounted
  quiet := by simp [Segment.Quiet]
  decoder := h.decoder
  books := by
    have hstats : w.live.decoder.stats = Segment.stats (settled ++ pending) := by
      rw [h.decoder, h.accounted.stats]
    rw [← hstats]
    refine h.books.settle ?_
    rw [hstats]
    simp [Segment.stats]

lemma receive (h : Ledger c peer bytes settled pending s w) (chunk : Octets) :
    Ledger c peer (bytes ++ chunk) settled pending (s.append chunk)
      { w with live.buffer := w.live.buffer ++ chunk } where
  reached := by
    have := h.reached.append chunk
    rwa [Drained.append, Drained.append, List.append_assoc] at this
  accounted := h.accounted.append chunk
  quiet := h.quiet
  decoder := h.decoder
  books := h.books.withLive rfl

/-- A call without a packet leaves more pending. -/
lemma call_none (h : Ledger c peer bytes settled pending s w)
    (hnone : (s.decoder.decode s.buffer).packet = none) :
    ∃ more, Ledger c peer bytes settled (pending ++ more)
      (s.after (s.decoder.decode s.buffer)) (w.called (s.decoder.decode s.buffer)) := by
  obtain ⟨more, hquiet, haccounted⟩ := h.accounted.decode_none hnone
  rw [List.append_assoc] at haccounted
  refine ⟨more, h.reached.trans (Drained.decode_steps s), haccounted, ?_, rfl, ?_⟩
  · exact fun x hx => (List.mem_append.mp hx).elim (h.quiet x) (hquiet x)
  · have := h.books.called (s.decoder.decode s.buffer)
    simpa [Drained.after, hnone] using this

/-- A call with a packet settles everything up to it, and the packet is handed on. -/
lemma call_some (h : Ledger c peer bytes settled pending s w)
    (hsome : (s.decoder.decode s.buffer).packet = some p) :
    ∃ segments frame, Ledger c peer bytes (segments ++ [.packet frame p]) []
      (s.after (s.decoder.decode s.buffer))
      ((w.called (s.decoder.decode s.buffer)).settle.deliver p) := by
  obtain ⟨more, frame, -, haccounted⟩ := h.accounted.decode_some hsome
  set r := s.decoder.decode s.buffer with hr
  have hstats : (w.called r).live.decoder.stats =
      Segment.stats (settled ++ pending ++ (more ++ [.packet frame p])) := haccounted.stats
  refine ⟨settled ++ pending ++ more, frame, h.reached.trans (Drained.decode_steps s), ?_,
    by simp [Segment.Quiet], rfl, ?_⟩
  · simpa using haccounted
  · have hsettled := (h.books.called r).settle (by rw [hstats]; simp [Segment.stats])
    have := hsettled.deliver p
    rw [hstats] at this
    simpa [Drained.after, hsome] using this

end Ledger

/-! ### Waiting and over -/

/-- The session has seen all that the bytes so far give, and waits for more. -/
structure Waiting (c : Controller) (peer : Endpoint) (bytes : Octets)
    (settled pending : List Segment) (s : Drained) (w : Work) : Prop
    extends Ledger c peer bytes settled pending s w where
  landed : Landed settled
  going : w.live.ended = none
  buffer : w.live.buffer = s.buffer
  idle : s.step = none

/-- The session is over. Only one that was told to stop leaves anything unsettled. -/
structure Over (c : Controller) (peer : Endpoint) (bytes : Octets)
    (settled pending : List Segment) (s : Drained) (how : SessionEnd) (w : Work) : Prop
    extends Ledger c peer bytes settled pending s w where
  ended : w.live.ended = some how
  state : w.live.session.state = .disconnected
  cancelled : how = .cancelled → Landed settled
  complete : how ≠ .cancelled → pending = [] ∧ s.step = none

variable {bytes : Octets} {settled pending : List Segment} {s : Drained} {n : Nat}
  {call : Bmp.Decoder → Octets → Decoded}

lemma waiting_start (c : Controller) (peer : Endpoint) :
    Waiting c peer [] [] [] (Drained.start c.config.maxBmpMessageLength) (start c peer) where
  toLedger := .start c peer
  landed := landed_nil
  going := rfl
  buffer := rfl
  idle := Drained.step_short (show 0 < Bmp.commonHeaderLength by decide)

lemma Ledger.cancel (h : Ledger c peer bytes settled pending s w) (landed : Landed settled) :
    Over c peer bytes settled pending s .cancelled (w.finish .cancelled) where
  toLedger := h.finish .cancelled
  ended := rfl
  state := rfl
  cancelled _ := landed
  complete h := absurd rfl h

lemma Ledger.complete (h : Ledger c peer bytes settled [] s w) (idle : s.step = none)
    {how : SessionEnd} (hhow : how ≠ .cancelled) :
    Over c peer bytes settled [] s how (w.finish how) where
  toLedger := h.finish how
  ended := rfl
  state := rfl
  cancelled h := absurd h hhow
  complete _ := ⟨rfl, idle⟩

lemma pump_of_none (h : (call w.live.decoder w.live.buffer).packet = none) :
    pump call (n + 1) w = w.called (call w.live.decoder w.live.buffer) := by
  simp [pump, h, called]

lemma pump_of_some (h : (call w.live.decoder w.live.buffer).packet = some p) :
    pump call (n + 1) w =
      let w' := (w.called (call w.live.decoder w.live.buffer)).settle.deliver p
      if w.live.stopping then w'.finish .cancelled else pump call n w' := by
  simp only [pump, h]
  rfl

/-- Pumping hands on packets until none is left, or until the session sees that it is to stop. -/
lemma pump_decode (h : Ledger c peer bytes settled pending s w) (landed : Landed settled)
    (going : w.live.ended = none) (buffer : w.live.buffer = s.buffer)
    (enough : s.buffer.length < n) :
    ∃ settled pending s, (Waiting c peer bytes settled pending s (pump Bmp.Decoder.decode n w) ∧
        (pump Bmp.Decoder.decode n w).live.stopping = w.live.stopping) ∨
      (w.live.stopping = true ∧
        Over c peer bytes settled pending s .cancelled (pump Bmp.Decoder.decode n w)) := by
  -- on the rounds: there are more of them than bytes, and each packet takes bytes
  induction n generalizing settled pending s w with
  | zero => omega
  | succ n ih =>
    have hcall : Bmp.Decoder.decode w.live.decoder w.live.buffer =
        s.decoder.decode s.buffer := by
      rw [h.decoder, buffer]
    cases hp : (s.decoder.decode s.buffer).packet with
    | none =>
      obtain ⟨more, hledger⟩ := h.call_none hp
      rw [pump_of_none (by rw [hcall, hp]), hcall]
      exact ⟨settled, pending ++ more, _, .inl ⟨⟨hledger, landed, going, rfl,
        Drained.step_decode s hp⟩, rfl⟩⟩
    | some p =>
      obtain ⟨segments, frame, hledger⟩ := h.call_some hp
      have hlanded := landed_packet segments frame p
      have hshorter := Bmp.Decoder.decode_shorter hp
      rw [pump_of_some (by rw [hcall, hp]), hcall]
      dsimp only
      split_ifs with hstop
      · exact ⟨_, _, _, .inr ⟨hstop, hledger.cancel hlanded⟩⟩
      · exact ih hledger hlanded going rfl (Nat.lt_of_lt_of_le hshorter (Nat.le_of_lt_succ enough))

/-! ### Events -/

/-- Where the decoder waits, the end of the stream brings no packet either. -/
lemma decodeEof_idle (idle : s.step = none) :
    (s.decoder.decodeEof s.buffer).packet = none ∧
      (s.decoder.decodeEof s.buffer).decoder = s.decoder := by
  rw [Bmp.Decoder.decodeEof_packet]
  unfold Bmp.Decoder.decodeEof
  rw [Drained.decode_idle idle]
  dsimp only
  split_ifs <;> exact ⟨rfl, rfl⟩

namespace Waiting

lemma feed (h : Waiting c peer bytes settled pending s w) (chunk : Octets) :
    ∃ settled pending s,
      (Waiting c peer (bytes ++ chunk) settled pending s (w.handle (.bytes chunk)) ∧
        (w.handle (.bytes chunk)).live.stopping = w.live.stopping) ∨
      (w.live.stopping = true ∧
        Over c peer (bytes ++ chunk) settled pending s .cancelled (w.handle (.bytes chunk))) := by
  have hhandle : w.handle (.bytes chunk) =
      pumpAll Bmp.Decoder.decode { w with live.buffer := w.live.buffer ++ chunk } := by
    simp [handle, h.going]
  rw [hhandle]
  refine pump_decode (h.receive chunk) h.landed h.going ?_ ?_
  · simp [Drained.append, h.buffer]
  · simp [Drained.append, h.buffer]

lemma closed (h : Waiting c peer bytes settled pending s w) :
    Over c peer bytes (settled ++ pending) [] s .peerClosed (w.handle .closed) := by
  have hcall : Bmp.Decoder.decodeEof w.live.decoder w.live.buffer =
      s.decoder.decodeEof s.buffer := by
    rw [h.decoder, h.buffer]
  obtain ⟨hnone, hdecoder⟩ := decodeEof_idle h.idle
  set r := s.decoder.decodeEof s.buffer
  have hpump : w.pumpAll Bmp.Decoder.decodeEof = w.called r := by
    rw [pumpAll, pump_of_none (by rw [hcall, hnone]), hcall]
  have hgoing : (w.called r).live.ended.isSome = false := by
    rw [show (w.called r).live.ended = w.live.ended from rfl, h.going, Option.isSome_none]
  have hhandle : w.handle .closed = (w.called r).settle.finish .peerClosed := by
    simp [handle, h.going, hpump, hgoing]
  have hledger : Ledger c peer bytes settled pending s (w.called r) :=
    ⟨h.reached, h.accounted, h.quiet, hdecoder, h.books.called r⟩
  rw [hhandle]
  exact hledger.settle.complete h.idle nofun

lemma failed (h : Waiting c peer bytes settled pending s w) (reason : String) :
    Over c peer bytes (settled ++ pending) [] s .transportError (w.handle (.failed reason)) := by
  have hhandle : w.handle (.failed reason) =
      (w.settle.say [w.live.session.remark .warn ("BMP transport error: " ++ reason)]).finish
        .transportError := by
    simp [handle, h.going]
  rw [hhandle]
  exact (h.settle.say _).complete h.idle nofun

lemma stopNow (h : Waiting c peer bytes settled pending s w) :
    Over c peer bytes settled pending s .cancelled (w.handle .stopNow) := by
  have hhandle : w.handle .stopNow = w.finish .cancelled := by simp [handle, h.going]
  rw [hhandle]
  exact h.cancel h.landed

lemma stopSoon (h : Waiting c peer bytes settled pending s w) :
    Waiting c peer bytes settled pending s (w.handle .stopSoon) := by
  have hhandle : w.handle .stopSoon = { w with live.stopping := true } := by
    simp [handle, h.going]
  rw [hhandle]
  exact ⟨⟨h.reached, h.accounted, h.quiet, h.decoder, h.books.withLive rfl⟩, h.landed, h.going,
    h.buffer, h.idle⟩

end Waiting

lemma Over.handle {how : SessionEnd} (h : Over c peer bytes settled pending s how w)
    (e : SessionEvent) : w.handle e = w := by
  simp [Work.handle, h.ended]

def received : SessionEvent → Octets
  | .bytes bs => bs
  | _ => []

lemma Waiting.step (h : Waiting c peer bytes settled pending s w) (e : SessionEvent) :
    ∃ settled pending s,
      Waiting c peer (bytes ++ received e) settled pending s (w.handle e) ∨
        ∃ how, Over c peer (bytes ++ received e) settled pending s how (w.handle e) := by
  cases e with
  | bytes chunk =>
    obtain ⟨settled, pending, s, ⟨h, -⟩ | ⟨-, h⟩⟩ := h.feed chunk
    · exact ⟨settled, pending, s, .inl h⟩
    · exact ⟨settled, pending, s, .inr ⟨_, h⟩⟩
  | closed => exact ⟨_, _, _, .inr ⟨_, by simpa [received] using h.closed⟩⟩
  | failed reason => exact ⟨_, _, _, .inr ⟨_, by simpa [received] using h.failed reason⟩⟩
  | stopSoon => exact ⟨_, _, _, .inl (by simpa [received] using h.stopSoon)⟩
  | stopNow => exact ⟨_, _, _, .inr ⟨_, by simpa [received] using h.stopNow⟩⟩

/-- Whatever happens to a session, it waits for more with all bytes looked at, or it is over and
has looked at the first of them. -/
lemma run_stands (c : Controller) (peer : Endpoint) (stopped : Bool)
    (events : List SessionEvent) :
    ∃ bytes settled pending s,
      (bytes = events.flatMap received ∧
        Waiting c peer bytes settled pending s (run c peer stopped events)) ∨
      (bytes <+: events.flatMap received ∧
        ∃ how, Over c peer bytes settled pending s how (run c peer stopped events)) := by
  cases stopped with
  | true =>
    exact ⟨[], [], [], _, .inr ⟨by simp, _, (Ledger.start c peer).cancel landed_nil⟩⟩
  | false =>
    simp only [run, Bool.false_eq_true, if_false]
    induction events using List.reverseRecOn with
    | nil => exact ⟨[], [], [], _, .inl ⟨rfl, waiting_start c peer⟩⟩
    | append_singleton events e ih =>
      rw [List.foldl_append, List.foldl_cons, List.foldl_nil, List.flatMap_append,
        List.flatMap_singleton]
      -- a session that waits has missed no event; one that is over takes no notice of any
      obtain ⟨bytes, settled, pending, s, ⟨rfl, h⟩ | ⟨hfirst, how, h⟩⟩ := ih
      · obtain ⟨settled, pending, s, h | h⟩ := h.step e
        · exact ⟨_, settled, pending, s, .inl ⟨rfl, h⟩⟩
        · exact ⟨_, settled, pending, s, .inr ⟨List.prefix_rfl, h⟩⟩
      · refine ⟨bytes, settled, pending, s, .inr ⟨hfirst.trans (List.prefix_append _ _), how, ?_⟩⟩
        rwa [h.handle]

end LiveSession

end Station

end Telemetry
