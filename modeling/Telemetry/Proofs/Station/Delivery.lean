import Telemetry.Proofs.Bmp.Chunks
import Telemetry.Proofs.Station.Sessions

/-!
What a session hands on.

Nothing is lost between the stream and the listeners, and nothing is added or moved: whatever the
reads look like, the packets are those that a decoder gives which has the whole stream before it.
-/

namespace Telemetry.Station.LiveSession

open Bmp.Decoder (Segment Drained Exhausts decode)

variable {c : Controller} {peer : Endpoint} {bytes : Octets} {settled pending : List Segment}
  {s : Drained} {w : Work}

/-- How a stream ends when nobody stops the session. -/
inductive StreamEnd where
  | closed
  | failed (reason : String)

namespace StreamEnd

def event : StreamEnd → SessionEvent
  | closed => .closed
  | failed reason => .failed reason

def answer : StreamEnd → SessionEnd
  | closed => .peerClosed
  | failed _ => .transportError

end StreamEnd

lemma waiting_reads (c : Controller) (peer : Endpoint) (reads : List Octets) :
    ∃ settled pending s,
      Waiting c peer reads.flatten settled pending s
          ((reads.map SessionEvent.bytes).foldl Work.handle (start c peer)) ∧
        ((reads.map SessionEvent.bytes).foldl Work.handle (start c peer)).live.stopping = false := by
  induction reads using List.reverseRecOn with
  | nil => exact ⟨[], [], _, waiting_start c peer, rfl⟩
  | append_singleton reads chunk ih =>
    obtain ⟨settled, pending, s, h, hstop⟩ := ih
    rw [List.map_append, List.foldl_append, List.map_singleton, List.foldl_cons, List.foldl_nil,
      List.flatten_append, List.flatten_singleton]
    obtain ⟨settled, pending, s, ⟨h, hsame⟩ | ⟨hstop', -⟩⟩ := h.feed chunk
    · exact ⟨settled, pending, s, h, hsame.trans hstop⟩
    · rw [hstop] at hstop'
      cases hstop'

/-- The history of a session whose decoder waits is that of a decoder which has all its bytes. -/
lemma Ledger.drained (h : Ledger c peer bytes settled pending s w) (idle : s.step = none) :
    s = (Bmp.Decoder.new c.config.maxBmpMessageLength).drain bytes := by
  rw [← Bmp.Decoder.drain_unique h.reached idle]
  exact Bmp.Decoder.start_andThen _ _ _

lemma over_reads (c : Controller) (peer : Endpoint) (reads : List Octets) (last : StreamEnd) :
    ∃ settled, Over c peer reads.flatten settled []
      ((Bmp.Decoder.new c.config.maxBmpMessageLength).drain reads.flatten) last.answer
      (run c peer false (reads.map .bytes ++ [last.event])) := by
  obtain ⟨settled, pending, s, h, -⟩ := waiting_reads c peer reads
  obtain rfl := h.drained h.idle
  simp only [run, Bool.false_eq_true, if_false, List.foldl_append, List.foldl_cons, List.foldl_nil]
  cases last with
  | closed => exact ⟨_, h.closed⟩
  | failed reason => exact ⟨_, h.failed reason⟩

/-- **A session delivers its stream in order, whatever the reads look like.** A session that nobody
stops hands on exactly the packets that a fresh decoder with the same limit gives when it has the
whole stream before it, in that order, each to every listener and with the context of the session.
The size of the read buffer cuts the reads, so it does not matter either. At its end the session has
counted the packets, and the controller as well; the router is called what the last initiation with
a system name says first; and the answer is how the stream ended. -/
theorem run_delivers (c : Controller) (peer : Endpoint) (reads : List Octets)
    (last : StreamEnd) :
    let w := run c peer false (reads.map .bytes ++ [last.event])
    let whole := (Bmp.Decoder.new c.config.maxBmpMessageLength).drain reads.flatten
    Exhausts decode (.new c.config.maxBmpMessageLength) reads.flatten whole ∧
      w.trace.calls = (c.dispatchBmp peer whole.packets).2.calls ∧
      w.controller =
        (c.dispatchBmp peer whole.packets).1.recordFramesDropped whole.decoder.stats.dropped ∧
      w.trace.calls.map Call.delivery = (whole.packets.flatMap fun p =>
        c.registrations.map fun r => (r.id, ⟨peer, .bmp⟩, .bmp p)) ∧
      w.live.session.packets = whole.packets.length ∧
      w.controller.counters.packetsDispatched =
        c.counters.packetsDispatched + whole.packets.length ∧
      Bmp.Called whole.packets w.live.session.routerName ∧
      w.live.session.state = .disconnected ∧ w.live.ended = some last.answer := by
  intro w whole
  obtain ⟨settled, h⟩ := over_reads c peer reads last
  have hstats : whole.decoder.stats = Segment.stats settled := by
    rw [h.accounted.stats, List.append_nil]
  have hcontroller := h.books.controller
  rw [← hstats] at hcontroller
  refine ⟨Bmp.Decoder.drain_exhausts _ _, h.books.calls, hcontroller, ?_, h.books.packets, ?_,
    Bmp.called_iff.mpr h.books.routerName.symm, h.state, h.ended⟩
  · rw [h.books.calls, Controller.dispatchBmp, Controller.deliveries_dispatchAll,
      List.flatMap_map]
    simp only [Controller.ids, List.map_map]
    rfl
  · rw [hcontroller]
    refine (Controller.counters_dispatchAll _).1.trans ?_
    rw [List.length_map]

/-- A router calls itself `a`, then `c` with `d` behind it, and then sends an initiation without a
system name. The first two reads end within a message. -/
theorem run_delivers_renamed :
    let reads : List Octets :=
      [[3, 0, 0, 0, 11, 4, 0, 2, 0, 1, 97, 3, 0, 0],
        [0, 21, 4, 0, 1, 0, 1, 98, 0, 2, 0, 1, 99, 0, 2, 0, 1, 100, 3, 0, 0, 0, 11],
        [4, 0, 1, 0, 1, 101]]
    let c := Controller.new .loopback
    let w := run c (.ofIp Config.localhost 40000) false
      (reads.map .bytes ++ [StreamEnd.closed.event])
    w.live.session.routerName = some "c" ∧ w.live.session.packets = 3 ∧
      w.controller.counters.packetsDispatched = 3 ∧ w.live.ended = some .peerClosed := by
  intro reads c
  obtain ⟨-, -, -, -, hpackets, hdispatched, hcalled, -, hended⟩ :=
    run_delivers c (.ofIp Config.localhost 40000) reads .closed
  have hwhole : ((Bmp.Decoder.new c.config.maxBmpMessageLength).drain reads.flatten).packets =
      [.ofMessage (.initiation [⟨.sysName, "a"⟩])] ++
        .ofMessage (.initiation ([⟨.sysDescr, "b"⟩] ++ ⟨.sysName, "c"⟩ :: [⟨.sysName, "d"⟩])) ::
          [.ofMessage (.initiation [⟨.sysDescr, "e"⟩])] := by
    decide +kernel
  rw [hwhole] at hpackets hdispatched hcalled
  refine ⟨hcalled.unique (.last ⟨_, _, rfl, by simp⟩ ?_), hpackets, hdispatched, hended⟩
  simp [Bmp.Packet.ofMessage, Bmp.Message.Nameless]

end Telemetry.Station.LiveSession
