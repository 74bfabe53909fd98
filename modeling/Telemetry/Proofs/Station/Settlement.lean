import Telemetry.Proofs.Station.Sessions

/-!
Which dropped frames are counted.

The decoder drops frames before it asks for more bytes, and the session takes its counters over
when it sees a packet, the end or a failure. In between, what has been dropped since the last
packet is known to the decoder alone. A session that is told to stop while it waits takes it along.
-/

namespace Telemetry

namespace Bmp.Decoder.Segment

/-- Every segment is of one kind, so the counters add up to the number of segments. -/
lemma length_eq_stats (segments : List Segment) : segments.length =
    (stats segments).decoded + (stats segments).dropped + (stats segments).skipped := by
  simp only [stats]
  induction segments with
  | nil => rfl
  | cons x xs ih =>
    simp only [List.length_cons, List.countP_cons, ih]
    cases x <;> simp only [isPacket, isMalformed, isSkipped] <;> simp <;> omega

lemma stats_append_eq_iff (segments more : List Segment) :
    stats segments = stats (segments ++ more) ↔ more = [] := by
  refine ⟨fun h => ?_, fun h => by rw [h, List.append_nil]⟩
  have hlength := length_eq_stats (segments ++ more)
  rw [← h, ← length_eq_stats segments, List.length_append] at hlength
  exact List.length_eq_zero_iff.mp (by omega)

end Bmp.Decoder.Segment

namespace Station.LiveSession

open Bmp.Decoder (Segment Segmented)

variable {c : Controller} {peer : Endpoint} {bytes : Octets} {settled pending : List Segment}
  {s : Bmp.Decoder.Drained} {w : Work}

lemma Ledger.framesDropped (h : Ledger c peer bytes settled pending s w) :
    w.controller.counters.framesDropped =
      c.counters.framesDropped + settled.countP Segment.isMalformed := by
  rw [h.books.controller]
  exact congrArg (· + _) (Controller.counters_dispatchAll _).2

lemma Ledger.stats (h : Ledger c peer bytes settled pending s w) :
    w.live.decoder.stats = Segment.stats (settled ++ pending) := by
  rw [h.decoder, h.accounted.stats]

lemma Ledger.counts (h : Ledger c peer bytes settled pending s w) :
    (settled ++ pending).flatMap Segment.bytes ++ s.buffer = bytes ∧
      Segmented c.config.maxBmpMessageLength (settled ++ pending) w.live.decoder.resyncing ∧
      w.live.decoder.stats = Segment.stats (settled ++ pending) ∧
      w.live.session.frames = Segment.stats settled ∧
      w.controller.counters.framesDropped =
        c.counters.framesDropped + settled.countP Segment.isMalformed ∧
      Segment.Quiet pending := by
  refine ⟨h.accounted.bytes.symm, ?_, h.stats, h.books.frames, h.framesDropped, h.quiet⟩
  rw [h.decoder]
  exact h.accounted.segmented

/-- **Dropped frames are counted up to the last packet, and to the end of a stream that ends.** The
bytes that a session has looked at are segments that are settled and segments that are pending, and
then bytes of which nothing can be said yet. The decoder has counted all segments; the session and
the controller have counted the settled ones. No packet is pending. When the stream ends or fails
nothing is pending at all; a session that is told to stop, or that waits, has settled what there is
up to its last packet. So its statistics are those of the decoder exactly when nothing is pending,
and the controller has missed no dropped frame exactly when none is. -/
theorem run_settles (c : Controller) (peer : Endpoint) (stopped : Bool)
    (events : List SessionEvent) :
    let w := run c peer stopped events
    ∃ settled pending left,
      (settled ++ pending).flatMap Segment.bytes ++ left <+: events.flatMap received ∧
      Segmented c.config.maxBmpMessageLength (settled ++ pending) w.live.decoder.resyncing ∧
      w.live.decoder.stats = Segment.stats (settled ++ pending) ∧
      w.live.session.frames = Segment.stats settled ∧
      w.controller.counters.framesDropped =
        c.counters.framesDropped + settled.countP Segment.isMalformed ∧
      Segment.Quiet pending ∧
      (∀ how, w.live.ended = some how → how ≠ .cancelled → pending = []) ∧
      (w.live.ended = none ∨ w.live.ended = some .cancelled → Landed settled) ∧
      (w.live.session.frames = w.live.decoder.stats ↔ pending = []) ∧
      (w.controller.counters.framesDropped =
          c.counters.framesDropped + w.live.decoder.stats.dropped ↔
        ∀ x ∈ pending, x.isMalformed = false) := by
  intro w
  obtain ⟨bytes, settled, pending, s, hstands⟩ := run_stands c peer stopped events
  have hledger : Ledger c peer bytes settled pending s w :=
    hstands.elim (·.2.toLedger) fun ⟨_, _, h⟩ => h.toLedger
  obtain ⟨hbytes, hsegmented, hstats, hframes, hdropped, hquiet⟩ := hledger.counts
  refine ⟨settled, pending, s.buffer, ?_, hsegmented, hstats, hframes, hdropped, hquiet, ?_, ?_,
    ?_, ?_⟩
  · rw [hbytes]
    exact hstands.elim (fun h => h.1 ▸ List.prefix_rfl) (·.1)
  · intro how hended hhow
    rcases hstands with ⟨-, h⟩ | ⟨-, how', h⟩
    · cases h.going.symm.trans hended
    · cases h.ended.symm.trans hended
      exact (h.complete hhow).1
  · rintro hended
    rcases hstands with ⟨-, h⟩ | ⟨-, how, h⟩
    · exact h.landed
    · refine h.cancelled ?_
      rw [h.ended] at hended
      simpa using hended
  · rw [hframes, hstats]
    exact Segment.stats_append_eq_iff settled pending
  · rw [hdropped, hstats]
    simp [Segment.stats]

/-- A session that reads a message without content and a frame that is no message behind it, and
what happens then. -/
def behindMalformed (last : SessionEvent) : Work :=
  run (.new .loopback) (.ofIp Config.localhost 40000) false
    [.bytes [3, 0, 0, 0, 6, 4, 3, 0, 0, 0, 7, 4, 0], last]

/-- At the end of the stream the frame is counted. -/
theorem run_settles_closed :
    (behindMalformed .closed).live.ended = some .peerClosed ∧
      (behindMalformed .closed).live.decoder.stats = ⟨1, 1, 0⟩ ∧
      (behindMalformed .closed).controller.counters.framesDropped =
        0 + (behindMalformed .closed).live.decoder.stats.dropped ∧
      (behindMalformed .closed).live.session.frames =
        (behindMalformed .closed).live.decoder.stats := by
  have hended : (behindMalformed .closed).live.ended = some .peerClosed := by decide +kernel
  obtain ⟨settled, pending, left, -, -, -, -, -, -, hcomplete, -, hframes, hcount⟩ :=
    run_settles (.new .loopback) (.ofIp Config.localhost 40000) false
      [.bytes [3, 0, 0, 0, 6, 4, 3, 0, 0, 0, 7, 4, 0], .closed]
  obtain rfl := hcomplete _ hended nofun
  exact ⟨hended, by decide +kernel, hcount.mpr (by simp), hframes.mpr rfl⟩

/-- A session that is told to stop while it waits takes the frame along: the decoder has dropped
it, and neither the session nor the controller has counted it. -/
theorem run_settles_not_waiting :
    (behindMalformed .stopNow).live.ended = some .cancelled ∧
      (behindMalformed .stopNow).live.decoder.stats = ⟨1, 1, 0⟩ ∧
      (behindMalformed .stopNow).controller.counters.framesDropped = 0 ∧
      (behindMalformed .stopNow).live.session.frames = ⟨1, 0, 0⟩ := by
  decide +kernel

end Station.LiveSession

end Telemetry
