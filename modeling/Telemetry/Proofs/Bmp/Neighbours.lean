import Telemetry.Proofs.Bmp.Chunks

/-!
A malformed message costs its neighbours nothing.

In sync, a whole frame is consumed to its declared end whatever its content does, and the decoder
stays in sync. So a stream of whole frames is decoded frame by frame, whatever stands inside them.
-/

namespace Telemetry.Bmp.Decoder

open Telemetry.Bmp.Frame

def countFrames (stats : Stats) (frames : List Octets) : Stats :=
  ⟨stats.decoded + frames.countP fun f => (packet? f).isSome,
    stats.dropped + frames.countP fun f => (packet? f).isNone, stats.skipped⟩

variable {s : Drained} {frame : Octets}

/-- In sync, one look consumes the frame and nothing else. -/
lemma frame_step (rest : Octets) (inSync : s.decoder.resyncing = false)
    (complete : Complete s.decoder.maxLength frame) (split : s.buffer = frame ++ rest) :
    ∃ t, s.step = some t ∧ t.packets = s.packets ++ (packet? frame).toList ∧
      t.decoder = { s.decoder with stats := countFrames s.decoder.stats [frame] } ∧
      t.buffer = rest := by
  cases hread : packet? frame with
  | some p =>
    refine ⟨_, Drained.step_accept split complete hread, rfl, ?_, ?_⟩
    · simp [Drained.accept, Decoder.accept, countFrames, hread, inSync]
    · simp [Drained.accept, split]
  | none =>
    obtain ⟨e, he⟩ := packet?_eq_none.mp hread
    have hstep := Drained.step_rejected split complete he
    rw [inSync] at hstep
    refine ⟨_, hstep, ?_, ?_, ?_⟩
    · simp [Drained.drop]
    · simp [Drained.drop, Decoder.drop, countFrames, hread]
    · simp [Drained.drop, split]

lemma frames_steps (frames : List Octets) (rest : Octets) (s : Drained)
    (inSync : s.decoder.resyncing = false)
    (complete : ∀ f ∈ frames, Complete s.decoder.maxLength f)
    (split : s.buffer = frames.flatten ++ rest) :
    ∃ t, Drained.Steps s t ∧ t.packets = s.packets ++ frames.filterMap packet? ∧
      t.decoder = { s.decoder with stats := countFrames s.decoder.stats frames } ∧
      t.buffer = rest := by
  induction frames generalizing s with
  | nil => exact ⟨s, .refl, by simp, by simp [countFrames], by simpa using split⟩
  | cons f frames ih =>
    obtain ⟨t, hstep, hpackets, hdecoder, hbuffer⟩ :=
      frame_step (frames.flatten ++ rest) inSync (complete f (by simp))
        (by simp [split])
    obtain ⟨u, hrun, hpackets', hdecoder', hbuffer'⟩ := ih t (by simp [hdecoder, inSync])
      (fun g hg => by rw [hdecoder]; exact complete g (by simp [hg])) hbuffer
    refine ⟨u, .head hstep hrun, ?_, ?_, hbuffer'⟩
    · rw [hpackets', hpackets]
      cases hread : packet? f <;> simp [hread]
    · rw [hdecoder', hdecoder]
      cases hread : packet? f <;> simp [countFrames, hread] <;> omega

/-- **A malformed message costs its neighbours nothing.** A fresh decoder that is fed whole frames,
cut into any chunks, gives the packets of the frames that are messages, in order; the others are
counted as dropped, no byte is skipped, and the decoder ends in sync with an empty buffer. -/
theorem frames_chunks (maxLength : Nat) (frames chunks : List Octets)
    (complete : ∀ f ∈ frames, Complete maxLength f) (cut : chunks.flatten = frames.flatten) :
    let r := chunks.foldl Drained.feed (Drained.start maxLength)
    r.packets = frames.filterMap packet? ∧
      r.decoder.stats.decoded = frames.countP (fun f => (packet? f).isSome) ∧
      r.decoder.stats.dropped = frames.countP (fun f => (packet? f).isNone) ∧
      r.decoder.stats.skipped = 0 ∧ r.decoder.resyncing = false ∧ r.buffer = [] := by
  intro r
  obtain ⟨t, hrun, hpackets, hdecoder, hbuffer⟩ :=
    frames_steps frames [] ⟨[], new maxLength, frames.flatten, []⟩ rfl complete (by simp)
  have hend : t.step = none := Drained.step_short (by rw [hbuffer]; decide)
  have hr : r = t := by
    have hdrain := foldl_feed (new maxLength) [] chunks
    rw [List.nil_append, cut] at hdrain
    rw [← drain_unique hrun hend, start_andThen]
    exact hdrain
  rw [hr, hpackets, hdecoder, hbuffer]
  simp [countFrames, new]

/-- One byte at a time: between two messages one that has a whole other message in it, where its
list of TLVs should be. -/
theorem frames_chunks_nested :
    let frames : List Octets :=
      [[3, 0, 0, 0, 6, 4], [3, 0, 0, 0, 12, 5, 3, 0, 0, 0, 6, 4], [3, 0, 0, 0, 6, 4]]
    let chunks := frames.flatten.map fun b => [b]
    let r := chunks.foldl Drained.feed (Drained.start 100)
    (∀ f ∈ frames, Complete 100 f) ∧ chunks.flatten = frames.flatten ∧
      r.packets = [Packet.ofMessage (.initiation []), Packet.ofMessage (.initiation [])] ∧
      r.decoder.stats.dropped = 1 ∧ r.decoder.stats.skipped = 0 := by
  intro frames chunks r
  have complete : ∀ f ∈ frames, Complete 100 f := by
    intro f hf
    simp only [frames, List.mem_cons, List.not_mem_nil, or_false] at hf
    rcases hf with rfl | rfl | rfl
    · exact ⟨0, 0, 0, 6, 4, [], rfl, ⟨.initiationMessage, rfl⟩, by decide, by decide⟩
    · exact ⟨0, 0, 0, 12, 5, [3, 0, 0, 0, 6, 4], rfl, ⟨.terminationMessage, rfl⟩, by decide,
        by decide⟩
    · exact ⟨0, 0, 0, 6, 4, [], rfl, ⟨.initiationMessage, rfl⟩, by decide, by decide⟩
  have cut : chunks.flatten = frames.flatten := by decide
  obtain ⟨hpackets, -, hdropped, hskipped, -⟩ := frames_chunks 100 frames chunks complete cut
  exact ⟨complete, cut, hpackets.trans (by decide), hdropped.trans (by decide), hskipped⟩

end Telemetry.Bmp.Decoder
