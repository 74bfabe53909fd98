import Telemetry.Proofs.Bmp.Calls

/-!
Every byte of a stream is accounted for.

What has come so far is a row of segments and then the bytes still in the buffer. A segment is a
frame that gave a packet, a frame that was dropped in sync, or one byte skipped; each look that
moves on adds one segment, and the three counters count the three kinds.
-/

namespace Telemetry.Bmp.Decoder

open Telemetry.Bmp.Frame

/-! ### Runs of appends and calls -/

inductive Op where
  | append (chunk : Octets)
  | decode

def Op.bytes : Op → Octets
  | append chunk => chunk
  | decode => []

namespace Drained

def apply (s : Drained) : Op → Drained
  | .append chunk => s.append chunk
  | .decode => s.after (s.decoder.decode s.buffer)

/-- A fresh decoder after a row of operations. -/
def run (maxLength : Nat) (ops : List Op) : Drained := ops.foldl apply (start maxLength)

lemma run_append (maxLength : Nat) (ops : List Op) (op : Op) :
    run maxLength (ops ++ [op]) = (run maxLength ops).apply op := by
  simp [run, List.foldl_append]

/-- What a row of operations reaches is reached by looks, once all its bytes are there. -/
lemma run_steps (maxLength : Nat) (ops : List Op) :
    Steps ((start maxLength).append (ops.flatMap Op.bytes)) (run maxLength ops) := by
  induction ops using List.reverseRecOn with
  | nil => exact .refl
  | append_singleton ops op ih =>
    rw [run_append, List.flatMap_append]
    cases op with
    | append chunk =>
      have := ih.append chunk
      simpa [append, apply, Op.bytes] using this
    | decode =>
      have := ih.trans (decode_steps (run maxLength ops))
      simpa [append, apply, Op.bytes] using this

end Drained

/-! ### Segments -/

inductive Segment where
  /-- A frame, and the packet that it gave. -/
  | packet (frame : Octets) (packet : Packet)
  /-- A frame that gave none. -/
  | malformed (frame : Octets)
  | skipped (byte : UInt8)

namespace Segment

def bytes : Segment → Octets
  | packet frame _ | malformed frame => frame
  | skipped byte => [byte]

def packet? : Segment → Option Packet
  | packet _ p => some p
  | _ => none

def isPacket : Segment → Bool
  | packet .. => true
  | _ => false

def isMalformed : Segment → Bool
  | malformed _ => true
  | _ => false

def isSkipped : Segment → Bool
  | skipped _ => true
  | _ => false

end Segment

/-- What segments there can be, and whether the decoder is searching after them. Only in sync is a
frame dropped whole. -/
inductive Segmented (maxLength : Nat) : List Segment → Bool → Prop where
  | nil : Segmented maxLength [] false
  | packet {segments : List Segment} {searching : Bool} {frame : Octets} {p : Packet}
    (before : Segmented maxLength segments searching) (complete : Complete maxLength frame)
    (read : (Packet.read.run frame).1 = .ok p) :
    Segmented maxLength (segments ++ [.packet frame p]) false
  | malformed {segments : List Segment} {frame : Octets} {e : Error}
    (before : Segmented maxLength segments false) (complete : Complete maxLength frame)
    (rejected : (Packet.read.run frame).1 = .error e) :
    Segmented maxLength (segments ++ [.malformed frame]) false
  | skipped {segments : List Segment} {searching : Bool} {byte : UInt8}
    (before : Segmented maxLength segments searching) :
    Segmented maxLength (segments ++ [.skipped byte]) true

/-- A state of a stream of which `bytes` have come, read as segments. -/
structure Accounted (maxLength : Nat) (bytes : Octets) (segments : List Segment) (s : Drained) :
    Prop where
  limit : s.decoder.maxLength = maxLength
  segmented : Segmented maxLength segments s.decoder.resyncing
  bytes : bytes = segments.flatMap Segment.bytes ++ s.buffer
  packets : s.packets = segments.filterMap Segment.packet?
  decoded : s.decoder.stats.decoded = segments.countP Segment.isPacket
  dropped : s.decoder.stats.dropped = segments.countP Segment.isMalformed
  skipped : s.decoder.stats.skipped = segments.countP Segment.isSkipped

variable {maxLength : Nat} {bytes : Octets} {segments : List Segment} {s t : Drained}

lemma accounted_start (maxLength : Nat) (bytes : Octets) :
    Accounted maxLength bytes [] ((Drained.start maxLength).append bytes) :=
  ⟨rfl, .nil, rfl, rfl, rfl, rfl, rfl⟩

lemma Accounted.skip (h : Accounted maxLength bytes segments s) {byte : UInt8} {rest : Octets}
    (split : s.buffer = byte :: rest) :
    Accounted maxLength bytes (segments ++ [.skipped byte]) s.skip where
  limit := h.limit
  segmented := .skipped h.segmented
  bytes := by simp [h.bytes, Drained.skip, split, Segment.bytes]
  packets := by simp [h.packets, Drained.skip, Segment.packet?]
  decoded := by simp [h.decoded, Drained.skip, Decoder.skip, Segment.isPacket]
  dropped := by simp [h.dropped, Drained.skip, Decoder.skip, Segment.isMalformed]
  skipped := by simp [h.skipped, Drained.skip, Decoder.skip, Segment.isSkipped]

lemma Accounted.accept (h : Accounted maxLength bytes segments s) {frame rest : Octets}
    {p : Packet} (split : s.buffer = frame ++ rest)
    (complete : Complete s.decoder.maxLength frame) (read : packet? frame = some p) :
    Accounted maxLength bytes (segments ++ [.packet frame p]) (s.accept frame.length p) where
  limit := h.limit
  segmented := .packet h.segmented (h.limit ▸ complete) (packet?_eq_some.mp read)
  bytes := by simp [h.bytes, Drained.accept, split, Segment.bytes]
  packets := by simp [h.packets, Drained.accept, Segment.packet?]
  decoded := by simp [h.decoded, Drained.accept, Decoder.accept, Segment.isPacket]
  dropped := by simp [h.dropped, Drained.accept, Decoder.accept, Segment.isMalformed]
  skipped := by simp [h.skipped, Drained.accept, Decoder.accept, Segment.isSkipped]

lemma Accounted.drop (h : Accounted maxLength bytes segments s) {frame rest : Octets} {e : Error}
    (inSync : s.decoder.resyncing = false) (split : s.buffer = frame ++ rest)
    (complete : Complete s.decoder.maxLength frame)
    (rejected : (Packet.read.run frame).1 = .error e) :
    Accounted maxLength bytes (segments ++ [.malformed frame]) (s.drop frame.length e) where
  limit := h.limit
  segmented := by
    have hstill : (s.drop frame.length e).decoder.resyncing = false := inSync
    rw [hstill]
    exact .malformed (inSync ▸ h.segmented) (h.limit ▸ complete) rejected
  bytes := by simp [h.bytes, Drained.drop, split, Segment.bytes]
  packets := by simp [h.packets, Drained.drop, Segment.packet?]
  decoded := by simp [h.decoded, Drained.drop, Decoder.drop, Segment.isPacket]
  dropped := by simp [h.dropped, Drained.drop, Decoder.drop, Segment.isMalformed]
  skipped := by simp [h.skipped, Drained.drop, Decoder.drop, Segment.isSkipped]

lemma Accounted.step (h : Accounted maxLength bytes segments s) (hstep : s.step = some t) :
    ∃ segment, Accounted maxLength bytes (segments ++ [segment]) t := by
  cases Drained.moves_of_step hstep with
  | garbage enough none =>
    obtain ⟨byte, rest, split⟩ := List.exists_cons_of_length_pos
      (Nat.lt_of_lt_of_le (by decide) enough)
    exact ⟨_, h.skip split⟩
  | bogus searching split complete rejected =>
    obtain ⟨byte, rest, split⟩ := List.exists_cons_of_length_pos
      (Nat.lt_of_lt_of_le (complete.length_bounds split).1 (complete.length_bounds split).2)
    exact ⟨_, h.skip split⟩
  | accept split complete read => exact ⟨_, h.accept split complete read⟩
  | drop inSync split complete rejected => exact ⟨_, h.drop inSync split complete rejected⟩

lemma Accounted.extend (h : Accounted maxLength bytes segments s) (hrun : Drained.Steps s t) :
    ∃ more, Accounted maxLength bytes (segments ++ more) t := by
  induction hrun with
  | refl => exact ⟨[], by rwa [List.append_nil]⟩
  | tail _ last ih =>
    obtain ⟨more, h⟩ := ih
    obtain ⟨segment, h⟩ := h.step last
    exact ⟨more ++ [segment], by rwa [← List.append_assoc]⟩

lemma Accounted.steps (h : Accounted maxLength bytes segments s) (hrun : Drained.Steps s t) :
    ∃ segments, Accounted maxLength bytes segments t := by
  obtain ⟨more, h⟩ := h.extend hrun
  exact ⟨_, h⟩

/-- A call that is repeated to the end of the stream leaves no byte. -/
lemma Exhausts.buffer_eof {d : Decoder} {b : Octets} {r : Drained}
    (h : Exhausts decodeEof d b r) : r.buffer = [] := by
  induction h with
  | last none => exact decodeEof_buffer none
  | more some rest ih => exact ih

/-- **Every byte is accounted for.** After any row of appends and calls on a fresh decoder, the
bytes that have come are a row of segments and then the buffer; the packets are those of the
segments, and the counters count them. And a call repeated at the end of the stream ends, with the
buffer empty. -/
theorem run_accounts (maxLength : Nat) (ops : List Op) :
    (∃ segments : List Segment,
      Segmented maxLength segments (Drained.run maxLength ops).decoder.resyncing ∧
      ops.flatMap Op.bytes =
        segments.flatMap Segment.bytes ++ (Drained.run maxLength ops).buffer ∧
      (Drained.run maxLength ops).packets = segments.filterMap Segment.packet? ∧
      (Drained.run maxLength ops).decoder.stats =
        ⟨segments.countP Segment.isPacket, segments.countP Segment.isMalformed,
          segments.countP Segment.isSkipped⟩) ∧
    ∀ (d : Decoder) (b : Octets), ∃ r, Exhausts decodeEof d b r ∧ r.buffer = [] := by
  refine ⟨?_, fun d b => ⟨_, drainEof_exhausts d b, (drainEof_exhausts d b).buffer_eof⟩⟩
  obtain ⟨segments, h⟩ :=
    (accounted_start maxLength (ops.flatMap Op.bytes)).steps (Drained.run_steps maxLength ops)
  refine ⟨segments, h.segmented, h.bytes, h.packets, ?_⟩
  rw [← h.decoded, ← h.dropped, ← h.skipped]

end Telemetry.Bmp.Decoder
