import Telemetry.Proofs.Bmp.Accounting

/-!
What one call of the decoder adds to the account of a stream.

A call passes over segments that gave no packet, and then either stops where no look is possible
or ends with the frame of the packet that it gives. So a call gives all packets that it comes by,
and nothing lies behind the last of them.
-/

namespace Telemetry.Bmp.Decoder

open Telemetry.Bmp.Frame

namespace Drained

variable {s t : Drained} {p : Packet}

lemma decode_idle (idle : s.step = none) :
    s.decoder.decode s.buffer = ⟨none, s.decoder, s.buffer, []⟩ := by
  have hsame : s.after (s.decoder.decode s.buffer) = s := (decode_call s).unique (.wait idle)
  exact after_injective s (hsame.trans (by simp [after]))

lemma decode_lands (h : (s.decoder.decode s.buffer).packet = some p) :
    ∃ u, Steps s u ∧ u.packets = s.packets ∧
      u.step = some (s.after (s.decoder.decode s.buffer)) :=
  (decode_call s).lands (by simp [after, h])

end Drained

variable {maxLength : Nat} {bytes : Octets} {segments more : List Segment} {s t : Drained}
  {p : Packet}

namespace Segment

/-- No packet came of these segments. -/
def Quiet (segments : List Segment) : Prop := ∀ x ∈ segments, x.isPacket = false

lemma quiet_iff : Quiet segments ↔ segments.filterMap packet? = [] := by
  rw [List.filterMap_eq_nil_iff]
  refine forall₂_congr fun x _ => ?_
  cases x <;> simp [isPacket, packet?]

lemma exists_of_packet? {x : Segment} (h : x.packet? = some p) : ∃ frame, x = packet frame p := by
  cases x with
  | packet frame q =>
    cases h
    exact ⟨frame, rfl⟩
  | _ => cases h

end Segment

lemma Accounted.append (h : Accounted maxLength bytes segments s) (chunk : Octets) :
    Accounted maxLength (bytes ++ chunk) segments (s.append chunk) where
  limit := h.limit
  segmented := h.segmented
  bytes := by
    rw [h.bytes, List.append_assoc]
    rfl
  packets := h.packets
  decoded := h.decoded
  dropped := h.dropped
  skipped := h.skipped

/-- The segments that looks add are those of the packets that they give. -/
lemma Accounted.packets_more (h : Accounted maxLength bytes segments s)
    (h' : Accounted maxLength bytes (segments ++ more) t) :
    t.packets = s.packets ++ more.filterMap Segment.packet? := by
  rw [h'.packets, h.packets, List.filterMap_append]

lemma Accounted.decode_none (h : Accounted maxLength bytes segments s)
    (hnone : (s.decoder.decode s.buffer).packet = none) :
    ∃ more, Segment.Quiet more ∧
      Accounted maxLength bytes (segments ++ more) (s.after (s.decoder.decode s.buffer)) := by
  obtain ⟨more, h'⟩ := h.extend (Drained.decode_steps s)
  have hpackets := h.packets_more h'
  simp only [Drained.after, hnone, Option.toList_none, List.append_nil] at hpackets
  exact ⟨more, Segment.quiet_iff.mpr (List.self_eq_append_right.mp hpackets), h'⟩

/-- A call with a packet adds its frame behind segments without. -/
lemma Accounted.decode_some (h : Accounted maxLength bytes segments s)
    (hsome : (s.decoder.decode s.buffer).packet = some p) :
    ∃ more frame, Segment.Quiet more ∧
      Accounted maxLength bytes (segments ++ (more ++ [.packet frame p]))
        (s.after (s.decoder.decode s.buffer)) := by
  obtain ⟨u, hrun, hpackets, hlast⟩ := Drained.decode_lands hsome
  -- the looks before the last add quiet segments, and the last adds the frame of the packet
  obtain ⟨more, hu⟩ := h.extend hrun
  obtain ⟨x, ht⟩ := hu.step hlast
  have hmore := h.packets_more hu
  rw [hpackets] at hmore
  have hx := hu.packets_more ht
  simp only [Drained.after, hsome, Option.toList_some, hpackets] at hx
  obtain ⟨frame, rfl⟩ : ∃ frame, x = .packet frame p := by
    refine Segment.exists_of_packet? ?_
    have hcancel := List.append_cancel_left hx
    cases hpacket : x.packet? with
    | none => simp [hpacket] at hcancel
    | some q => simpa [hpacket, eq_comm] using hcancel
  rw [List.append_assoc] at ht
  exact ⟨more, frame, Segment.quiet_iff.mpr (List.self_eq_append_right.mp hmore), ht⟩

end Telemetry.Bmp.Decoder
