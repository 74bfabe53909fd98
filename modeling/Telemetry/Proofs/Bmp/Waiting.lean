import Telemetry.Proofs.Bmp.Chunks

/-!
What a decoder waits for, and how much it holds meanwhile.

A call without a packet ends where no look is possible. There the bytes left are fewer than a
header has, or they begin with a plausible header whose frame is longer than they are; and a
plausible header declares no more than the limit. So whatever lengths a sender writes, the bytes
that wait stay below the limit. And no call waits for anything else: a look that goes on takes a
byte, so the looks of a call come to an end by themselves.
-/

namespace Telemetry.Bmp.Decoder

open Telemetry.Bmp.Frame

/-- The bytes are too few for a header, or they begin a frame within the limit and are too few for
it. -/
structure Waits (limit : Nat) (left : Octets) : Prop where
  few : left.length < max commonHeaderLength limit
  begun : commonHeaderLength ≤ left.length →
    ∃ n, plausibleLength? limit (left.take commonHeaderLength) = some n ∧
      left.length < n ∧ n ≤ limit

section

variable {limit n : Nat} {left : Octets}

lemma waits_of_short (few : left.length < commonHeaderLength) : Waits limit left where
  few := few.trans_le (le_max_left _ _)
  begun enough := absurd enough (Nat.not_le_of_lt few)

/-- A plausible header bounds what is waited for behind it. -/
lemma waits_of_begun (some : plausibleLength? limit (left.take commonHeaderLength) = some n)
    (few : left.length < n) : Waits limit left := by
  have within : n ≤ limit := by
    obtain ⟨a, b, c, d, type, -, -, -, -, hn⟩ := plausibleLength?_eq_some.mp some
    exact hn
  have hlimit : left.length < limit := few.trans_le within
  exact ⟨hlimit.trans_le (le_max_right _ _), fun _ => ⟨n, some, few, within⟩⟩

end

namespace Drained

variable {s t : Drained}

lemma Steps.limit (h : Steps s t) : t.decoder.maxLength = s.decoder.maxLength := by
  induction h with
  | refl => rfl
  | tail _ last ih =>
    rw [← ih]
    cases moves_of_step last with
    | garbage | bogus | accept | drop => rfl

/-- Where no look is possible there is a reason to wait. -/
lemma waits_of_idle (idle : s.step = none) : Waits s.decoder.maxLength s.buffer := by
  cases front s.decoder.maxLength s.buffer with
  | short few => exact waits_of_short few
  | garbage enough none =>
    rw [step_garbage enough none] at idle
    cases idle
  | begun enough some few => exact waits_of_begun some few
  | @whole frame rest split complete =>
    cases hread : (Packet.read.run frame).1 with
    | ok p =>
      rw [step_accept split complete (packet?_eq_some.mpr hread)] at idle
      cases idle
    | error e =>
      rw [step_rejected split complete hread] at idle
      cases idle

lemma Steps.waits (h : Steps s t) (idle : t.step = none) :
    Waits s.decoder.maxLength t.buffer := by
  have hwaits := waits_of_idle idle
  rwa [h.limit] at hwaits

end Drained

variable {d : Decoder} {buffer : Octets}

lemma decode_limit (d : Decoder) (buffer : Octets) :
    (d.decode buffer).decoder.maxLength = d.maxLength :=
  (Drained.decode_steps ⟨[], d, buffer, []⟩).limit

lemma decode_waits (h : (d.decode buffer).packet = none) :
    Waits d.maxLength (d.decode buffer).buffer :=
  (Drained.decode_steps ⟨[], d, buffer, []⟩).waits (Drained.step_decode _ h)

lemma drain_waits (d : Decoder) (buffer : Octets) : Waits d.maxLength (d.drain buffer).buffer := by
  obtain ⟨hrun, hend⟩ := drain_steps ⟨[], d, buffer, []⟩
  exact hrun.waits hend

/-- The bound on the looks of a call is never what ends it. -/
lemma looks_eq_decode {n : Nat} (hn : buffer.length ≤ n) :
    looks n d buffer [] = d.decode buffer := by
  have hcall := Drained.looks_call n ⟨[], d, buffer, []⟩ [] [] rfl hn
  exact Drained.after_injective _ (hcall.unique (Drained.decode_call _))

/-- **What waits is bounded, and waits for a reason.** In any state of the decoder, a call without a
packet leaves fewer bytes than the limit, or than a header where the limit is below that. If they
are enough for a header they begin with a plausible one, which declares more than is left and no
more than the limit. The limit stays what it is, so that after every drain, whatever has been fed,
fewer bytes than that are held. And each call ends by itself: it is a row of looks of which each
that goes on takes a byte, up to a packet or to where no look is possible, and a larger bound on
their number changes nothing. -/
theorem decode_justified (d : Decoder) (buffer : Octets) :
    let call := d.decode buffer
    let s : Drained := ⟨[], d, buffer, []⟩
    (call.packet = none →
      call.buffer.length < max commonHeaderLength d.maxLength ∧
        (commonHeaderLength ≤ call.buffer.length →
          ∃ n, plausibleLength? d.maxLength (call.buffer.take commonHeaderLength) = some n ∧
            call.buffer.length < n ∧ n ≤ d.maxLength)) ∧
      call.decoder.maxLength = d.maxLength ∧
      (∀ chunks : List Octets, (chunks.foldl Drained.feed (d.drain buffer)).buffer.length <
        max commonHeaderLength d.maxLength) ∧
      Drained.Call s (s.after call) ∧
      (∀ t u : Drained, t.step = some u → u.buffer.length < t.buffer.length) ∧
      ∀ n, buffer.length ≤ n → looks n d buffer [] = call := by
  intro call s
  refine ⟨fun hnone => ?_, decode_limit d buffer, fun chunks => ?_, Drained.decode_call s,
    fun t u => Drained.step_shorter, fun n hn => looks_eq_decode hn⟩
  · have hwaits : Waits d.maxLength call.buffer := decode_waits hnone
    exact ⟨hwaits.few, hwaits.begun⟩
  · rw [foldl_feed]
    exact (drain_waits d _).few

/-- A header that declares all that four bytes can say is passed over; behind it, one that declares
a whole limit is waited for with what has come of its frame. -/
theorem decode_justified_oversized :
    let d := new 1024
    let oversized : Octets := [3, 255, 255, 255, 255, 0]
    let begun : Octets := [3, 0, 0, 4, 0, 5, 7, 7]
    let call := d.decode (oversized ++ begun)
    call.packet = none ∧ call.buffer = begun ∧
      (∃ n, plausibleLength? 1024 (begun.take commonHeaderLength) = some n ∧
        begun.length < n ∧ n ≤ 1024) ∧
      (Drained.feed (d.drain oversized) begun).buffer.length < 1024 ∧
      looks 100 d (oversized ++ begun) [] = call := by
  intro d oversized begun call
  have hcall : call.packet = none ∧ call.buffer = begun := by decide
  obtain ⟨hleft, -, -, -, -, hlooks⟩ := decode_justified d (oversized ++ begun)
  obtain ⟨-, hbegun⟩ := hleft hcall.1
  rw [show (d.decode (oversized ++ begun)).buffer = begun from hcall.2] at hbegun
  obtain ⟨-, -, hfed, -⟩ := decode_justified d oversized
  exact ⟨hcall.1, hcall.2, hbegun (by decide), hfed [begun], hlooks 100 (by decide)⟩

end Telemetry.Bmp.Decoder
