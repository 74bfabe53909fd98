import Telemetry.Proofs.Bmp.Resuming
import Telemetry.Proofs.Station.Sessions

/-!
Reads that are cut elsewhere.

A session that is not told to stop does the same whether its bytes come in one read or in two: a
packet does not wait for the bytes behind it, and where bytes are missing the session goes on as
soon as they come. So nothing about it depends on where its reads are cut.
-/

namespace Telemetry.Station

namespace LiveSession

open Work
open Bmp.Decoder (decode)

def Work.more (w : Work) (chunk : Octets) : Work :=
  { w with live.buffer := w.live.buffer ++ chunk }

variable {w : Work} {m n : Nat} {chunk : Octets} {p : Bmp.Packet}

lemma more_more (w : Work) (first second : Octets) :
    (w.more first).more second = w.more (first ++ second) := by
  simp only [more, List.append_assoc]

/-- As many rounds as there are bytes, and one more, are as good as any number above. -/
lemma pump_enough (hm : w.live.buffer.length < m) (hn : w.live.buffer.length < n) :
    pump decode m w = pump decode n w := by
  induction m generalizing n w with
  | zero => omega
  | succ m ih =>
    obtain ⟨n, rfl⟩ := Nat.exists_eq_succ_of_ne_zero (Nat.ne_zero_of_lt hn)
    cases hp : (decode w.live.decoder w.live.buffer).packet with
    | none => rw [pump_of_none hp, pump_of_none hp]
    | some p =>
      have hshorter := Bmp.Decoder.decode_shorter hp
      rw [pump_of_some hp, pump_of_some hp]
      dsimp only
      split_ifs
      · rfl
      · exact ih (Nat.lt_of_lt_of_le hshorter (Nat.le_of_lt_succ hm))
          (Nat.lt_of_lt_of_le hshorter (Nat.le_of_lt_succ hn))

lemma pump_of_going (going : w.live.stopping = false)
    (hp : (decode w.live.decoder w.live.buffer).packet = some p) :
    pump decode (n + 1) w =
      pump decode n ((w.called (decode w.live.decoder w.live.buffer)).settle.deliver p) := by
  rw [pump_of_some hp]
  exact if_neg (ne_true_of_eq_false going)

lemma pumpAll_of_going (going : w.live.stopping = false)
    (hp : (decode w.live.decoder w.live.buffer).packet = some p) :
    pumpAll decode w =
      pumpAll decode ((w.called (decode w.live.decoder w.live.buffer)).settle.deliver p) := by
  rw [pumpAll, pump_of_going going hp]
  exact pump_enough (Bmp.Decoder.decode_shorter hp) (Nat.lt_succ_self _)

lemma pumpAll_of_none (hp : (decode w.live.decoder w.live.buffer).packet = none) :
    pumpAll decode w = w.called (decode w.live.decoder w.live.buffer) :=
  pump_of_none hp

/-- A call that finds nothing is continued by the next one. -/
lemma pumpAll_called (going : w.live.stopping = false)
    (hp : (decode w.live.decoder w.live.buffer).packet = none) (chunk : Octets) :
    pumpAll decode (w.more chunk) =
      pumpAll decode ((w.called (decode w.live.decoder w.live.buffer)).more chunk) := by
  have hwhole := Bmp.Decoder.decode_append_of_none hp chunk
  set r := decode w.live.decoder w.live.buffer
  have hcalled : (w.more chunk).called (decode w.live.decoder (w.live.buffer ++ chunk)) =
      ((w.called r).more chunk).called (decode r.decoder (r.buffer ++ chunk)) := by
    rw [hwhole]
    simp only [called, more, Work.say, List.map_append, Trace.ofLog_append, Trace.append_assoc]
  -- the two calls find the same packet, or none
  cases hq : (decode r.decoder (r.buffer ++ chunk)).packet with
  | none =>
    rw [pumpAll_of_none (w := w.more chunk) (by rw [more, hwhole]; exact hq),
      pumpAll_of_none (w := (w.called r).more chunk) hq]
    exact hcalled
  | some q =>
    rw [pumpAll_of_going (w := w.more chunk) going (by rw [more, hwhole]; exact hq),
      pumpAll_of_going (w := (w.called r).more chunk) going hq]
    exact congrArg (fun v : Work => pumpAll decode (v.settle.deliver q)) hcalled

/-- A packet is handed on whatever lies behind it. -/
lemma pumpAll_delivered (going : w.live.stopping = false)
    (hp : (decode w.live.decoder w.live.buffer).packet = some p) (chunk : Octets) :
    pumpAll decode (w.more chunk) = pumpAll decode
      (((w.called (decode w.live.decoder w.live.buffer)).settle.deliver p).more chunk) := by
  have hwhole := Bmp.Decoder.decode_append_of_some hp chunk
  have hcalled : (w.more chunk).called (decode w.live.decoder (w.live.buffer ++ chunk)) =
      (w.called (decode w.live.decoder w.live.buffer)).more chunk := by
    rw [hwhole]
    rfl
  rw [pumpAll_of_going (w := w.more chunk) going (by rw [more, hwhole]; exact hp)]
  exact congrArg (fun v : Work => pumpAll decode (v.settle.deliver p)) hcalled

/-- Bytes that come behind wait for their turn: the session may look at the others before. -/
lemma pumpAll_more (going : w.live.stopping = false) (hn : w.live.buffer.length < n)
    (chunk : Octets) :
    pumpAll decode (w.more chunk) = pumpAll decode ((pump decode n w).more chunk) := by
  induction n generalizing w with
  | zero => omega
  | succ n ih =>
    cases hp : (decode w.live.decoder w.live.buffer).packet with
    | none =>
      rw [pump_of_none hp]
      exact pumpAll_called going hp chunk
    | some p =>
      have hshorter := Bmp.Decoder.decode_shorter hp
      rw [pumpAll_delivered going hp, pump_of_going going hp]
      exact ih going (Nat.lt_of_lt_of_le hshorter (Nat.le_of_lt_succ hn))

lemma pump_going (going : w.live.stopping = false) (n : Nat) :
    (pump decode n w).live.ended = w.live.ended := by
  induction n generalizing w with
  | zero => rfl
  | succ n ih =>
    cases hp : (decode w.live.decoder w.live.buffer).packet with
    | none =>
      rw [pump_of_none hp]
      rfl
    | some p =>
      rw [pump_of_going going hp]
      exact ih going

/-- Two reads are as good as one. -/
lemma handle_bytes (going : w.live.stopping = false) (first second : Octets) :
    (w.handle (.bytes first)).handle (.bytes second) = w.handle (.bytes (first ++ second)) := by
  cases hended : w.live.ended with
  | some how =>
    have hover (e : SessionEvent) : w.handle e = w := by simp [handle, hended]
    rw [hover, hover, hover]
  | none =>
    have hhandle (v : Work) (hv : v.live.ended = none) (chunk : Octets) :
        v.handle (.bytes chunk) = pumpAll decode (v.more chunk) := by simp [handle, hv, more]
    have hgoing : (w.more first).live.stopping = false := going
    have hsame : (pumpAll decode (w.more first)).live.ended = none :=
      (pump_going hgoing _).trans hended
    rw [hhandle w hended, hhandle w hended, hhandle _ hsame, ← more_more]
    exact (pumpAll_more hgoing (Nat.lt_succ_self _) second).symm

lemma run_reads (c : Controller) (peer : Endpoint) (reads : List Octets)
    (later : List SessionEvent) :
    run c peer false (reads.map .bytes ++ later) =
      run c peer false (.bytes reads.flatten :: later) := by
  simp only [run, Bool.false_eq_true, if_false, List.foldl_append, List.foldl_cons]
  congr 1
  induction reads using List.reverseRecOn with
  | nil => rfl
  | append_singleton reads chunk ih =>
    rw [List.map_append, List.foldl_append, ih, List.flatten_append, List.flatten_singleton]
    exact handle_bytes rfl reads.flatten chunk

end LiveSession

end Telemetry.Station
