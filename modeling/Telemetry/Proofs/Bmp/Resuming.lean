import Telemetry.Proofs.Bmp.Calls

/-!
A call of the decoder that is cut in two.

A call looks at the buffer until it finds a packet or can look no further. When more bytes lie
behind, the packet is the same, and they are left as they are; and where no packet is found, the
call goes on as if the bytes had been there from the beginning.
-/

namespace Telemetry.Bmp.Decoder

open Telemetry.Bmp.Frame

namespace Drained

variable {s t u : Drained}

/-- A packet that is found is found as well when more bytes lie behind it. -/
lemma Call.append (h : Call s t) (more : t.packets ≠ s.packets) (c : Octets) :
    Call (s.append c) (t.append c) := by
  induction h with
  | wait => exact absurd rfl more
  | found first => exact .found (step_append first c) more
  | further first same _ ih => exact .further (step_append first c) same (ih (same ▸ more))

/-- A call that has found nothing goes on with the bytes behind. -/
lemma Call.resume (h : Call s t) (none : t.packets = s.packets) (c : Octets)
    (rest : Call (t.append c) u) : Call (s.append c) u := by
  induction h with
  | wait => exact rest
  | found first more => exact absurd none more
  | further first same _ ih =>
    exact .further (step_append first c) same (ih (none.trans same.symm) rest)

end Drained

variable {d : Decoder} {b : Octets} {p : Packet}

lemma decode_append_of_some (h : (d.decode b).packet = some p) (c : Octets) :
    d.decode (b ++ c) = { d.decode b with buffer := (d.decode b).buffer ++ c } := by
  have hcall := Drained.decode_call ⟨[], d, b, []⟩
  have hmore : (Drained.after ⟨[], d, b, []⟩ (d.decode b)).packets ≠ [] := by
    simp [Drained.after, h]
  exact Drained.after_injective ⟨[], d, b, []⟩
    ((Drained.decode_call ⟨[], d, b ++ c, []⟩).unique (hcall.append hmore c))

lemma decode_append_of_none (h : (d.decode b).packet = none) (c : Octets) :
    d.decode (b ++ c) =
      { (d.decode b).decoder.decode ((d.decode b).buffer ++ c) with
        events := (d.decode b).events ++
          ((d.decode b).decoder.decode ((d.decode b).buffer ++ c)).events } := by
  have hcall := Drained.decode_call ⟨[], d, b, []⟩
  have hnone : (Drained.after ⟨[], d, b, []⟩ (d.decode b)).packets = [] := by
    simp [Drained.after, h]
  have hrest := Drained.decode_call ((Drained.after ⟨[], d, b, []⟩ (d.decode b)).append c)
  have hwhole := (Drained.decode_call ⟨[], d, b ++ c, []⟩).unique (hcall.resume hnone c hrest)
  refine Drained.after_injective ⟨[], d, b, []⟩ (hwhole.trans ?_)
  simp [Drained.after, Drained.append, h]

end Telemetry.Bmp.Decoder
