import Telemetry.Proofs.Bmp.Looks

/-!
Calls of the frame decoder, as runs of looks.

`decode` and `drain` are written with a bound on their rounds. Here the bound goes away: a call is
a run of steps that stops at a packet or where no look is possible, and draining is calling until
no packet comes (`drain_exhausts`), which is the one run that ends where no look is possible
(`drain_unique`).
-/

namespace Telemetry.Bmp.Decoder

open Telemetry.Bmp.Frame

namespace Drained

def start (maxLength : Nat) : Drained := ⟨[], new maxLength, [], []⟩

def after (s : Drained) (r : Decoded) : Drained :=
  ⟨s.packets ++ r.packet.toList, r.decoder, r.buffer, s.events ++ r.events⟩

def andThen (s r : Drained) : Drained :=
  ⟨s.packets ++ r.packets, r.decoder, r.buffer, s.events ++ r.events⟩

/-- What one call comes to: looks until there is a packet, or until no look is possible. -/
inductive Call : Drained → Drained → Prop where
  | wait {s : Drained} (idle : s.step = none) : Call s s
  | found {s t : Drained} (first : s.step = some t) (more : t.packets ≠ s.packets) : Call s t
  | further {s t u : Drained} (first : s.step = some t) (same : t.packets = s.packets)
    (rest : Call t u) : Call s u

namespace Call

variable {s t u : Drained}

lemma steps (h : Call s t) : Steps s t := by
  induction h with
  | wait => exact .refl
  | found first => exact .single first
  | further first _ _ ih => exact .head first ih

lemma idle (h : Call s t) (none : t.packets = s.packets) : t.step = Option.none := by
  induction h with
  | wait idle => exact idle
  | found first more => exact absurd none more
  | further first same _ ih => exact ih (none.trans same.symm)

/-- A packet comes of the last look of its call, and the looks before it give none. -/
lemma lands (h : Call s t) (more : t.packets ≠ s.packets) :
    ∃ u, Steps s u ∧ u.packets = s.packets ∧ u.step = some t := by
  induction h with
  | wait => exact absurd rfl more
  | @found s _ first => exact ⟨s, .refl, rfl, first⟩
  | further first same _ ih =>
    obtain ⟨u, hrun, hpackets, hlast⟩ := ih (same ▸ more)
    exact ⟨u, .head first hrun, hpackets.trans same, hlast⟩

lemma unique (ht : Call s t) (hu : Call s u) : t = u := by
  induction ht with
  | wait idle =>
    cases hu with
    | wait => rfl
    | found first | further first => cases idle.symm.trans first
  | found first more =>
    cases hu with
    | wait idle => cases idle.symm.trans first
    | found first' => exact Option.some.inj (first.symm.trans first')
    | further first' same =>
      cases first.symm.trans first'
      exact absurd same more
  | further first same _ ih =>
    cases hu with
    | wait idle => cases idle.symm.trans first
    | found first' more =>
      cases first.symm.trans first'
      exact absurd same more
    | further first' _ rest =>
      cases first.symm.trans first'
      exact ih rest

end Call

lemma looks_call (n : Nat) (s : Drained) (es said : List Event)
    (hsaid : s.events = es ++ said.reverse) (hn : s.buffer.length ≤ n) :
    Call s (after ⟨s.packets, s.decoder, s.buffer, es⟩ (looks n s.decoder s.buffer said)) := by
  induction n generalizing s said with
  | zero =>
    have hnil : s.buffer.length < commonHeaderLength := Nat.lt_of_le_of_lt hn (by decide)
    have ht : after ⟨s.packets, s.decoder, s.buffer, es⟩ (looks 0 s.decoder s.buffer said) = s := by
      simp [after, looks, ← hsaid]
    rw [ht]
    exact .wait (step_short hnil)
  | succ n ih =>
    cases hl : look s.decoder.maxLength s.decoder.resyncing s.buffer with
    | wait =>
      have ht : after ⟨s.packets, s.decoder, s.buffer, es⟩
          (looks (n + 1) s.decoder s.buffer said) = s := by
        simp [after, looks, hl, ← hsaid]
      rw [ht]
      exact .wait (by simp [step, hl])
    | skip =>
      have hstep : s.step = some s.skip := by simp [step, hl]
      have hlen := step_shorter hstep
      simp only [looks, hl]
      exact .further hstep rfl (ih s.skip ((s.decoder.skip s.buffer).2.reverse ++ said)
        (by simp [skip, hsaid]) (by omega))
    | packet k p =>
      have hstep : s.step = some (s.accept k p) := by simp [step, hl]
      have ht : after ⟨s.packets, s.decoder, s.buffer, es⟩
          (looks (n + 1) s.decoder s.buffer said) = s.accept k p := by
        simp [looks, hl, after, accept, hsaid]
      rw [ht]
      exact .found hstep (by simp [accept])
    | malformed k e =>
      have hstep : s.step = some (s.drop k e) := by simp [step, hl]
      have hlen := step_shorter hstep
      simp only [looks, hl]
      exact .further hstep rfl (ih (s.drop k e) ((s.decoder.drop k e).2.reverse ++ said)
        (by simp [drop, hsaid]) (by omega))

lemma decode_call (s : Drained) : Call s (s.after (s.decoder.decode s.buffer)) :=
  looks_call _ s s.events [] (by simp) (Nat.le_refl _)

lemma decode_steps (s : Drained) : Steps s (s.after (s.decoder.decode s.buffer)) :=
  (decode_call s).steps

/-- A call that gives no packet stops where no look is possible. -/
lemma step_decode (s : Drained) (h : (s.decoder.decode s.buffer).packet = none) :
    (s.after (s.decoder.decode s.buffer)).step = none :=
  (decode_call s).idle (by simp [after, h])

lemma after_injective (s : Drained) : Function.Injective s.after := by
  rintro ⟨packet, decoder, buffer, events⟩ ⟨packet', decoder', buffer', events'⟩ h
  simp only [after, mk.injEq, List.append_cancel_left_eq] at h
  obtain ⟨hpacket, rfl, rfl, rfl⟩ := h
  cases packet <;> cases packet' <;> simp_all

end Drained

variable {d : Decoder} {b : Octets} {p : Packet}

lemma decode_shorter (h : (d.decode b).packet = some p) :
    (d.decode b).buffer.length < b.length := by
  have hrun := Drained.decode_steps ⟨[], d, b, []⟩
  refine Drained.Steps.shorter hrun fun heq => ?_
  have := congrArg Drained.packets heq
  simp [Drained.after, h] at this

/-- What comes of a call that is repeated until it gives no packet. -/
inductive Exhausts (call : Decoder → Octets → Decoded) : Decoder → Octets → Drained → Prop where
  | last {d : Decoder} {b : Octets} (none : (call d b).packet = none) :
    Exhausts call d b ⟨[], (call d b).decoder, (call d b).buffer, (call d b).events⟩
  | more {d : Decoder} {b : Octets} {p : Packet} {r : Drained} (some : (call d b).packet = some p)
    (rest : Exhausts call (call d b).decoder (call d b).buffer r) :
    Exhausts call d b ⟨p :: r.packets, r.decoder, r.buffer, (call d b).events ++ r.events⟩

/-- Where every packet takes bytes, one call more than there are bytes is enough. -/
lemma calls_exhausts (call : Decoder → Octets → Decoded)
    (shorter : ∀ d b p, (call d b).packet = some p → (call d b).buffer.length < b.length)
    (n : Nat) (d : Decoder) (b : Octets) (packets : List Packet) (said : List Event)
    (hn : b.length < n) :
    ∃ r, Exhausts call d b r ∧ calls call n d b packets said =
      Drained.andThen ⟨packets.reverse, d, b, said.reverse⟩ r := by
  induction n generalizing d b packets said with
  | zero => omega
  | succ n ih =>
    cases hp : (call d b).packet with
    | none =>
      refine ⟨_, .last hp, ?_⟩
      simp [calls, hp, Drained.andThen]
    | some p =>
      have hlen := shorter d b p hp
      obtain ⟨r, hr, heq⟩ := ih (call d b).decoder (call d b).buffer (p :: packets)
        ((call d b).events.reverse ++ said) (by omega)
      refine ⟨_, .more hp hr, ?_⟩
      simp [calls, hp, heq, Drained.andThen]

lemma drain_exhausts (d : Decoder) (b : Octets) : Exhausts decode d b (d.drain b) := by
  obtain ⟨r, hr, heq⟩ :=
    calls_exhausts decode (fun _ _ _ => decode_shorter) (b.length + 1) d b [] [] (by omega)
  have : d.drain b = r := by simp [drain, heq, Drained.andThen]
  exact this ▸ hr

lemma decodeEof_packet (d : Decoder) (b : Octets) :
    (d.decodeEof b).packet = (d.decode b).packet := by
  unfold decodeEof
  dsimp only
  split <;> rfl

lemma decodeEof_of_some (h : (d.decode b).packet = some p) : d.decodeEof b = d.decode b := by
  simp [decodeEof, h]

lemma decodeEof_buffer (h : (d.decodeEof b).packet = none) : (d.decodeEof b).buffer = [] := by
  rw [decodeEof_packet] at h
  cases hb : (d.decode b).buffer <;> simp [decodeEof, h, hb]

lemma drainEof_exhausts (d : Decoder) (b : Octets) : Exhausts decodeEof d b (d.drainEof b) := by
  have shorter : ∀ d b p, (decodeEof d b).packet = some p →
      (decodeEof d b).buffer.length < b.length := by
    intro d b p h
    rw [decodeEof_packet] at h
    rw [decodeEof_of_some h]
    exact decode_shorter h
  obtain ⟨r, hr, heq⟩ := calls_exhausts decodeEof shorter (b.length + 1) d b [] [] (by omega)
  have : d.drainEof b = r := by simp [drainEof, heq, Drained.andThen]
  exact this ▸ hr

/-- Repeated decoding is a run of steps that ends where no look is possible. -/
lemma Exhausts.steps {r : Drained} (h : Exhausts decode d b r) (ps : List Packet)
    (es : List Event) :
    Drained.Steps ⟨ps, d, b, es⟩ (Drained.andThen ⟨ps, d, b, es⟩ r) ∧
      (Drained.andThen ⟨ps, d, b, es⟩ r).step = none := by
  induction h generalizing ps es with
  | @last d b hnone =>
    have hrun := Drained.decode_steps ⟨ps, d, b, es⟩
    have hend := Drained.step_decode ⟨ps, d, b, es⟩ hnone
    simp only [Drained.after, hnone, Option.toList_none, Drained.andThen] at hrun hend ⊢
    exact ⟨hrun, hend⟩
  | @more d b p r hsome _ ih =>
    have hrun := Drained.decode_steps ⟨ps, d, b, es⟩
    obtain ⟨hrest, hend⟩ := ih (ps ++ [p]) (es ++ (d.decode b).events)
    simp only [Drained.after, hsome, Option.toList_some, Drained.andThen, List.append_assoc,
      List.cons_append, List.nil_append] at hrun hrest hend ⊢
    exact ⟨hrun.trans hrest, hend⟩

lemma drain_steps (s : Drained) :
    Drained.Steps s (s.andThen (s.decoder.drain s.buffer)) ∧
      (s.andThen (s.decoder.drain s.buffer)).step = none :=
  (drain_exhausts s.decoder s.buffer).steps s.packets s.events

lemma drain_unique {s t : Drained} (h : Drained.Steps s t) (tend : t.step = none) :
    s.andThen (s.decoder.drain s.buffer) = t :=
  Drained.Steps.unique (drain_steps s).1 h (drain_steps s).2 tend

end Telemetry.Bmp.Decoder
