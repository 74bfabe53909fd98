import Telemetry.Proofs.Bmp.Accounting

/-!
A stream, moment by moment.

From one moment to the next, more bytes come, or one look is made at those that are there, or the
stream ends and the bytes that wait are given up. A run is a row of such moments that begins with a
fresh decoder, and whatever is done with a decoder is part of a run (`exists_run`). What a moment
can change, as far as the search for the next message is concerned, is listed in `Turn`; what holds
of whole runs is proved from that list.
-/

namespace Telemetry.Bmp

namespace Frame.Event

def isLoss : Event → Bool
  | lostSync _ => true
  | _ => false

/-- The number that is said when the decoder is back in sync. -/
def reported? : Event → Option Nat
  | backInSync n => some n
  | _ => none

def isSync (e : Event) : Bool := e.isLoss || e.reported?.isSome

end Frame.Event

open Telemetry.Bmp.Frame

namespace Decoder

/-- What can be done with a decoder: more bytes, a call, or a call at the end of the stream. -/
inductive Act where
  | op (op : Op)
  | decodeEof

namespace Drained

def perform (s : Drained) : Act → Drained
  | .op op => s.apply op
  | .decodeEof => s.after (s.decoder.decodeEof s.buffer)

def performed (maxLength : Nat) (acts : List Act) : Drained :=
  acts.foldl perform (start maxLength)

/-- The bytes that wait are given up. -/
def giveUp (s : Drained) : Drained :=
  { s with buffer := [], events := s.events ++ [.discarded s.buffer.length] }

inductive Next (s : Drained) : Drained → Prop where
  | append (chunk : Octets) : Next s (s.append chunk)
  | look {t : Drained} (step : s.step = some t) : Next s t
  | giveUp (idle : s.step = none) : Next s s.giveUp

variable {s t : Drained}

lemma Steps.passes (h : Steps s t) : Relation.ReflTransGen Next s t :=
  h.lift id fun _ _ => .look

lemma passes_perform (s : Drained) (act : Act) : Relation.ReflTransGen Next s (s.perform act) := by
  have hcall := Steps.passes (decode_steps s)
  cases act with
  | op op =>
    cases op with
    | append chunk => exact .single (.append chunk)
    | decode => exact hcall
  | decodeEof =>
    show Relation.ReflTransGen Next s (s.after (s.decoder.decodeEof s.buffer))
    by_cases hleft : (s.decoder.decode s.buffer).packet.isNone = true ∧
        (!(s.decoder.decode s.buffer).buffer.isEmpty) = true
    · have hnone := Option.isNone_iff_eq_none.mp hleft.1
      have hgiven : s.after (s.decoder.decodeEof s.buffer) =
          (s.after (s.decoder.decode s.buffer)).giveUp := by
        simp [decodeEof, hleft, after, giveUp]
      rw [hgiven]
      exact hcall.tail (.giveUp (step_decode s hnone))
    · rwa [decodeEof, if_neg hleft]

lemma passes_performed (maxLength : Nat) (acts : List Act) :
    Relation.ReflTransGen Next (start maxLength) (performed maxLength acts) := by
  induction acts using List.reverseRecOn with
  | nil => exact .refl
  | append_singleton acts act ih =>
    rw [performed, List.foldl_append]
    exact ih.trans (passes_perform _ act)

/-! ### What a moment changes -/

def syncEvents (s : Drained) : List Event := s.events.filter Event.isSync

lemma syncEvents_concat {e : Event} (hevents : t.events = s.events ++ [e])
    (he : e.isSync = true) : t.syncEvents = s.syncEvents ++ [e] := by
  simp [syncEvents, hevents, he]

lemma syncEvents_other {e : Event} (hevents : t.events = s.events ++ [e])
    (he : e.isSync = false) : t.syncEvents = s.syncEvents := by
  simp [syncEvents, hevents, he]

lemma events_ne_of_quiet {e : Event} (quiet : t.syncEvents = s.syncEvents)
    (he : e.isSync = true) : t.events ≠ s.events ++ [e] := by
  intro hsaid
  have := syncEvents_concat hsaid he
  rw [quiet] at this
  simp at this

/-- How a moment can follow another, as far as the search is concerned. -/
inductive Turn (s t : Drained) : Prop where
  | still (decoder : t.decoder = s.decoder) (packets : t.packets = s.packets)
    (quiet : t.syncEvents = s.syncEvents)
  | lose {header : Octets} (before : s.decoder.resyncing = false)
    (after : t.decoder.resyncing = true)
    (stats : t.decoder.stats = { s.decoder.stats with skipped := s.decoder.stats.skipped + 1 })
    (packets : t.packets = s.packets) (events : t.events = s.events ++ [.lostSync header])
  | search (before : s.decoder.resyncing = true) (after : t.decoder.resyncing = true)
    (stats : t.decoder.stats = { s.decoder.stats with skipped := s.decoder.stats.skipped + 1 })
    (packets : t.packets = s.packets) (quiet : t.syncEvents = s.syncEvents)
  | find {p : Packet} (before : s.decoder.resyncing = true) (after : t.decoder.resyncing = false)
    (stats : t.decoder.stats = { s.decoder.stats with decoded := s.decoder.stats.decoded + 1 })
    (packets : t.packets = s.packets ++ [p])
    (events : t.events = s.events ++ [.backInSync s.decoder.stats.skipped])
  | take {p : Packet} (before : s.decoder.resyncing = false) (after : t.decoder.resyncing = false)
    (stats : t.decoder.stats = { s.decoder.stats with decoded := s.decoder.stats.decoded + 1 })
    (packets : t.packets = s.packets ++ [p]) (quiet : t.syncEvents = s.syncEvents)
  | drop (before : s.decoder.resyncing = false) (after : t.decoder.resyncing = false)
    (stats : t.decoder.stats = { s.decoder.stats with dropped := s.decoder.stats.dropped + 1 })
    (packets : t.packets = s.packets) (quiet : t.syncEvents = s.syncEvents)

lemma turn_skip (s : Drained) : Turn s s.skip := by
  cases hsync : s.decoder.resyncing with
  | true =>
    exact .search hsync rfl rfl rfl (by simp [syncEvents, skip, Decoder.skip, hsync])
  | false => exact .lose hsync rfl rfl rfl (by simp only [skip, Decoder.skip, hsync]; rfl)

lemma turn_accept (s : Drained) (n : Nat) (p : Packet) : Turn s (s.accept n p) := by
  cases hsync : s.decoder.resyncing with
  | true => exact .find hsync rfl rfl rfl (by simp [accept, Decoder.accept, hsync])
  | false =>
    exact .take hsync rfl rfl rfl (by simp [syncEvents, accept, Decoder.accept, hsync])

lemma turn_of_next (h : Next s t) : Turn s t := by
  cases h with
  | append chunk => exact .still rfl rfl rfl
  | giveUp idle => exact .still rfl rfl (syncEvents_other rfl rfl)
  | look step =>
    cases moves_of_step step with
    | garbage | bogus => exact turn_skip s
    | accept => exact turn_accept s _ _
    | drop inSync => exact .drop inSync inSync rfl rfl (syncEvents_other rfl rfl)

lemma Turn.packets_grow (h : Turn s t) : s.packets <+: t.packets := by
  cases h with
  | still _ packets | lose _ _ _ packets | search _ _ _ packets | drop _ _ _ packets =>
    rw [packets]
  | find _ _ _ packets | take _ _ _ packets =>
    rw [packets]
    exact List.prefix_append _ _

end Drained

open Drained (Next Turn turn_of_next events_ne_of_quiet)

/-! ### Runs -/

/-- The moments of a stream, one after the other. -/
structure Run (maxLength : Nat) where
  moment : Nat → Drained
  first : moment 0 = .start maxLength
  next : ∀ i, Next (moment i) (moment (i + 1))

/-- Moments that lead somewhere, followed by moments at which nothing comes. -/
lemma exists_moments {s t : Drained} (h : Relation.ReflTransGen Next s t) :
    ∃ moment : Nat → Drained, moment 0 = s ∧ (∀ i, Next (moment i) (moment (i + 1))) ∧
      ∃ i, moment i = t := by
  induction h using Relation.ReflTransGen.head_induction_on with
  | refl =>
    have hidle : Next t t := by
      have := Next.append (s := t) []
      rwa [show t.append [] = t by simp [Drained.append]] at this
    exact ⟨fun _ => t, rfl, fun _ => hidle, 0, rfl⟩
  | @head s m hnext _ ih =>
    obtain ⟨moment, hfirst, hmoments, i, hi⟩ := ih
    refine ⟨fun k => k.casesOn s moment, rfl, fun k => ?_, i + 1, hi⟩
    cases k with
    | zero =>
      show Next s (moment 0)
      rwa [hfirst]
    | succ k => exact hmoments k

/-- Whatever is done with a decoder is part of a run. -/
lemma exists_run (maxLength : Nat) (acts : List Act) :
    ∃ r : Run maxLength, ∃ i, r.moment i = Drained.performed maxLength acts := by
  obtain ⟨moment, hfirst, hnext, hlast⟩ := exists_moments (Drained.passes_performed maxLength acts)
  exact ⟨⟨moment, hfirst, hnext⟩, hlast⟩

namespace Run

variable {maxLength : Nat} (r : Run maxLength)

lemma turn (i : Nat) : Turn (r.moment i) (r.moment (i + 1)) := turn_of_next (r.next i)

lemma packets_grow {i j : Nat} (h : i ≤ j) : (r.moment i).packets <+: (r.moment j).packets := by
  induction j, h using Nat.le_induction with
  | base => exact List.prefix_rfl
  | succ j _ ih => exact ih.trans (r.turn j).packets_grow

/-! ### Searches -/

def LosesAt (j : Nat) : Prop :=
  ∃ header, (r.moment (j + 1)).events = (r.moment j).events ++ [.lostSync header]

/-- Sync was lost at `j`, and up to `i` no packet has come. -/
def Since (j i : Nat) : Prop :=
  j < i ∧ r.LosesAt j ∧ (r.moment i).packets = (r.moment j).packets

def Between (i : Nat) : Prop := ∃ j, r.Since j i

variable {r} {i j : Nat}

lemma LosesAt.turn (h : r.LosesAt j) :
    (r.moment j).decoder.resyncing = false ∧ (r.moment (j + 1)).decoder.resyncing = true ∧
      (r.moment (j + 1)).decoder.stats.skipped = (r.moment j).decoder.stats.skipped + 1 ∧
      (r.moment (j + 1)).packets = (r.moment j).packets := by
  obtain ⟨header, hsaid⟩ := h
  cases r.turn j with
  | lose before after stats packets => exact ⟨before, after, by rw [stats], packets⟩
  | still _ _ quiet | search _ _ _ _ quiet | take _ _ _ _ quiet | drop _ _ _ _ quiet =>
    exact absurd hsaid (events_ne_of_quiet quiet rfl)
  | find _ _ _ _ events =>
    have := List.append_cancel_left (events.symm.trans hsaid)
    cases this

/-- Between a loss and a later moment before the next packet, the search goes on. -/
lemma Since.turn (h : r.Since j (i + 1)) (hji : j < i) : r.Since j i := by
  obtain ⟨-, hloses, hpackets⟩ := h
  refine ⟨hji, hloses, ?_⟩
  -- what has come at `i` is still there at the next moment, and nothing more than at `j`
  have hle : (r.moment i).packets.length ≤ (r.moment j).packets.length :=
    hpackets ▸ (r.packets_grow (Nat.le_succ i)).length_le
  exact ((r.packets_grow hji.le).eq_of_length_le hle).symm

/-- What holds behind a loss and is kept by every moment of its search holds in all of it. -/
lemma Since.induction {P : Nat → Prop} (h : r.Since j i) (loss : P (j + 1))
    (turn : ∀ k, r.Since j k → (r.moment (k + 1)).packets = (r.moment k).packets → P k →
      P (k + 1)) : P i := by
  have hji : j + 1 ≤ i := h.1
  induction i, hji using Nat.le_induction with
  | base => exact loss
  | succ i hji ih =>
    have hi := h.turn hji
    exact turn i hi (h.2.2.trans hi.2.2.symm) (ih hi)

lemma turn_searching (searching : (r.moment i).decoder.resyncing = true)
    (same : (r.moment (i + 1)).packets = (r.moment i).packets) :
    (r.moment (i + 1)).decoder.resyncing = true ∧
      (r.moment (i + 1)).syncEvents = (r.moment i).syncEvents ∧
      (r.moment i).decoder.stats.skipped ≤ (r.moment (i + 1)).decoder.stats.skipped := by
  cases r.turn i with
  | still decoder _ quiet => exact ⟨by rw [decoder, searching], quiet, by rw [decoder]⟩
  | search _ after stats _ quiet => exact ⟨after, quiet, by rw [stats]; exact Nat.le_succ _⟩
  | lose before | take before | drop before =>
    exact absurd (before.symm.trans searching) (by decide)
  | find _ _ _ packets => simp [packets] at same

lemma Since.resyncing (h : r.Since j i) : (r.moment i).decoder.resyncing = true :=
  h.induction (P := fun k => (r.moment k).decoder.resyncing = true) h.2.1.turn.2.1
    fun _ _ same searching => (turn_searching searching same).1

lemma Since.extend (h : r.Since j i)
    (hpackets : (r.moment (i + 1)).packets = (r.moment i).packets) : r.Since j (i + 1) :=
  ⟨Nat.lt_succ_of_lt h.1, h.2.1, hpackets.trans h.2.2⟩

/-- The decoder searches between a loss of sync and the next packet, and only there. -/
lemma between_iff : r.Between i ↔ (r.moment i).decoder.resyncing = true := by
  refine ⟨fun ⟨j, h⟩ => h.resyncing, fun h => ?_⟩
  induction i with
  | zero =>
    rw [r.first] at h
    cases h
  | succ i ih =>
    cases r.turn i with
    | still decoder packets =>
      obtain ⟨j, hj⟩ := ih (decoder ▸ h)
      exact ⟨j, hj.extend packets⟩
    | @lose header _ _ _ packets events =>
      exact ⟨i, Nat.lt_succ_self i, ⟨header, events⟩, packets⟩
    | search before _ _ packets =>
      obtain ⟨j, hj⟩ := ih before
      exact ⟨j, hj.extend packets⟩
    | find _ after | take _ after | drop _ after => exact absurd (after.symm.trans h) (by decide)

end Run

end Decoder

end Telemetry.Bmp
