import Telemetry.Proofs.Bmp.Moments

/-!
The two modes of the decoder, and what is said when it changes between them.

In sync, frames are taken or dropped whole; in a search, bytes are skipped one by one. A search
begins where a loss of sync is said and ends with the packet at which the decoder says that it is
back. So the two kinds of events take turns, and however much garbage comes, a new loss is said only
behind a new packet.
-/

namespace Telemetry.Bmp.Decoder

open Telemetry.Bmp.Frame

/-- Events of which every other is a loss, from the first on; the search goes on behind a loss. -/
structure Alternates (events : List Event) (searching : Bool) : Prop where
  losses : ∀ (k : Nat) (e : Event), events[k]? = some e → (e.isLoss = true ↔ Even k)
  parity : searching = true ↔ Odd events.length

namespace Alternates

variable {events : List Event} {searching : Bool}

lemma nil : Alternates [] false := ⟨by simp, by simp⟩

/-- A loss follows where none searches, and a return where one does. -/
lemma concat (h : Alternates events searching) {e : Event} (he : e.isLoss = !searching) :
    Alternates (events ++ [e]) (!searching) where
  losses := by
    intro k e' hk
    rcases Nat.lt_or_ge k events.length with hlt | hge
    · rw [List.getElem?_append_left hlt] at hk
      exact h.losses k e' hk
    · rw [List.getElem?_append_right hge, List.getElem?_singleton] at hk
      split_ifs at hk with hlast
      cases hk
      have hk : k = events.length := by omega
      rw [he, hk, ← Nat.not_odd_iff_even, ← h.parity]
      simp
  parity := by
    rw [List.length_append, List.length_singleton, Nat.odd_add_one, ← h.parity]
    simp

/-- The search goes on exactly where the last event is a loss. -/
lemma searching_iff (h : Alternates events searching) :
    searching = true ↔ ∃ header, events.getLast? = some (.lostSync header) := by
  rw [h.parity, List.getLast?_eq_getElem?]
  refine ⟨fun hodd => ?_, ?_⟩
  · have hpos : 0 < events.length := hodd.pos
    have heven : Even (events.length - 1) := Nat.Odd.sub_odd hodd odd_one
    have hlast := List.getElem?_eq_getElem (l := events) (i := events.length - 1) (by omega)
    have hloss := (h.losses _ _ hlast).mpr heven
    rw [hlast]
    cases he : events[events.length - 1] with
    | lostSync header => exact ⟨header, rfl⟩
    | _ => simp [he, Event.isLoss] at hloss
  · rintro ⟨header, hlast⟩
    have heven : Even (events.length - 1) := (h.losses _ _ hlast).mp rfl
    have hpos : events.length - 1 < events.length := (List.getElem?_eq_some_iff.mp hlast).1
    have hodd := heven.add_one
    rwa [Nat.sub_add_cancel (by omega)] at hodd

end Alternates

namespace Drained

variable {s t : Drained}

def losses (s : Drained) : Nat := s.events.countP Event.isLoss

lemma losses_eq (s : Drained) : s.losses = s.syncEvents.countP Event.isLoss := by
  rw [losses, syncEvents, List.countP_filter]
  congr 1
  funext e
  cases e <;> rfl

lemma losses_of_quiet (quiet : t.syncEvents = s.syncEvents) : t.losses = s.losses := by
  rw [losses_eq, losses_eq, quiet]

lemma losses_concat {e : Event} (hevents : t.events = s.events ++ [e]) :
    t.losses = s.losses + e.isLoss.toNat := by
  rw [losses, hevents, List.countP_append, List.countP_singleton]
  cases e.isLoss <;> rfl

end Drained

namespace Run

variable {maxLength : Nat} (r : Run maxLength)

lemma alternates (i : Nat) :
    Alternates (r.moment i).syncEvents (r.moment i).decoder.resyncing := by
  induction i with
  | zero =>
    rw [r.first]
    exact .nil
  | succ i ih =>
    cases r.turn i with
    | still decoder _ quiet => rwa [decoder, quiet]
    | search before after _ _ quiet => rwa [after, quiet, ← before]
    | take before after _ _ quiet | drop before after _ _ quiet =>
      rwa [after, quiet, ← before]
    | lose before after _ _ events =>
      rw [after, Drained.syncEvents_concat events rfl]
      rw [before] at ih
      exact ih.concat rfl
    | find before after _ _ events =>
      rw [after, Drained.syncEvents_concat events rfl]
      rw [before] at ih
      exact ih.concat rfl

lemma losses_le (i : Nat) :
    (r.moment i).losses ≤
      (r.moment i).decoder.stats.decoded + (r.moment i).decoder.resyncing.toNat := by
  induction i with
  | zero =>
    rw [r.first]
    exact Nat.le_refl _
  | succ i ih =>
    cases r.turn i with
    | still decoder _ quiet => rwa [decoder, Drained.losses_of_quiet quiet]
    | search before after stats _ quiet | drop before after stats _ quiet =>
      rwa [after, stats, Drained.losses_of_quiet quiet, ← before]
    | take before after stats _ quiet =>
      rw [after, stats, Drained.losses_of_quiet quiet]
      rw [before] at ih
      exact Nat.le_succ_of_le ih
    | lose before after stats _ events =>
      rw [after, stats, Drained.losses_concat events]
      rw [before] at ih
      exact Nat.succ_le_succ ih
    | find before after stats _ events =>
      rw [after, stats, Drained.losses_concat events]
      rw [before] at ih
      exact ih

lemma between_of_skipped {i : Nat} (h : (r.moment (i + 1)).decoder.stats.skipped ≠
    (r.moment i).decoder.stats.skipped) : r.Between (i + 1) := by
  rw [between_iff]
  cases r.turn i with
  | lose _ after | search _ after => exact after
  | still decoder => rw [decoder] at h; exact absurd rfl h
  | find _ _ stats | take _ _ stats | drop _ _ stats => rw [stats] at h; exact absurd rfl h

lemma dropped_of_between {i : Nat} (h : r.Between i ∨ r.Between (i + 1)) :
    (r.moment (i + 1)).decoder.stats.dropped = (r.moment i).decoder.stats.dropped := by
  rw [between_iff, between_iff] at h
  cases r.turn i with
  | still decoder => rw [decoder]
  | lose _ _ stats | search _ _ stats | find _ _ stats | take _ _ stats => rw [stats]
  | drop before after =>
    rw [before, after] at h
    simp at h

/-- **The two modes never mix.** Whatever is done with a fresh decoder is part of a run, and of every
run this holds. Bytes are skipped only between a loss of sync and the next packet, and no frame is
dropped there. The losses of sync and the returns that are said take turns, a loss first, and the
decoder searches exactly if the last of them is a loss. So there is at most one loss more than there
are packets, however much garbage comes. -/
theorem modes_apart (maxLength : Nat) :
    (∀ acts, ∃ r : Run maxLength, ∃ i, r.moment i = Drained.performed maxLength acts) ∧
      ∀ (r : Run maxLength) (i : Nat),
        let s := r.moment i
        let t := r.moment (i + 1)
        (t.decoder.stats.skipped ≠ s.decoder.stats.skipped → r.Between (i + 1)) ∧
          (r.Between i ∨ r.Between (i + 1) → t.decoder.stats.dropped = s.decoder.stats.dropped) ∧
          (∀ (k : Nat) (e : Event), s.syncEvents[k]? = some e → (e.isLoss = true ↔ Even k)) ∧
          (s.decoder.resyncing = true ↔
            ∃ header, s.syncEvents.getLast? = some (.lostSync header)) ∧
          s.events.countP Event.isLoss ≤ 1 + s.decoder.stats.decoded := by
  refine ⟨exists_run maxLength, fun r i => ⟨r.between_of_skipped, r.dropped_of_between,
    (r.alternates i).losses, (r.alternates i).searching_iff, ?_⟩⟩
  have hlosses := r.losses_le i
  have hsearching : (r.moment i).decoder.resyncing.toNat ≤ 1 := Bool.toNat_le _
  rw [Drained.losses] at hlosses
  omega

/-- A loss, a message, more garbage than a header behind it, and the end of the stream: the decoder
searches still, and has said two losses for one packet. On the way there bytes were skipped, behind
a loss; and what comes next drops no frame. -/
theorem modes_apart_twice :
    let message : Octets := [3, 0, 0, 0, 6, 4]
    let acts : List Act :=
      [.op (.append ([255] ++ message ++ List.replicate 9 255)), .op .decode, .decodeEof]
    let s := Drained.performed 1000 acts
    s.decoder.resyncing = true ∧ s.decoder.stats = ⟨1, 0, 5⟩ ∧
      (∃ header, s.syncEvents.getLast? = some (.lostSync header)) ∧
      s.events.countP Event.isLoss ≤ 2 ∧
      ∃ (r : Run 1000) (i : Nat), r.moment i = s ∧ (∃ k < i, r.Between (k + 1)) ∧
        (r.moment (i + 1)).decoder.stats.dropped = 0 := by
  intro message acts s
  have hs : s.decoder.resyncing = true ∧ s.decoder.stats = ⟨1, 0, 5⟩ := by decide +kernel
  obtain ⟨hruns, hmodes⟩ := modes_apart 1000
  obtain ⟨r, i, hi⟩ : ∃ r : Run 1000, ∃ i, r.moment i = s := hruns acts
  clear_value s
  subst hi
  obtain ⟨-, hdropped, -, hlast, hlosses⟩ := hmodes r i
  rw [hs.2] at hlosses
  have hkept := hdropped (.inl (between_iff.mpr hs.1))
  rw [hs.2] at hkept
  -- the count of skipped bytes is not what it was at first, so it has changed at some moment
  obtain ⟨k, hk, hgrown⟩ : ∃ k < i, (r.moment (k + 1)).decoder.stats.skipped ≠
      (r.moment k).decoder.stats.skipped := by
    by_contra! hstill
    have hzero : ∀ k ≤ i, (r.moment k).decoder.stats.skipped = 0 := by
      intro k hk
      induction k with
      | zero => rw [r.first]; rfl
      | succ k ih => rw [hstill k hk, ih (Nat.le_of_succ_le hk)]
    have := hzero i le_rfl
    rw [hs.2] at this
    cases this
  exact ⟨hs.1, hs.2, hlast.mp hs.1, hlosses, r, i, rfl, ⟨k, hk, (hmodes r k).1 hgrown⟩, hkept⟩

end Run

end Telemetry.Bmp.Decoder
