import Telemetry.Proofs.Bmp.Calls

/-!
Where a stream is cut does not matter.

A byte that has not come yet can only make the decoder wait; it never changes what a look has
found. So the run of looks over a part of the stream is the beginning of the run over the whole,
and draining chunk by chunk ends where draining everything at once ends.
-/

namespace Telemetry.Bmp.Decoder

open Telemetry.Bmp.Frame

lemma start_andThen (d : Decoder) (b : Octets) (r : Drained) :
    Drained.andThen ⟨[], d, b, []⟩ r = r := by
  simp [Drained.andThen]

lemma feed_drain (d : Decoder) (b c : Octets) : (d.drain b).feed c = d.drain (b ++ c) := by
  have hfirst := (drain_steps ⟨[], d, b, []⟩).1.append c
  rw [start_andThen] at hfirst
  obtain ⟨hrest, hend⟩ := drain_steps ((d.drain b).append c)
  have hwhole : Drained.Steps ⟨[], d, b ++ c, []⟩ ((d.drain b).feed c) := hfirst.trans hrest
  rw [← drain_unique hwhole hend, start_andThen]

lemma foldl_feed (d : Decoder) (b : Octets) (chunks : List Octets) :
    chunks.foldl Drained.feed (d.drain b) = d.drain (b ++ chunks.flatten) := by
  induction chunks generalizing b with
  | nil => simp
  | cons c rest ih => rw [List.foldl_cons, feed_drain, ih]; simp

/-- **Chunking does not matter.** From any state of the decoder, draining a buffer (which is
decoding until no packet comes), appending more bytes and draining again ends as draining all of it
at once: with the same packets, decoder, rest and events. So whatever the chunks, one byte at a
time included, the outcome is that of their concatenation. -/
theorem drain_chunks (d : Decoder) (b : Octets) :
    Exhausts decode d b (d.drain b) ∧
      (∀ c, (d.drain b).feed c = d.drain (b ++ c)) ∧
      ∀ chunks : List Octets,
        chunks.foldl Drained.feed (d.drain b) = d.drain (b ++ chunks.flatten) :=
  ⟨drain_exhausts d b, feed_drain d b, foldl_feed d b⟩

end Telemetry.Bmp.Decoder
