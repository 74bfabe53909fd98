import Telemetry.Proofs.Bmp.Searching

/-!
Where a call ends that begins with a search.

A searching decoder looks at one offset of the buffer after the other. It can go on unless a
plausible header stands there whose frame is a message, or is not there as a whole: the first ends
the search and the second has to be waited for. So a call stops at the first offset of that kind,
and where there is none it stops when fewer bytes are left than a header has.
-/

namespace Telemetry.Bmp.Decoder

open Telemetry.Bmp.Frame

namespace Drained

variable {s t u : Drained} {n : Nat}

lemma Steps.packets_prefix (h : Steps s t) : s.packets <+: t.packets := by
  induction h with
  | refl => exact List.prefix_rfl
  | tail _ last ih =>
    refine ih.trans ?_
    cases moves_of_step last with
    | garbage | bogus | drop => exact List.prefix_rfl
    | accept => exact List.prefix_append _ _

/-- Looks that find no packet can stand in front of a call. -/
lemma Call.of_steps (h : Steps s t) (same : t.packets = s.packets) (rest : Call t u) :
    Call s u := by
  induction h using Relation.ReflTransGen.head_induction_on with
  | refl => exact rest
  | @head s m first later ih =>
    -- what the first look finds is found in the end, so it finds nothing
    have hfirst : s.packets <+: m.packets := Steps.packets_prefix (.single first)
    have hlater : m.packets <+: s.packets := same ▸ Steps.packets_prefix later
    have hsame : m.packets = s.packets := hlater.eq_of_length_le hfirst.length_le
    exact .further first hsame (ih (same.trans hsame.symm))

lemma decode_of_passOver (search : Steps s (s.passOver n)) (idle : (s.passOver n).step = none) :
    s.decoder.decode s.buffer = ⟨none, (s.passOver n).decoder, s.buffer.drop n, []⟩ := by
  have hcall : Call s (s.passOver n) := .of_steps search rfl (.wait idle)
  refine after_injective s (((decode_call s).unique hcall).trans ?_)
  simp [after, passOver]

end Drained

/-- The offsets that a search does not get past: there begins a whole frame that is a message, or a
plausible header whose frame is longer than what is left. -/
def stops (maxLength : Nat) (buffer : Octets) : Set Nat :=
  {i | BeginsMessage maxLength (buffer.drop i) ∨ BeginsUnfinished maxLength (buffer.drop i)}

variable {d : Decoder} {buffer frame rest : Octets} {p : Packet} {i : Nat}

/-- Everything in front of the first such offset is passed over. -/
lemma steps_passOver (searching : d.resyncing = true)
    (enough : i + commonHeaderLength ≤ buffer.length + 1)
    (first : ∀ j < i, j ∉ stops d.maxLength buffer) :
    Drained.Steps ⟨[], d, buffer, []⟩ (Drained.passOver ⟨[], d, buffer, []⟩ i) :=
  Drained.search_steps searching i enough (fun j hj h => first j hj (.inl h))
    fun j hj h => first j hj (.inr h)

lemma header_of_mem_stops {maxLength : Nat} (h : i ∈ stops maxLength buffer) :
    i + commonHeaderLength ≤ buffer.length := by
  have enough : commonHeaderLength ≤ (buffer.drop i).length := by
    rcases h with ⟨frame, rest, p, split, complete, -⟩ | ⟨n, hplausible, -⟩
    · exact complete.length_ge.trans (complete.length_bounds split).2
    · obtain ⟨a, b, c, d, type, hheader, -⟩ := plausibleLength?_eq_some.mp hplausible
      have := congrArg List.length hheader
      simp only [List.length_take, List.length_cons, List.length_nil, commonHeaderLength] at this ⊢
      omega
  rw [List.length_drop] at enough
  have : 0 < commonHeaderLength := by decide
  omega

lemma not_mem_of_lt_least {maxLength : Nat} (h : IsLeast (stops maxLength buffer) i) :
    ∀ j < i, j ∉ stops maxLength buffer :=
  fun _ hj hmem => absurd (h.2 hmem) (Nat.not_le_of_lt hj)

/-- A look that skips a byte says that the search gets past it. -/
lemma not_mem_stops_of_look {maxLength : Nat} (h : look maxLength true (buffer.drop i) = .skip) :
    i ∉ stops maxLength buffer := by
  rintro (message | unfinished)
  · exact not_beginsMessage_of_look (.inl h) message
  · have hwait : Look.skip = .wait := h.symm.trans (look_of_beginsUnfinished unfinished)
    cases hwait

lemma isLeast_of_looks {maxLength : Nat} (here : i ∈ stops maxLength buffer)
    (front : ∀ j < i, look maxLength true (buffer.drop j) = .skip) :
    IsLeast (stops maxLength buffer) i :=
  ⟨here, fun j hj => Nat.le_of_not_lt fun hlt => not_mem_stops_of_look (front j hlt) hj⟩

lemma decode_message (searching : d.resyncing = true)
    (least : IsLeast (stops d.maxLength buffer) i) (split : buffer.drop i = frame ++ rest)
    (complete : Complete d.maxLength frame) (read : packet? frame = some p) :
    let stats := { d.stats with
      decoded := d.stats.decoded + 1
      skipped := d.stats.skipped + i }
    d.decode buffer = ⟨some p, { d with resyncing := false, stats }, rest,
      [.backInSync (d.stats.skipped + i)]⟩ := by
  set s : Drained := ⟨[], d, buffer, []⟩ with hs
  have hsearch : Drained.Steps s (s.passOver i) :=
    steps_passOver searching (Nat.le_succ_of_le (header_of_mem_stops least.1))
      (not_mem_of_lt_least least)
  have hfound : (s.passOver i).step = some ((s.passOver i).accept frame.length p) :=
    Drained.step_accept split complete read
  have hcall : Drained.Call s ((s.passOver i).accept frame.length p) :=
    .of_steps hsearch rfl (.found hfound (by simp [Drained.accept]))
  refine Drained.after_injective s (((Drained.decode_call s).unique hcall).trans ?_)
  simp [hs, Drained.after, Drained.accept, Drained.passOver, Decoder.accept, searching, split]

lemma decode_unfinished (searching : d.resyncing = true)
    (least : IsLeast (stops d.maxLength buffer) i)
    (unfinished : BeginsUnfinished d.maxLength (buffer.drop i)) :
    let stats := { d.stats with skipped := d.stats.skipped + i }
    d.decode buffer = ⟨none, { d with stats }, buffer.drop i, []⟩ := by
  set s : Drained := ⟨[], d, buffer, []⟩ with hs
  have hsearch : Drained.Steps s (s.passOver i) :=
    steps_passOver searching (Nat.le_succ_of_le (header_of_mem_stops least.1))
      (not_mem_of_lt_least least)
  refine Drained.decode_of_passOver hsearch ?_
  rw [Drained.step]
  simp only [Drained.passOver, hs, look_of_beginsUnfinished unfinished]

/-- Where the search stops nowhere it goes on until less than a header is left. -/
lemma decode_nothing (searching : d.resyncing = true) (none : stops d.maxLength buffer = ∅) :
    let stats := { d.stats with skipped := d.stats.skipped + (buffer.length - 5) }
    d.decode buffer = ⟨Option.none, { d with stats }, buffer.drop (buffer.length - 5), []⟩ := by
  set s : Drained := ⟨[], d, buffer, []⟩ with hs
  have hsearch : Drained.Steps s (s.passOver (buffer.length - 5)) := by
    rcases Nat.lt_or_ge buffer.length 5 with few | enough
    · rw [Nat.sub_eq_zero_of_le few.le]
      exact .refl
    · refine steps_passOver searching ?_ fun j _ hj => ?_
      · rw [commonHeaderLength]
        omega
      · rwa [none] at hj
  refine Drained.decode_of_passOver hsearch (Drained.step_short ?_)
  simp only [Drained.passOver, hs, List.length_drop, commonHeaderLength]
  omega

/-- **A search stops at the first possible frame.** A call in a search passes over the bytes in
front of the first offset at which there is a plausible header whose frame is a message or is longer
than what is left, and counts them. If the frame is a message the call gives its packet, leaves what
is behind it, and ends the search. If it is longer than what is left the call gives nothing, leaves
everything from its header on, and the search goes on when more has come. Where there is no such
offset the call gives nothing, and the last five bytes are left, or all if there are fewer. No frame
is counted as dropped. -/
theorem decode_searching (d : Decoder) (buffer : Octets) (searching : d.resyncing = true) :
    (∀ i, IsLeast (stops d.maxLength buffer) i →
      let skipped := d.stats.skipped + i
      (∀ frame rest p, buffer.drop i = frame ++ rest → Complete d.maxLength frame →
        (Packet.read.run frame).1 = .ok p →
        d.decode buffer = ⟨some p,
          ⟨d.maxLength, false, ⟨d.stats.decoded + 1, d.stats.dropped, skipped⟩⟩, rest,
          [.backInSync skipped]⟩) ∧
      (BeginsUnfinished d.maxLength (buffer.drop i) →
        d.decode buffer = ⟨none,
          ⟨d.maxLength, true, ⟨d.stats.decoded, d.stats.dropped, skipped⟩⟩, buffer.drop i, []⟩)) ∧
    (stops d.maxLength buffer = ∅ → ∀ front left, buffer = front ++ left →
      left.length = min 5 buffer.length →
      d.decode buffer = ⟨none, ⟨d.maxLength, true,
        ⟨d.stats.decoded, d.stats.dropped, d.stats.skipped + front.length⟩⟩, left, []⟩) := by
  refine ⟨fun i least => ⟨fun frame rest p split complete read => ?_, fun unfinished => ?_⟩,
    fun none front left split few => ?_⟩
  · exact decode_message searching least split complete (packet?_eq_some.mpr read)
  · rw [decode_unfinished searching least unfinished, searching]
  · have hfront : buffer.length - 5 = front.length := by
      have := congrArg List.length split
      rw [List.length_append] at this
      omega
    rw [decode_nothing searching none, searching, hfront, split, List.drop_left]

/-- Behind a header that counts eight bytes, two of them of what follows: a message, the front of
one, and less than a header. -/
theorem decode_searching_overlapped :
    let d : Decoder := ⟨1000, true, ⟨3, 2, 7⟩⟩
    let p := Packet.ofMessage (.initiation [])
    let bogus : Octets := [3, 0, 0, 0, 8, 2]
    let front : Octets := [3, 0, 0, 0, 7, 4]
    let less : Octets := [3, 0, 0, 0, 6]
    d.decode (bogus ++ p.encode ++ [9]) =
        ⟨some p, ⟨1000, false, ⟨4, 2, 13⟩⟩, [9], [.backInSync 13]⟩ ∧
      d.decode (bogus ++ front) = ⟨none, ⟨1000, true, ⟨3, 2, 13⟩⟩, front, []⟩ ∧
      d.decode (bogus ++ less) = ⟨none, ⟨1000, true, ⟨3, 2, 13⟩⟩, less, []⟩ := by
  intro d p bogus front less
  have complete : Complete 1000 p.encode :=
    ⟨0, 0, 0, 6, 4, [], by decide, ⟨.initiationMessage, rfl⟩, by decide, by decide⟩
  have unfinished : BeginsUnfinished 1000 front := ⟨7, by decide, by decide⟩
  refine ⟨?_, ?_, ?_⟩
  · obtain ⟨hfound, -⟩ := decode_searching d (bogus ++ p.encode ++ [9]) rfl
    have least : IsLeast (stops 1000 (bogus ++ p.encode ++ [9])) 6 :=
      isLeast_of_looks (.inl ⟨p.encode, [9], p, rfl, complete, by decide⟩) (by decide)
    exact (hfound 6 least).1 p.encode [9] p rfl complete (by decide)
  · obtain ⟨hfound, -⟩ := decode_searching d (bogus ++ front) rfl
    have least : IsLeast (stops 1000 (bogus ++ front)) 6 :=
      isLeast_of_looks (.inr unfinished) (by decide)
    exact (hfound 6 least).2 unfinished
  · obtain ⟨-, hnone⟩ := decode_searching d (bogus ++ less) rfl
    have looks : ∀ j < 6, look 1000 true ((bogus ++ less).drop j) = .skip := by decide
    refine hnone (Set.eq_empty_of_forall_notMem fun j hj => ?_) bogus less rfl (by decide)
    have hheader : j + 6 ≤ 11 := header_of_mem_stops hj
    exact not_mem_stops_of_look (looks j (by omega)) hj

end Telemetry.Bmp.Decoder
