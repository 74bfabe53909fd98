import Telemetry.Proofs.Bmp.Neighbours
import Telemetry.Proofs.Bmp.Prefixes
import Telemetry.Proofs.Bmp.Reencoding

/-!
The search for the next message, and where it ends at the end of a stream.

While it searches, the decoder passes over a byte that begins neither a message nor a frame that is
still unfinished (`search_steps`). So messages behind garbage are found, also those that a bogus
length in the garbage covers, as long as that length ends inside of what has come. A bogus length
that reaches further is waited for, and when the stream ends there, the messages under it are
discarded with it.
-/

namespace Telemetry.Bmp

open Wire

namespace Frame

def BeginsMessage (maxLength : Nat) (bytes : Octets) : Prop :=
  ∃ frame rest p, bytes = frame ++ rest ∧ Complete maxLength frame ∧ packet? frame = some p

/-- The bytes begin with a plausible header, and end before its frame does. -/
def BeginsUnfinished (maxLength : Nat) (bytes : Octets) : Prop :=
  ∃ n, plausibleLength? maxLength (bytes.take commonHeaderLength) = some n ∧ bytes.length < n

variable {maxLength : Nat} {bytes : Octets}

lemma not_beginsMessage_of_look (h : look maxLength true bytes = .skip ∨
    look maxLength true bytes = .wait) : ¬ BeginsMessage maxLength bytes := by
  rintro ⟨frame, rest, p, rfl, complete, read⟩
  rw [look_whole complete, packet?_eq_some.mp read] at h
  simp at h

lemma look_of_beginsUnfinished {resyncing : Bool} (h : BeginsUnfinished maxLength bytes) :
    look maxLength resyncing bytes = .wait := by
  obtain ⟨n, hplausible, few⟩ := h
  rcases Nat.lt_or_ge bytes.length commonHeaderLength with short | enough
  · exact look_short short
  · exact look_begun enough hplausible few

end Frame

open Telemetry.Bmp.Frame

/-- A header that counts itself and what follows begins a whole frame. -/
lemma CommonHeader.complete {maxLength : Nat} {h : CommonHeader} {body : Octets}
    (counts : h.length.toNat = commonHeaderLength + body.length)
    (fits : h.length.toNat ≤ maxLength) : Complete maxLength (h.encode ++ body) := by
  have hsize : (h.encode ++ body).length = h.length.toNat := by
    rw [List.length_append, length_encode, counts]
  have hdeclares : Declares (h.encode ++ body) h.length.toNat :=
    declares_encode (by rw [CountsItself, counts]; omega)
  obtain ⟨a, b, c, d, type, content, heq, hvalue, -, htype⟩ := hdeclares
  exact ⟨a, b, c, d, type, content, heq, htype, hvalue.trans hsize.symm, hsize ▸ fits⟩

lemma Packet.complete_encode {maxLength : Nat} {p : Packet} (back : (read.run p.encode).1 = .ok p)
    (fits : p.encode.length ≤ maxLength) : Complete maxLength p.encode := by
  obtain ⟨-, -, hfits, -⟩ := wellFormed_of_read_encode back
  have hlength := UInt32.toNat_ofNat_of_lt' hfits
  refine CommonHeader.complete hlength ?_
  rw [hlength]
  rwa [encode, List.length_append, CommonHeader.length_encode] at fits

namespace Decoder

namespace Drained

def passOver (s : Drained) (n : Nat) : Drained :=
  let stats := { s.decoder.stats with skipped := s.decoder.stats.skipped + n }
  { s with decoder := { s.decoder with stats }, buffer := s.buffer.drop n }

variable {s : Drained}

/-- A byte is passed over when it begins neither a message nor an unfinished frame. -/
lemma step_search (searching : s.decoder.resyncing = true)
    (enough : commonHeaderLength ≤ s.buffer.length)
    (message : ¬ BeginsMessage s.decoder.maxLength s.buffer)
    (unfinished : ¬ BeginsUnfinished s.decoder.maxLength s.buffer) :
    s.step = some (s.passOver 1) := by
  have hskip : s.skip = s.passOver 1 := by
    simp [skip, passOver, Decoder.skip, searching]
  rw [← hskip]
  cases front s.decoder.maxLength s.buffer with
  | short few => omega
  | garbage enough none => exact step_garbage enough none
  | begun enough some few => exact absurd ⟨_, some, few⟩ unfinished
  | whole split complete =>
    cases hread : packet? _ with
    | some p => exact absurd ⟨_, _, p, split, complete, hread⟩ message
    | none =>
      obtain ⟨e, he⟩ := packet?_eq_none.mp hread
      rw [step_rejected split complete he, if_pos searching]

lemma search_steps (searching : s.decoder.resyncing = true) (n : Nat)
    (enough : n + commonHeaderLength ≤ s.buffer.length + 1)
    (message : ∀ i < n, ¬ BeginsMessage s.decoder.maxLength (s.buffer.drop i))
    (unfinished : ∀ i < n, ¬ BeginsUnfinished s.decoder.maxLength (s.buffer.drop i)) :
    Steps s (s.passOver n) := by
  induction n with
  | zero => exact .refl
  | succ n ih =>
    have hrun := ih (by omega) (fun i hi => message i (by omega))
      fun i hi => unfinished i (by omega)
    have hnext : (s.passOver n).passOver 1 = s.passOver (n + 1) := by
      simp [passOver, List.drop_drop, Nat.add_assoc]
    refine hrun.tail ?_
    rw [← hnext]
    refine step_search searching ?_ (message n (by omega)) (unfinished n (by omega))
    simp only [passOver, List.length_drop]
    omega

end Drained

/-! ### The end of a stream -/

lemma Exhausts.eq_drain {d : Decoder} {b : Octets} {r : Drained} (h : Exhausts decode d b r) :
    d.drain b = r := by
  obtain ⟨hrun, hend⟩ := h.steps [] []
  have := drain_unique hrun hend
  rwa [start_andThen, start_andThen] at this

/-- At the end of a stream the same packets come as before it. -/
lemma Exhausts.packets_eof {d : Decoder} {b : Octets} {r : Drained}
    (h : Exhausts decodeEof d b r) : r.packets = (d.drain b).packets := by
  induction h with
  | @last d b none =>
    rw [decodeEof_packet] at none
    rw [(Exhausts.last none).eq_drain]
  | @more d b p r some rest ih =>
    rw [decodeEof_packet] at some
    rw [decodeEof_of_some some] at ih
    rw [(Exhausts.more some (drain_exhausts _ _)).eq_drain, ih]

/-- Where some looks lead to a state in which none is possible, the packets are those found by
then. -/
lemma packets_drainEof {d : Decoder} {b : Octets} {t : Drained}
    (hrun : Drained.Steps ⟨[], d, b, []⟩ t) (tend : t.step = none) :
    (d.drainEof b).packets = t.packets := by
  rw [(drainEof_exhausts d b).packets_eof, ← drain_unique hrun tend, start_andThen]

section Behind

variable {d : Decoder} {buffer garbage : Octets} {packets : List Packet}

lemma header_behind (split : buffer = garbage ++ packets.flatMap Packet.encode)
    (nonempty : packets ≠ []) (complete : ∀ p ∈ packets, Complete d.maxLength p.encode) :
    garbage.length + commonHeaderLength ≤ buffer.length := by
  obtain ⟨p, ps, rfl⟩ := List.exists_cons_of_ne_nil nonempty
  have := (complete p (by simp)).length_ge
  simp only [split, List.flatMap_cons, List.length_append]
  omega

/-- Behind garbage in which the search passes over every byte, all messages are found. -/
lemma packets_behind (split : buffer = garbage ++ packets.flatMap Packet.encode)
    (searching : d.resyncing = true) (nonempty : packets ≠ [])
    (complete : ∀ p ∈ packets, Complete d.maxLength p.encode)
    (read : ∀ p ∈ packets, packet? p.encode = some p)
    (message : ∀ i < garbage.length, ¬ BeginsMessage d.maxLength (buffer.drop i))
    (unfinished : ∀ i < garbage.length, ¬ BeginsUnfinished d.maxLength (buffer.drop i)) :
    (d.drainEof buffer).packets = packets := by
  have enough := header_behind split nonempty complete
  obtain ⟨p, ps, rfl⟩ := List.exists_cons_of_ne_nil nonempty
  set s : Drained := ⟨[], d, buffer, []⟩ with hs
  have hsearch : Drained.Steps s (s.passOver garbage.length) :=
    Drained.search_steps searching garbage.length (Nat.le_succ_of_le enough) message unfinished
  have hfound : (s.passOver garbage.length).buffer = p.encode ++ ps.flatMap Packet.encode := by
    simp [hs, Drained.passOver, split]
  have hfirst := Drained.step_accept hfound (complete p (by simp)) (read p (by simp))
  -- The first message ends the search, and in sync the others follow frame by frame.
  obtain ⟨t, hothers, hpackets, -, hbuffer⟩ := frames_steps (ps.map Packet.encode) []
    ((s.passOver garbage.length).accept p.encode.length p) rfl
    (fun f hf => by
      obtain ⟨q, hq, rfl⟩ := List.mem_map.mp hf
      exact complete q (by simp [hq]))
    (by simp [Drained.accept, hfound, List.flatMap_def])
  have hread : (ps.map Packet.encode).filterMap packet? = ps := by
    rw [List.filterMap_map]
    exact (List.filterMap_congr fun q hq => read q (by simp [hq])).trans List.filterMap_some
  rw [packets_drainEof ((hsearch.tail hfirst).trans hothers)
    (Drained.step_short (by rw [hbuffer]; decide)), hpackets, hread]
  rfl

/-- Where the garbage begins a frame that does not end, nothing behind is found. -/
lemma packets_unfinished (split : buffer = garbage ++ packets.flatMap Packet.encode)
    (searching : d.resyncing = true) (nonempty : packets ≠ [])
    (complete : ∀ p ∈ packets, Complete d.maxLength p.encode)
    (message : ∀ i < garbage.length, ¬ BeginsMessage d.maxLength (buffer.drop i))
    (unfinished : ∃ i < garbage.length, BeginsUnfinished d.maxLength (buffer.drop i)) :
    (d.drainEof buffer).packets = [] := by
  classical
  have enough := header_behind split nonempty complete
  -- The search ends at the first such offset.
  obtain ⟨first, ⟨hinside, hwaits⟩, hfirst⟩ :
      ∃ n, (n < garbage.length ∧ BeginsUnfinished d.maxLength (buffer.drop n)) ∧
        ∀ i < n, ¬ BeginsUnfinished d.maxLength (buffer.drop i) :=
    ⟨Nat.find unfinished, Nat.find_spec unfinished, fun i hi hu =>
      Nat.find_min unfinished hi ⟨hi.trans (Nat.find_spec unfinished).1, hu⟩⟩
  set s : Drained := ⟨[], d, buffer, []⟩ with hs
  have hsearch : Drained.Steps s (s.passOver first) :=
    Drained.search_steps searching first (by simp only [hs]; omega)
      (fun i hi => message i (hi.trans hinside)) hfirst
  have hend : (s.passOver first).step = none := by
    rw [Drained.step]
    simp only [Drained.passOver, hs, look_of_beginsUnfinished hwaits]
  rw [packets_drainEof hsearch hend]
  rfl

end Behind

/-- **Messages behind garbage, at the end of a stream.** A search through garbage that hides no
message finds the messages behind it, all of them and in order, if and only if no header in the
garbage declares more bytes than have come; where one does, none of them is found. -/
theorem drainEof_behind_iff (d : Decoder) (garbage : Octets) (packets : List Packet)
    (searching : d.resyncing = true) (nonempty : packets ≠ [])
    (back : ∀ p ∈ packets, (Packet.read.run p.encode).1 = .ok p)
    (fits : ∀ p ∈ packets, p.encode.length ≤ d.maxLength)
    (message : ∀ i < garbage.length,
      ¬ BeginsMessage d.maxLength ((garbage ++ packets.flatMap Packet.encode).drop i)) :
    let buffer := garbage ++ packets.flatMap Packet.encode
    let unfinished := ∃ i < garbage.length, BeginsUnfinished d.maxLength (buffer.drop i)
    Exhausts decodeEof d buffer (d.drainEof buffer) ∧
      ((d.drainEof buffer).packets = packets ↔ ¬ unfinished) ∧
      (unfinished → (d.drainEof buffer).packets = []) := by
  intro buffer unfinished
  have complete : ∀ p ∈ packets, Complete d.maxLength p.encode :=
    fun p hp => Packet.complete_encode (back p hp) (fits p hp)
  have hnone : unfinished → (d.drainEof buffer).packets = [] :=
    packets_unfinished rfl searching nonempty complete message
  refine ⟨drainEof_exhausts d buffer, ⟨fun hall hu => ?_, fun hu => ?_⟩, hnone⟩
  · exact nonempty (hall.symm.trans (hnone hu))
  · exact packets_behind rfl searching nonempty complete
      (fun p hp => packet?_eq_some.mpr (back p hp)) message fun i hi hb => hu ⟨i, hi, hb⟩

/-- The garbage is a header that counts eight bytes, two of the message behind it. -/
theorem drainEof_behind_bogus :
    let d : Decoder := ⟨1000, true, {}⟩
    let garbage : Octets := [3, 0, 0, 0, 8, 2]
    let p := Packet.ofMessage (.initiation [])
    (Packet.read.run p.encode).1 = .ok p ∧
      (d.drainEof (garbage ++ [p].flatMap Packet.encode)).packets = [p] := by
  intro d garbage p
  have back : (Packet.read.run p.encode).1 = .ok p := by decide
  have hlook : ∀ i < garbage.length,
      look 1000 true ((garbage ++ [p].flatMap Packet.encode).drop i) = .skip := by decide
  have message : ∀ i < garbage.length,
      ¬ BeginsMessage d.maxLength ((garbage ++ [p].flatMap Packet.encode).drop i) :=
    fun i hi => not_beginsMessage_of_look (.inl (hlook i hi))
  obtain ⟨-, hiff, -⟩ := drainEof_behind_iff d garbage [p] rfl (by simp) (by simpa using back)
    (by simp only [List.mem_singleton, forall_eq]; decide) message
  refine ⟨back, hiff.mpr ?_⟩
  rintro ⟨i, hi, hunfinished⟩
  have hwait : Look.skip = .wait := (hlook i hi).symm.trans (look_of_beginsUnfinished hunfinished)
  cases hwait

/-- **A message lost under a bogus length.** A header in the garbage counts 256 bytes. The stream
ends with the message behind it, and the message is discarded. -/
theorem drainEof_behind_fails :
    let d : Decoder := ⟨1000, true, {}⟩
    let garbage : Octets := [3, 0, 0, 1, 0, 4]
    let p := Packet.ofMessage (.initiation [])
    (Packet.read.run p.encode).1 = .ok p ∧ p.encode.length ≤ d.maxLength ∧
      (∀ i < garbage.length,
        ¬ BeginsMessage d.maxLength ((garbage ++ [p].flatMap Packet.encode).drop i)) ∧
      (d.drainEof (garbage ++ [p].flatMap Packet.encode)).packets ≠ [p] := by
  intro d garbage p
  have hlook : ∀ i < garbage.length,
      look 1000 true ((garbage ++ [p].flatMap Packet.encode).drop i) = .skip ∨
        look 1000 true ((garbage ++ [p].flatMap Packet.encode).drop i) = .wait := by decide
  exact ⟨by decide, by decide, fun i hi => not_beginsMessage_of_look (hlook i hi), by decide⟩

end Decoder

end Telemetry.Bmp
