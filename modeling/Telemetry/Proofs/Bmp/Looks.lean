import Mathlib
import Telemetry.Bmp.Frame

/-!
The frame decoder as a machine that makes one look at a time.

A stream is kept with its history: the packets and events so far, the decoder, and the bytes not
yet consumed. `Drained.step` is one look at those bytes, and `Moves` lists what it can be. A look
that finds something finds the same when more bytes have come behind (`step_append`); and since a
look is a function of the state, a run that has ended is the only one (`Steps.unique`). Every
statement about the decoder is a statement about one step, carried along a run.
-/

namespace Telemetry.Bmp

open Wire

namespace Frame

/-- A whole frame: version 3, a known type, and the declared length is the frame's own and within
the limit. What follows the six bytes may be anything. -/
def Complete (maxLength : Nat) (frame : Octets) : Prop :=
  ∃ a b c d type content, frame = 3 :: a :: b :: c :: d :: type :: content ∧
    (∃ t : MessageType, t.number = type.toNat) ∧
    Octets.value [a, b, c, d] = frame.length ∧ frame.length ≤ maxLength

/-- What is read from a whole frame, if it is a message. -/
def packet? (frame : Octets) : Option Packet := (Packet.read.run frame).1.toOption

variable {maxLength n : Nat} {resyncing : Bool} {buffer frame : Octets}

lemma packet?_eq_some {p : Packet} :
    packet? frame = some p ↔ (Packet.read.run frame).1 = .ok p := by
  cases h : (Packet.read.run frame).1 <;> simp [packet?, h, Except.toOption]

lemma packet?_eq_none : packet? frame = none ↔ ∃ e, (Packet.read.run frame).1 = .error e := by
  cases h : (Packet.read.run frame).1 <;> simp [packet?, h, Except.toOption]

lemma ofNumber?_isSome {k : Nat} :
    (Code.ofNumber? k : Option MessageType).isSome ↔ ∃ t : MessageType, t.number = k := by
  refine ⟨?_, ?_⟩
  · intro h
    obtain ⟨t, ht⟩ := Option.isSome_iff_exists.mp h
    exact ⟨t, Code.number_of_ofNumber? ht⟩
  · rintro ⟨t, rfl⟩
    exact Option.isSome_of_eq_some (Code.ofNumber?_number t)

lemma plausibleLength?_eq_some {header : Octets} :
    plausibleLength? maxLength header = some n ↔
      ∃ a b c d type, header = [3, a, b, c, d, type] ∧
        (∃ t : MessageType, t.number = type.toNat) ∧ Octets.value [a, b, c, d] = n ∧
        commonHeaderLength ≤ n ∧ n ≤ maxLength := by
  refine ⟨?_, ?_⟩
  · intro h
    unfold plausibleLength? at h
    split at h
    · next version a b c d type =>
      dsimp only at h
      split_ifs at h with hc
      obtain ⟨hversion, htype, hlow, hhigh⟩ := hc
      have hversion : version = 3 := UInt8.toNat_inj.mp hversion
      cases h
      exact ⟨a, b, c, d, type, by rw [hversion], ofNumber?_isSome.mp htype, rfl, hlow, hhigh⟩
    · simp at h
  · rintro ⟨a, b, c, d, type, rfl, htype, rfl, hlow, hhigh⟩
    exact if_pos ⟨rfl, ofNumber?_isSome.mpr htype, hlow, hhigh⟩

lemma Complete.plausible (h : Complete maxLength frame) :
    plausibleLength? maxLength (frame.take commonHeaderLength) = some frame.length := by
  obtain ⟨a, b, c, d, type, content, rfl, htype, hlen, hmax⟩ := h
  exact plausibleLength?_eq_some.mpr
    ⟨a, b, c, d, type, rfl, htype, hlen, by simp [commonHeaderLength], hmax⟩

/-- A plausible header begins a whole frame as soon as the declared length is there. -/
lemma complete_take (h : plausibleLength? maxLength (buffer.take commonHeaderLength) = some n)
    (hn : n ≤ buffer.length) : Complete maxLength (buffer.take n) := by
  obtain ⟨a, b, c, d, type, heq, htype, hval, hlow, hhigh⟩ := plausibleLength?_eq_some.mp h
  have hlen : (buffer.take n).length = n := by simp [hn]
  refine ⟨a, b, c, d, type, (buffer.take n).drop commonHeaderLength, ?_, htype, ?_, ?_⟩
  · have hsplit := (List.take_append_drop commonHeaderLength (buffer.take n)).symm
    rw [List.take_take, Nat.min_eq_left hlow, heq] at hsplit
    simpa using hsplit
  · rw [hlen, hval]
  · omega

inductive Front (maxLength : Nat) (buffer : Octets) : Prop where
  | short (few : buffer.length < commonHeaderLength)
  | garbage (enough : commonHeaderLength ≤ buffer.length)
    (none : plausibleLength? maxLength (buffer.take commonHeaderLength) = none)
  | begun {n : Nat} (enough : commonHeaderLength ≤ buffer.length)
    (some : plausibleLength? maxLength (buffer.take commonHeaderLength) = some n)
    (few : buffer.length < n)
  | whole {frame rest : Octets} (split : buffer = frame ++ rest)
    (complete : Complete maxLength frame)

lemma front (maxLength : Nat) (buffer : Octets) : Front maxLength buffer := by
  rcases Nat.lt_or_ge buffer.length commonHeaderLength with few | enough
  · exact .short few
  · cases h : plausibleLength? maxLength (buffer.take commonHeaderLength) with
    | none => exact .garbage enough h
    | some n =>
      rcases Nat.lt_or_ge buffer.length n with few | whole
      · exact .begun enough h few
      · exact .whole (List.take_append_drop n buffer).symm (complete_take h whole)

lemma Complete.length_ge (h : Complete maxLength frame) : commonHeaderLength ≤ frame.length := by
  obtain ⟨a, b, c, d, type, content, rfl, -⟩ := h
  simp [commonHeaderLength]

lemma Complete.length_bounds {rest : Octets} (h : Complete maxLength frame)
    (split : buffer = frame ++ rest) : 0 < frame.length ∧ frame.length ≤ buffer.length := by
  have := h.length_ge
  subst split
  exact ⟨Nat.lt_of_lt_of_le (by decide) this, by simp⟩

lemma look_short (few : buffer.length < commonHeaderLength) :
    look maxLength resyncing buffer = .wait := by
  have : Octets.holds commonHeaderLength buffer = false := by
    rw [Bool.eq_false_iff, Ne, Octets.holds_iff]; omega
  simp [look, this]

lemma look_garbage (enough : commonHeaderLength ≤ buffer.length)
    (none : plausibleLength? maxLength (buffer.take commonHeaderLength) = none) :
    look maxLength resyncing buffer = .skip := by
  simp [look, Octets.holds_iff.mpr enough, none]

lemma look_begun (enough : commonHeaderLength ≤ buffer.length)
    (some : plausibleLength? maxLength (buffer.take commonHeaderLength) = some n)
    (few : buffer.length < n) : look maxLength resyncing buffer = .wait := by
  simp [look, Octets.holds_iff.mpr enough, some, Octets.cut?_eq_none few]

lemma look_whole (complete : Complete maxLength frame) (rest : Octets) :
    look maxLength resyncing (frame ++ rest) =
      match (Packet.read.run frame).1 with
      | .ok p => .packet frame.length p
      | .error e => if resyncing then .skip else .malformed frame.length e := by
  have hlen := complete.length_ge
  have hheader : (frame ++ rest).take commonHeaderLength = frame.take commonHeaderLength :=
    List.take_append_of_le_length hlen
  have hcut : Octets.cut? frame.length (frame ++ rest) = some (frame, rest) := by
    rw [Octets.cut?_eq_some (by simp)]; simp
  have henough : Octets.holds commonHeaderLength (frame ++ rest) = true :=
    Octets.holds_iff.mpr (by rw [List.length_append]; omega)
  cases hread : (Packet.read.run frame).1 <;>
    simp only [look, henough, if_true, hheader, complete.plausible, hcut, hread]

end Frame

open Telemetry.Bmp.Frame

namespace Decoder

namespace Drained

def skip (s : Drained) : Drained :=
  ⟨s.packets, (s.decoder.skip s.buffer).1, s.buffer.drop 1,
    s.events ++ (s.decoder.skip s.buffer).2⟩

/-- A frame of `n` bytes that gave a packet. -/
def accept (s : Drained) (n : Nat) (p : Packet) : Drained :=
  ⟨s.packets ++ [p], s.decoder.accept.1, s.buffer.drop n, s.events ++ s.decoder.accept.2⟩

/-- A frame of `n` bytes that gave none. -/
def drop (s : Drained) (n : Nat) (e : Error) : Drained :=
  ⟨s.packets, (s.decoder.drop n e).1, s.buffer.drop n, s.events ++ (s.decoder.drop n e).2⟩

/-- One look at the bytes left, and what it adds to the history. -/
def step (s : Drained) : Option Drained :=
  match look s.decoder.maxLength s.decoder.resyncing s.buffer with
  | .wait => none
  | .skip => some s.skip
  | .packet n p => some (s.accept n p)
  | .malformed n e => some (s.drop n e)

/-- What a step can be. A byte is skipped when it begins no message, and during a search also when
the frame that it begins is no message. -/
inductive Moves (s : Drained) : Drained → Prop where
  | garbage (enough : commonHeaderLength ≤ s.buffer.length)
    (none : plausibleLength? s.decoder.maxLength (s.buffer.take commonHeaderLength) = none) :
    Moves s s.skip
  | bogus {frame rest : Octets} (searching : s.decoder.resyncing = true)
    (split : s.buffer = frame ++ rest) (complete : Complete s.decoder.maxLength frame)
    (rejected : packet? frame = none) : Moves s s.skip
  | accept {frame rest : Octets} {p : Packet} (split : s.buffer = frame ++ rest)
    (complete : Complete s.decoder.maxLength frame) (read : packet? frame = some p) :
    Moves s (s.accept frame.length p)
  | drop {frame rest : Octets} {e : Error} (inSync : s.decoder.resyncing = false)
    (split : s.buffer = frame ++ rest) (complete : Complete s.decoder.maxLength frame)
    (rejected : (Packet.read.run frame).1 = .error e) : Moves s (s.drop frame.length e)

abbrev Steps : Drained → Drained → Prop := Relation.ReflTransGen fun s t => s.step = some t

def append (s : Drained) (chunk : Octets) : Drained := { s with buffer := s.buffer ++ chunk }

variable {s t u : Drained}

/-! ### Steps -/

lemma step_short (few : s.buffer.length < commonHeaderLength) : s.step = none := by
  rw [step, look_short few]

lemma step_garbage (enough : commonHeaderLength ≤ s.buffer.length)
    (none : plausibleLength? s.decoder.maxLength (s.buffer.take commonHeaderLength) = none) :
    s.step = some s.skip := by
  rw [step, look_garbage enough none]

lemma step_accept {frame rest : Octets} {p : Packet} (split : s.buffer = frame ++ rest)
    (complete : Complete s.decoder.maxLength frame) (read : packet? frame = some p) :
    s.step = some (s.accept frame.length p) := by
  rw [step, split, look_whole complete, packet?_eq_some.mp read]

lemma step_rejected {frame rest : Octets} {e : Error} (split : s.buffer = frame ++ rest)
    (complete : Complete s.decoder.maxLength frame)
    (rejected : (Packet.read.run frame).1 = .error e) :
    s.step = some (if s.decoder.resyncing then s.skip else s.drop frame.length e) := by
  rw [step, split, look_whole complete, rejected]
  cases s.decoder.resyncing <;> rfl

lemma moves_of_step (h : s.step = some t) : Moves s t := by
  cases front s.decoder.maxLength s.buffer with
  | short few => simp [step_short few] at h
  | garbage enough none =>
    rw [step_garbage enough none, Option.some.injEq] at h
    exact h ▸ .garbage enough none
  | begun enough some few => simp [step, look_begun enough some few] at h
  | whole split complete =>
    cases hread : (Packet.read.run _).1 with
    | ok p =>
      rw [step_accept split complete (packet?_eq_some.mpr hread), Option.some.injEq] at h
      exact h ▸ .accept split complete (packet?_eq_some.mpr hread)
    | error e =>
      rw [step_rejected split complete hread, Option.some.injEq] at h
      subst h
      cases hsync : s.decoder.resyncing with
      | true => exact .bogus hsync split complete (packet?_eq_none.mpr ⟨_, hread⟩)
      | false => exact .drop hsync split complete hread

lemma step_shorter (h : s.step = some t) : t.buffer.length < s.buffer.length := by
  cases moves_of_step h with
  | garbage enough none =>
    have : 0 < s.buffer.length := Nat.lt_of_lt_of_le (by decide) enough
    simp only [skip, List.length_drop]; omega
  | bogus searching split complete rejected =>
    have := complete.length_bounds split
    simp only [skip, List.length_drop]; omega
  | accept split complete read =>
    have := complete.length_bounds split
    simp only [accept, List.length_drop]; omega
  | drop inSync split complete rejected =>
    have := complete.length_bounds split
    simp only [drop, List.length_drop]; omega

lemma skip_append (enough : commonHeaderLength ≤ s.buffer.length) (c : Octets) :
    (s.append c).skip = s.skip.append c := by
  have hdrop : 1 ≤ s.buffer.length := Nat.le_trans (by decide) enough
  simp [skip, append, Decoder.skip, List.take_append_of_le_length enough,
    List.drop_append_of_le_length hdrop]

lemma accept_append {n : Nat} (h : n ≤ s.buffer.length) (p : Packet) (c : Octets) :
    (s.append c).accept n p = (s.accept n p).append c := by
  simp [accept, append, List.drop_append_of_le_length h]

lemma drop_append {n : Nat} (h : n ≤ s.buffer.length) (e : Error) (c : Octets) :
    (s.append c).drop n e = (s.drop n e).append c := by
  simp [drop, append, List.drop_append_of_le_length h]

lemma split_append {frame rest : Octets} (split : s.buffer = frame ++ rest) (c : Octets) :
    (s.append c).buffer = frame ++ (rest ++ c) := by
  simp [append, split]

/-- A step is the same step when more bytes have come behind. -/
lemma step_append (h : s.step = some t) (c : Octets) : (s.append c).step = some (t.append c) := by
  cases moves_of_step h with
  | garbage enough none =>
    rw [← skip_append enough]
    refine step_garbage (Nat.le_trans enough (by simp [append])) ?_
    simpa [append, List.take_append_of_le_length enough] using none
  | bogus searching split complete rejected =>
    have hlen := complete.length_bounds split
    obtain ⟨e, he⟩ := packet?_eq_none.mp rejected
    rw [← skip_append (Nat.le_trans complete.length_ge hlen.2),
      step_rejected (split_append split c) complete he]
    simp [append, searching]
  | accept split complete read =>
    rw [← accept_append (complete.length_bounds split).2]
    exact step_accept (split_append split c) complete read
  | drop inSync split complete rejected =>
    rw [← drop_append (complete.length_bounds split).2,
      step_rejected (split_append split c) complete rejected]
    simp [append, inSync]

/-! ### Runs of steps -/

lemma Steps.append (h : Steps s t) (c : Octets) : Steps (s.append c) (t.append c) := by
  induction h with
  | refl => exact .refl
  | tail _ last ih => exact ih.tail (step_append last c)

lemma Steps.length_le (h : Steps s t) : t.buffer.length ≤ s.buffer.length := by
  induction h with
  | refl => exact Nat.le_refl _
  | tail _ last ih => have := step_shorter last; omega

lemma Steps.shorter (h : Steps s t) (hne : s ≠ t) : t.buffer.length < s.buffer.length := by
  rcases Relation.ReflTransGen.cases_head h with rfl | ⟨u, first, rest⟩
  · exact absurd rfl hne
  · have := step_shorter first
    have := Steps.length_le rest
    omega

/-- Of the runs that end where no look is possible there is one only. -/
lemma Steps.unique (ht : Steps s t) (hu : Steps s u) (tend : t.step = none) (uend : u.step = none) :
    t = u := by
  have hright : Relator.RightUnique fun s t : Drained => s.step = some t := by
    intro a b c hb hc
    exact Option.some.inj (hb.symm.trans hc)
  rcases Relation.ReflTransGen.total_of_right_unique hright ht hu with h | h
  · rcases Relation.ReflTransGen.cases_head h with rfl | ⟨v, first, -⟩
    · rfl
    · simp [tend] at first
  · rcases Relation.ReflTransGen.cases_head h with rfl | ⟨v, first, -⟩
    · rfl
    · simp [uend] at first

end Drained

end Decoder

end Telemetry.Bmp
