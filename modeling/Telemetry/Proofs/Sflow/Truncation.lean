import Telemetry.Proofs.Sflow.Modes
import Telemetry.Proofs.Sflow.RoundTrip
import Telemetry.Proofs.Wire.Growing

/-!
Datagrams that are cut short.

A datagram can be cut inside its header, inside a sample or between two samples. In the header
bytes are wanting. A beginning of a sample is never a sample, so the whole samples of the front are
the first samples of the datagram, those that end in it. Strict mode refuses what is left behind
them, and where nothing is left it counts: there are fewer samples than the header announces.
-/

namespace Telemetry.Sflow

open Wire Reader

variable {d : Octets} {n : Nat}

namespace Part

variable {p q : Part} {a b : Octets} {parts : List Part} {front : Nat}

/-- No part is the beginning of another one. -/
lemma encode_append_inj (h : p.encode ++ a = q.encode ++ b) : p = q ∧ a = b := by
  have hword : ∀ m n : UInt32, Octets.ofUInt32 m = Octets.ofUInt32 n → m = n := fun m n hmn =>
    UInt32.toNat_inj.mp (by rw [← Octets.value_ofUInt32, hmn, Octets.value_ofUInt32])
  rw [encode_append, encode_append] at h
  obtain ⟨hformat, h⟩ := List.append_inj h (by simp [Octets.ofUInt32])
  obtain ⟨hlength, h⟩ := List.append_inj h (by simp [Octets.ofUInt32])
  have hlen := congrArg UInt32.toNat (hword _ _ hlength)
  rw [p.toNat_length, q.toNat_length] at hlen
  obtain ⟨hbody, hbehind⟩ := List.append_inj h hlen
  obtain ⟨format, body, fits⟩ := p
  obtain ⟨format', body', fits'⟩ := q
  obtain rfl : body = body' := hbody
  obtain rfl := hword _ _ hformat
  exact ⟨rfl, hbehind⟩

lemma flatMap_encode_inj {qs : List Part} (h : parts.flatMap encode = qs.flatMap encode) :
    parts = qs := by
  induction parts generalizing qs with
  | nil =>
    cases qs with
    | nil => rfl
    | cons q qs => exact absurd (List.append_eq_nil_iff.mp h.symm).1 q.encode_ne_nil
  | cons p parts ih =>
    cases qs with
    | nil => exact absurd (List.append_eq_nil_iff.mp h).1 p.encode_ne_nil
    | cons q qs =>
      obtain ⟨rfl, hlater⟩ := encode_append_inj h
      rw [ih hlater]

/-- In a part that is cut short no whole part begins. -/
lemma take_ne (few : n < p.encode.length) (q : Part) (rest : Octets) :
    p.encode.take n ≠ q.encode ++ rest := by
  intro h
  have hwhole : p.encode ++ [] = q.encode ++ (rest ++ p.encode.drop n) := by
    rw [← List.append_assoc, ← h, List.take_append_drop, List.append_nil]
  obtain ⟨rfl, -⟩ := encode_append_inj hwhole
  have := congrArg List.length h
  rw [List.length_append, List.length_take] at this
  omega

/-! ### Where parts end -/

/-- Where the parts end, one behind the other, when the first begins at `front`. -/
def ends (front : Nat) : List Part → List Nat
  | [] => []
  | p :: parts => (front + p.encode.length) :: ends (front + p.encode.length) parts

/-- How many of the parts end within the first `n` bytes. -/
def within (front n : Nat) (parts : List Part) : Nat := (ends front parts).countP (· ≤ n)

lemma le_of_mem_ends {e : Nat} (h : e ∈ ends front parts) : front ≤ e := by
  induction parts generalizing front with
  | nil => cases h
  | cons p parts ih =>
    rcases List.mem_cons.mp h with rfl | hlater
    · exact Nat.le_add_right ..
    · have := ih hlater
      omega

lemma within_cons (front n : Nat) (p : Part) (parts : List Part) :
    within front n (p :: parts) = if front + p.encode.length ≤ n then
      within (front + p.encode.length) n parts + 1 else 0 := by
  by_cases h : front + p.encode.length ≤ n
  · rw [if_pos h, within, ends, List.countP_cons_of_pos (by simpa using h), within]
  · rw [if_neg h, within, List.countP_eq_zero]
    intro e he
    have : front + p.encode.length ≤ e := by
      rcases List.mem_cons.mp he with rfl | hlater
      · exact Nat.le_refl _
      · exact le_of_mem_ends hlater
    simp only [decide_eq_true_eq]
    omega

/-- The front of parts in a row is the parts that end in it, and bytes in which no whole part
begins. -/
lemma exists_cut (parts : List Part) (h : front ≤ n) :
    ∃ left, (parts.flatMap encode).take (n - front) =
        (parts.take (within front n parts)).flatMap encode ++ left ∧
      ∀ (p : Part) (rest : Octets), left ≠ p.encode ++ rest := by
  induction parts generalizing front with
  | nil => exact ⟨[], by simp, fun p rest hnil =>
      p.encode_ne_nil (List.append_eq_nil_iff.mp hnil.symm).1⟩
  | cons p parts ih =>
    rw [within_cons, List.flatMap_cons]
    split_ifs with hin
    · obtain ⟨left, hleft, hnone⟩ := ih hin
      refine ⟨left, ?_, hnone⟩
      rw [List.take_append, List.take_of_length_le (by omega), List.take_succ_cons,
        List.flatMap_cons, List.append_assoc, ← hleft, Nat.sub_sub]
    · have few : n - front < p.encode.length := by omega
      refine ⟨p.encode.take (n - front), ?_, take_ne few⟩
      rw [List.take_append_of_le_length few.le]
      simp

end Part

namespace Header

/-- How long a header is: an address is four bytes long or sixteen. -/
def wireLength (h : Header) : Nat :=
  match h.agent with
  | .v4 _ => 28
  | .v6 _ => 40

lemma length_encode (h : Header) : h.encode.length = h.wireLength := by
  obtain ⟨version, agent, subAgent, sequence, uptime, sampleCount⟩ := h
  cases agent with
  | v4 a => simp [encode, wireLength, Ip.octets, Octets.ofUInt32, a.length_octets]
  | v6 a => simp [encode, wireLength, Ip.octets, Octets.ofUInt32, a.length_octets]

end Header

/-! ### Datagrams -/

namespace Error

def IsShort (e : Error) : Prop := e.isInsufficient = true

lemma admitsShort : AdmitsShort IsShort := fun _ _ => rfl

end Error

open Error (IsShort admitsShort)

lemma Header.steady_read : Steady Header.read IsShort := by
  have hu32 : Steady (Reader.u32 : Reader Error UInt32) IsShort := steady_u32 admitsShort
  unfold Header.read
  refine hu32.bind fun version => ?_
  split_ifs
  · exact steady_fail _
  · refine (steady_code admitsShort 4).bind fun type => ?_
    cases type
    all_goals
      refine (steady_block admitsShort _).bind fun a => (steady_pure _).bind fun agent => ?_
      exact hu32.bind fun _ => hu32.bind fun _ => hu32.bind fun _ => hu32.bind fun _ =>
        steady_pure _

lemma Header.failsShort_take {header : Header} {mid : Octets} (hversion : header.version = version5)
    (few : n < header.wireLength) :
    FailsShort Header.read IsShort ((header.encode ++ mid).take n) := by
  refine (Header.steady_read _ ((header.encode ++ mid).drop n)).resolve_right fun hmore => ?_
  -- else the same header would be read of the bytes in front, and they are too few for it
  rw [List.take_append_drop, (Header.read_exact _ _ _).mpr ⟨hversion, rfl⟩] at hmore
  have hanswer := (Prod.mk.inj hmore).1
  have htake := ((Header.read_exact _ _ _).mp (Prod.ext hanswer.symm rfl)).2
  have := congrArg List.length htake
  rw [List.length_take, List.length_append, List.length_append, Header.length_encode] at this
  omega

namespace Datagram

variable {header : Header} {samples : List Sample} {parts : List Part} {left : Octets}

/-- Strict mode refuses the front of parts that are all there are: there are bytes left behind the
whole ones, or it misses samples. -/
lemma check_cut (hcount : samples.length = header.sampleCount.toNat)
    (hlength : parts.length = samples.length) {k : Nat}
    (hcut : (parts.flatMap Part.encode).take n = (parts.take k).flatMap Part.encode ++ left)
    (few : n < (parts.flatMap Part.encode).length) :
    ∃ e, check header (samples.take k) left = .error e := by
  cases hcheck : check header (samples.take k) left with
  | error e => exact ⟨e, rfl⟩
  | ok u =>
    obtain ⟨rfl, hall⟩ := check_eq_ok.mp hcheck
    rw [List.length_take] at hall
    rw [List.take_of_length_le (by omega : parts.length ≤ k), List.append_nil] at hcut
    have := congrArg List.length hcut
    rw [List.length_take] at this
    omega

/-- **A datagram that is cut short is never taken for a whole one.** A datagram that strict mode
accepts is its header and samples in a row, in one way only. Cut inside the header it fails in both
modes for want of bytes. Cut anywhere behind, it is refused by strict mode as not holding what it
announces, and lenient mode gives the same header and the samples that end in front of the cut. -/
theorem read_truncated {p : Datagram} {dropped : Nat} {rest : Octets}
    (h : (read .strict).run d = (.ok ⟨p, dropped⟩, rest)) :
    (∃ parts : List Part, d = p.header.encode ++ parts.flatMap Part.encode) ∧
    ∀ parts : List Part, d = p.header.encode ++ parts.flatMap Part.encode →
      List.Forall₂ (fun part s => part.sample = .ok s) parts p.samples ∧
      ∀ n < d.length,
        (n < p.header.wireLength → ∀ mode, ∃ e left,
          (read mode).run (d.take n) = (.error e, left) ∧ e.isInsufficient = true) ∧
        (p.header.wireLength ≤ n →
          (∃ e left, (read .strict).run (d.take n) = (.error e, left) ∧ e.isStrict = true) ∧
          ∃ dropped, (read .lenient).run (d.take n) =
            (.ok ⟨⟨p.header, p.samples.take (Part.within p.header.wireLength n parts)⟩, dropped⟩,
              [])) := by
  obtain ⟨⟨⟨hversion, whole, hwhole, hsamples, -⟩, hcount⟩, -⟩ := run_strict_ok.mp h
  rw [List.append_nil] at hwhole
  refine ⟨⟨whole, hwhole⟩, fun parts hparts => ?_⟩
  obtain rfl : whole = parts :=
    Part.flatMap_encode_inj (List.append_cancel_left (hwhole.symm.trans hparts))
  refine ⟨hsamples, fun n hn => ⟨fun few mode => ?_, fun enough => ?_⟩⟩
  · obtain ⟨e, he, hshort⟩ := (Header.failsShort_take hversion few).bind _
    exact ⟨e, _, Prod.ext (by rw [hwhole]; exact he) rfl, hshort⟩
  · have hlength := p.header.length_encode
    rw [hwhole, List.length_append, hlength] at hn
    obtain ⟨left, hcut, hnone⟩ := Part.exists_cut whole enough
    have hholds : Holds (d.take n) p.header
        (p.samples.take (Part.within p.header.wireLength n whole)) left := by
      refine ⟨hversion, _, ?_, List.forall₂_take _ hsamples, hnone⟩
      rw [hwhole, List.take_append, List.take_of_length_le (by omega), hlength, hcut]
    obtain ⟨hlenient, hstrict⟩ := read_of_holds hholds
    obtain ⟨e, hcheck⟩ := check_cut hcount hsamples.length_eq hcut (by omega)
    rw [hcheck] at hstrict
    exact ⟨⟨e, left, hstrict, isStrict_of_check hcheck⟩, left.length, hlenient⟩

/-- Two samples without a meaning here, cut inside the header, inside the second sample and between
the two. -/
theorem read_truncated_unknown :
    let header : Header := ⟨5, .v4 (Block.ofNat 4 0x0a000001), 0, 1, 60, 2⟩
    let first : Sample := .unknown (.standard 9) [1, 2, 3, 4]
    let p : Datagram := ⟨header, [first, .unknown (.standard 9) [5, 6]]⟩
    (read .strict).run p.encode = (.ok ⟨p, 0⟩, []) ∧
      (∀ mode, ∃ e left, (read mode).run (p.encode.take 27) = (.error e, left) ∧
        e.isInsufficient = true) ∧
      ∀ n ∈ [40, 45],
        (∃ e left, (read .strict).run (p.encode.take n) = (.error e, left) ∧ e.isStrict = true) ∧
        ∃ dropped, (read .lenient).run (p.encode.take n) =
          (.ok ⟨⟨header, [first]⟩, dropped⟩, []) := by
  intro header first p
  have h : (read .strict).run p.encode = (.ok ⟨p, 0⟩, []) := by decide +kernel
  let parts : List Part := [⟨9, [1, 2, 3, 4], by decide⟩, ⟨9, [5, 6], by decide⟩]
  obtain ⟨-, hcut⟩ := read_truncated h
  obtain ⟨-, hcut⟩ := hcut parts (by decide)
  refine ⟨h, (hcut 27 (by decide)).1 (by decide), fun n hn => ?_⟩
  have hbounds : n < p.encode.length ∧ header.wireLength ≤ n ∧
      Part.within header.wireLength n parts = 1 := by
    revert n
    decide
  obtain ⟨hstrict, hlenient⟩ := (hcut n hbounds.1).2 hbounds.2.1
  rw [hbounds.2.2] at hlenient
  exact ⟨hstrict, hlenient⟩

end Datagram

end Telemetry.Sflow
