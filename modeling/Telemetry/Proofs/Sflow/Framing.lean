import Telemetry.Proofs.Sflow.Parts
import Telemetry.Proofs.Wire.Failing
import Telemetry.Proofs.Wire.Pieces

/-!
Datagrams as samples.

What the body of a sample holds does not move the samples behind it. Any bytes are whole samples
and a rest in which no whole sample begins; reading takes the samples up to that rest, and fails
with the first that has no meaning.
-/

namespace Telemetry.Sflow

open Wire Reader

variable {bs rest d left : Octets} {header : Header} {samples : List Sample}

namespace Part

def sample (p : Part) : Except Error Sample :=
  ((mapError Error.inSample (Sample.readBody (.ofWord p.format))).run p.body).1

lemma sample_eq_ok {p : Part} {s : Sample} : p.sample = .ok s ↔ p.Means Sample.readBody s := by
  unfold sample Means
  rw [← exists_run_eq_ok]
  simp only [run_mapError_ok]

lemma read_encode (p : Part) (rest : Octets) :
    Sample.read.run (p.encode ++ rest) = (p.sample, rest) := by
  rw [encode_append, Sample.read, run_bind_of_ok (DataFormat.run_read _ _), run_bind_u32,
    p.toNat_length, run_bind_of_ok (run_take_ok.mpr ⟨rfl, rfl⟩)]
  exact run_inside_fst _ _

/-- A whole sample is in front where the bytes begin with one. -/
lemma isComplete_iff : Sample.isComplete bs = true ↔
    ∃ (p : Part) (rest : Octets), bs = p.encode ++ rest := by
  unfold Sample.isComplete
  refine ⟨?_, ?_⟩
  · intro h
    split at h
    · next head behind hcut =>
      obtain ⟨hhead, rfl⟩ := cut?_eq_some_iff.mp hcut
      have hformat : (head.take 4).length = 4 := by simp [hhead, Sample.headLength]
      have hlength : (head.drop 4).length = 4 := by simp [hhead, Sample.headLength]
      have hvalue := Octets.value_lt (head.drop 4)
      have hcount := Octets.ofNat_value (head.drop 4)
      rw [hlength] at hvalue hcount
      generalize Octets.value (head.drop 4) = n at h hvalue hcount
      have hbody : (behind.take n).length = n := List.length_take_of_le (Octets.holds_iff.mp h)
      let p : Part := ⟨UInt32.ofNat (Octets.value (head.take 4)), behind.take n, by omega⟩
      have hp : p.encode = head ++ behind.take n := by
        show Octets.ofUInt32 (UInt32.ofNat (Octets.value (head.take 4))) ++
          Octets.ofNat 4 (behind.take n).length ++ behind.take n = _
        rw [Octets.ofUInt32_value hformat, hbody, hcount, List.take_append_drop]
      exact ⟨p, behind.drop n, by rw [hp, List.append_assoc, List.take_append_drop]⟩
    · cases h
  · rintro ⟨p, rest, rfl⟩
    have hcut : Octets.cut? Sample.headLength (p.encode ++ rest) =
        some (Octets.ofUInt32 p.format ++ Octets.ofUInt32 (UInt32.ofNat p.body.length),
          p.body ++ rest) := by
      rw [cut?_eq_some_iff, encode_append, List.append_assoc]
      exact ⟨by simp [Octets.ofUInt32, Sample.headLength], rfl⟩
    have hdrop : (Octets.ofUInt32 p.format ++ Octets.ofUInt32 (UInt32.ofNat p.body.length)).drop 4 =
        Octets.ofUInt32 (UInt32.ofNat p.body.length) := List.drop_left' (by simp [Octets.ofUInt32])
    rw [hcut]
    dsimp only
    rw [hdrop, Octets.value_ofUInt32, p.toNat_length, Octets.holds_iff]
    simp

lemma cuts : Cuts Sample.isComplete Sample.read encode sample where
  nonempty := encode_ne_nil
  more_write p rest := isComplete_iff.mpr ⟨p, rest, rfl⟩
  run_write := read_encode

end Part

namespace Header

lemma read_exact : Exact read (·.version = version5) encode := by
  intro bs h rest
  simp only [read, run_bind_ok, run_u32_ok]
  refine ⟨?_, ?_⟩
  · rintro ⟨version, mid, rfl, hread⟩
    split_ifs at hread with hversion
    · simp at hread
    · simp only [run_bind_ok, run_code_ok] at hread
      obtain ⟨type, _, ⟨-, rfl⟩, hread⟩ := hread
      obtain rfl : version = version5 := not_not.mp hversion
      cases type with
      | ipv4 =>
        simp only [run_bind_ok, run_block_ok, run_u32_ok, run_pure_ok] at hread
        obtain ⟨a, _, rfl, _, _, ⟨rfl, rfl⟩, subAgent, _, rfl, sequence, _, rfl, uptime, _, rfl,
          sampleCount, _, rfl, rfl, rfl⟩ := hread
        exact ⟨rfl, by simp only [encode, addressType, Ip.octets, List.append_assoc]⟩
      | ipv6 =>
        simp only [run_bind_ok, run_block_ok, run_u32_ok, run_pure_ok] at hread
        obtain ⟨a, _, rfl, _, _, ⟨rfl, rfl⟩, subAgent, _, rfl, sequence, _, rfl, uptime, _, rfl,
          sampleCount, _, rfl, rfl, rfl⟩ := hread
        exact ⟨rfl, by simp only [encode, addressType, Ip.octets, List.append_assoc]⟩
  · rintro ⟨hversion, rfl⟩
    obtain ⟨version, agent, subAgent, sequence, uptime, sampleCount⟩ := h
    refine ⟨version, _, by simp only [encode, List.append_assoc]; rfl, ?_⟩
    rw [if_neg (not_not.mpr hversion)]
    simp only [run_bind_ok, run_code_ok]
    cases agent with
    | v4 a =>
      refine ⟨.ipv4, _, ⟨by decide, rfl⟩, ?_⟩
      simp only [run_bind_ok, run_block_ok, run_u32_ok, run_pure_ok]
      exact ⟨a, _, rfl, _, _, ⟨rfl, rfl⟩, subAgent, _, rfl, sequence, _, rfl, uptime, _, rfl,
        sampleCount, _, rfl, rfl, rfl⟩
    | v6 a =>
      refine ⟨.ipv6, _, ⟨by decide, rfl⟩, ?_⟩
      simp only [run_bind_ok, run_block_ok, run_u32_ok, run_pure_ok]
      exact ⟨a, _, rfl, _, _, ⟨rfl, rfl⟩, subAgent, _, rfl, sequence, _, rfl, uptime, _, rfl,
        sampleCount, _, rfl, rfl, rfl⟩

end Header

/-- The datagram is a header, samples that have a meaning, and bytes in which no whole sample
begins. -/
def Holds (d : Octets) (header : Header) (samples : List Sample) (left : Octets) : Prop :=
  header.version = version5 ∧ ∃ whole : List Part,
    d = header.encode ++ (whole.flatMap Part.encode ++ left) ∧
    List.Forall₂ (fun p s => p.sample = .ok s) whole samples ∧
    ∀ (p : Part) (rest : Octets), left ≠ p.encode ++ rest

/-- What is read of a datagram before it is looked at what is left. -/
def readFront : Reader Error (Header × List Sample) := do
  let header ← Header.read
  return (header, ← Sample.readAll)

lemma run_readFront_ok : readFront.run d = (.ok (header, samples), left) ↔
    Holds d header samples left := by
  simp only [readFront, run_bind_ok, run_pure_ok, Header.read_exact _ _ _, Prod.mk.injEq]
  refine ⟨?_, ?_⟩
  · rintro ⟨_, mid, ⟨hversion, rfl⟩, _, _, hsamples, ⟨rfl, rfl⟩, rfl⟩
    obtain ⟨whole, behind, rfl, hended⟩ := exists_pieces Part.cuts.nonempty
      (fun _ => Part.isComplete_iff.mp) mid
    obtain ⟨hall, rfl⟩ := (Part.cuts.run_whileLeft hended whole _ _).mp hsamples
    refine ⟨hversion, whole, rfl, hall, fun p rest hleft => ?_⟩
    rw [Part.isComplete_iff.mpr ⟨p, rest, hleft⟩] at hended
    cases hended
  · rintro ⟨hversion, whole, rfl, hall, hnone⟩
    have hended : Sample.isComplete left = false := by
      rw [Bool.eq_false_iff]
      exact fun h => by
        obtain ⟨p, rest, hleft⟩ := Part.isComplete_iff.mp h
        exact hnone p rest hleft
    exact ⟨header, _, ⟨hversion, rfl⟩, samples, left,
      (Part.cuts.run_whileLeft hended whole _ _).mpr ⟨hall, rfl⟩, ⟨rfl, rfl⟩, rfl⟩

/-! ### What strict mode looks at -/

namespace Datagram

lemma check_eq_ok {u : Unit} :
    check header samples left = .ok u ↔ left = [] ∧ samples.length = header.sampleCount.toNat := by
  unfold check
  cases left <;> simp

lemma check_eq_trailing {n : Nat} :
    check header samples left = .error (.trailingBytes n) ↔ left ≠ [] ∧ left.length = n := by
  unfold check
  cases left with
  | nil =>
    simp only [List.isEmpty_nil, Bool.not_true, Bool.false_eq_true, if_false]
    split_ifs <;> simp
  | cons b left => simp

lemma check_eq_miscounted {declared : UInt32} {decoded : Nat} :
    check header samples left = .error (.sampleCountMismatch declared decoded) ↔
      left = [] ∧ samples.length ≠ header.sampleCount.toNat ∧
        declared = header.sampleCount ∧ decoded = samples.length := by
  unfold check
  cases left with
  | nil =>
    simp only [List.isEmpty_nil, Bool.not_true, Bool.false_eq_true, if_false]
    split_ifs with hcount <;> simp [hcount, eq_comm]
  | cons b left => simp

end Datagram

end Telemetry.Sflow
