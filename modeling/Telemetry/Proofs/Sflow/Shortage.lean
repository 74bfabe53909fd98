import Telemetry.Proofs.Sflow.Truncation

/-!
When a datagram is said to be too short.

Bytes are wanting where the header is not there as a whole, and only there. Behind it a sample is
looked at when all of it has come, so what goes wrong in it is its own fault, and the checks of
strict mode have errors of their own.
-/

namespace Telemetry.Sflow

open Wire Reader
open Error (IsShort admitsShort)

variable {d mid rest : Octets}

/-! ### Headers -/

def AddressType.headerLength : AddressType → Nat
  | ipv4 => 28
  | ipv6 => 40

namespace Header

/-- The bytes end inside a header, and no field that is complete in them is invalid: they end
inside the version, or behind it inside the type of the address, or behind that where the header
goes on. -/
inductive Unfinished : Octets → Prop where
  | version {d : Octets} (few : d.length < 4) : Unfinished d
  | address {d : Octets} (few : d.length < 4) : Unfinished (Octets.ofUInt32 version5 ++ d)
  | fields (type : AddressType) {d : Octets} (few : 8 + d.length < type.headerLength) :
    Unfinished (Octets.ofUInt32 version5 ++ (Octets.ofNat 4 (Code.number type) ++ d))

lemma wants_behind (version : UInt32) (type : AddressType) : Wants (do
    let agent ← match type with
      | .ipv4 => do pure (Ip.v4 (← Reader.block 4))
      | .ipv6 => do pure (Ip.v6 (← Reader.block 16))
    return {
      version
      agent
      subAgent := ← Reader.u32
      sequence := ← Reader.u32
      uptime := ← Reader.u32
      sampleCount := ← Reader.u32 } : Reader Error Header) IsShort (type.headerLength - 8) := by
  have hu32 : Wants (u32 : Reader Error UInt32) IsShort 4 := wants_u32 admitsShort
  have hfields : ∀ agent, Wants _ IsShort 16 := fun (agent : Ip) => hu32.bind fun subAgent =>
    hu32.bind fun sequence => hu32.bind fun uptime => hu32.bind fun sampleCount =>
      wants_pure (⟨version, agent, subAgent, sequence, uptime, sampleCount⟩ : Header)
  cases type with
  | ipv4 => exact (wants_block admitsShort 4).bind fun _ => (wants_pure _).bind hfields
  | ipv6 => exact (wants_block admitsShort 16).bind fun _ => (wants_pure _).bind hfields

lemma failsShort_read_iff : FailsShort Header.read IsShort d ↔ Unfinished d := by
  have hknown : ∀ n, ¬ IsShort (HasFault.ofFault (.unrecognized (Code.title AddressType) n)) :=
    fun _ => nofun
  have hcode : ∀ type : AddressType, Code.number type < 256 ^ 4 := Code.number_lt (by decide)
  unfold Header.read
  simp only [failsShort_bind_iff, failsShort_u32_iff admitsShort, run_u32_ok]
  refine ⟨?_, ?_⟩
  · rintro (few | ⟨version, mid, rfl, h⟩)
    · exact .version few
    split_ifs at h with hversion
    · cases failsShort_fail_iff.mp h
    obtain rfl : version = version5 := not_not.mp hversion
    rcases failsShort_bind_iff.mp h with few | ⟨type, rest, htype, hbehind⟩
    · exact .address ((failsShort_code_iff admitsShort hknown).mp few)
    obtain ⟨-, rfl⟩ := run_code_ok.mp htype
    have few := (wants_behind version5 type).failsShort_iff.mp hbehind
    exact .fields type (by omega)
  · rintro (few | few | ⟨type, few⟩)
    · exact .inl few
    · refine .inr ⟨version5, _, rfl, ?_⟩
      rw [if_neg (not_not.mpr rfl)]
      exact ((failsShort_code_iff admitsShort hknown).mpr few).bind _
    · refine .inr ⟨version5, _, rfl, ?_⟩
      rw [if_neg (not_not.mpr rfl), failsShort_bind_of_ok (run_code_ok.mpr ⟨hcode type, rfl⟩)]
      exact (wants_behind version5 type).failsShort_iff.mpr (by omega)

end Header

/-! ### Behind the header -/

lemma Error.isInsufficient_inSample (e : Error) : e.inSample.isInsufficient = false := by
  cases e with
  | wire f => exact f.isInsufficient_inSlice _
  | _ => rfl

lemma Part.isInsufficient_of_sample {p : Part} {e : Error} (h : p.sample = .error e) :
    e.isInsufficient = false := by
  have hbody : FailsOnly (mapError Error.inSample (Sample.readBody (.ofWord p.format)))
      fun e => e.isInsufficient = false := .mapError fun _ e _ _ => e.isInsufficient_inSample
  exact hbody p.body e _ (Prod.ext h rfl)

lemma Sample.not_failsShort_readAll : ¬ FailsShort Sample.readAll IsShort d := by
  have hlong : FailsOnly Sample.readAll fun e => e.isInsufficient = false := by
    refine failsOnly_whileLeft fun bs e rest hmore hrun => ?_
    obtain ⟨p, behind, rfl⟩ := Part.isComplete_iff.mp hmore
    rw [Part.read_encode] at hrun
    exact p.isInsufficient_of_sample (Prod.mk.inj hrun).1
  rintro ⟨e, he, hshort⟩
  cases hshort.symm.trans (hlong d e _ (Prod.ext he rfl))

lemma Datagram.not_isInsufficient_of_check {header : Header} {samples : List Sample} {e : Error}
    (h : check header samples rest = .error e) : e.isInsufficient = false := by
  unfold check at h
  split_ifs at h <;> cases h <;> rfl

/-- A datagram whose samples all have a meaning lacks nothing. -/
lemma Datagram.not_failsShort_of_holds {header : Header} {samples : List Sample}
    (h : Holds d header samples rest) (mode : Mode) :
    ¬ FailsShort (Datagram.read mode) IsShort d := by
  obtain ⟨hlenient, hstrict⟩ := read_of_holds h
  rintro ⟨e, he, hshort⟩
  cases mode with
  | lenient =>
    rw [hlenient] at he
    cases he
  | strict =>
    rw [hstrict] at he
    cases hcheck : Datagram.check header samples rest with
    | ok u => simp [hcheck] at he
    | error e' =>
      obtain rfl : e' = e := by simpa [hcheck] using he
      cases hshort.symm.trans (not_isInsufficient_of_check hcheck)

/-- Both modes want bytes where the header does. -/
lemma Datagram.failsShort_read_iff (mode : Mode) :
    FailsShort (Datagram.read mode) IsShort d ↔ Header.Unfinished d := by
  rw [← Header.failsShort_read_iff]
  refine ⟨fun h => ?_, fun h => h.bind _⟩
  rcases failsShort_bind_iff.mp h with hshort | ⟨header, mid, hheader, hbehind⟩
  · exact hshort
  rcases failsShort_bind_iff.mp hbehind with hshort | ⟨samples, left, hsamples, -⟩
  · exact absurd hshort Sample.not_failsShort_readAll
  · have hholds : Holds d header samples left :=
      run_readFront_ok.mp ((run_bind_of_ok hheader).trans (run_bind_of_ok hsamples))
    exact absurd h (not_failsShort_of_holds hholds mode)

end Telemetry.Sflow
