import Telemetry.Bmp.PeerReport
import Telemetry.Proofs.Wire.Reading

/-!
Which statistics are read, and from which bytes.

The width of a known statistic says how its value is to be taken, and the three ways have three
widths, so nothing is lost; the value of an unknown one is kept as it comes. A list begins with its
count, which has four bytes: a list too long for it is written whole with its count reduced, and
the counters behind that count are not read.
-/

namespace Telemetry.Bmp

open Wire Reader

variable {bs rest : Octets}

namespace StatData

/-- The value has one of the three widths that are known. -/
def IsKnown : StatData → Prop
  | unknown _ => False
  | _ => True

lemma ofKnown?_encode {d : StatData} (h : d.IsKnown) : ofKnown? d.encode = some d := by
  cases d with
  | counter v =>
    have hlength : (Octets.ofUInt32 v).length = 4 := Octets.length_ofNat 4 v.toNat
    simp only [ofKnown?, encode, hlength, Octets.value_ofUInt32, UInt32.ofNat_toNat]
  | gauge v =>
    have hlength : (Octets.ofUInt64 v).length = 8 := Octets.length_ofNat 8 v.toNat
    simp only [ofKnown?, encode, hlength, Octets.value_ofUInt64, UInt64.ofNat_toNat]
  | familyGauge afi safi v =>
    have hafi : (Octets.ofUInt16 afi).length = 2 := Octets.length_ofNat 2 afi.toNat
    have hv : (Octets.ofUInt64 v).length = 8 := Octets.length_ofNat 8 v.toNat
    have hlength : (familyGauge afi safi v).encode.length = 11 := by
      simp [encode, hafi, hv, Octets.ofUInt8]
    have htake : (familyGauge afi safi v).encode.take 2 = Octets.ofUInt16 afi := by
      rw [encode, List.append_assoc, List.take_left' hafi]
    have hmid : ((familyGauge afi safi v).encode.drop 2).take 1 = [safi] := by
      rw [encode, List.append_assoc, List.drop_left' hafi]
      rfl
    have hdrop : (familyGauge afi safi v).encode.drop 3 = Octets.ofUInt64 v := by
      rw [encode, List.drop_left' (by simp [hafi, Octets.ofUInt8])]
    simp only [ofKnown?, hlength, htake, hmid, hdrop, Octets.value_ofUInt16,
      Octets.value_ofUInt64, UInt16.ofNat_toNat, UInt64.ofNat_toNat]
    simp [Octets.value]
  | unknown bs => exact absurd h id

lemma of_ofKnown? {d : StatData} (h : ofKnown? bs = some d) : d.IsKnown ∧ d.encode = bs := by
  unfold ofKnown? at h
  split at h
  · next hlength =>
    cases h
    exact ⟨trivial, Octets.ofUInt32_value hlength⟩
  · next hlength =>
    cases h
    exact ⟨trivial, Octets.ofUInt64_value hlength⟩
  · next hlength =>
    cases h
    refine ⟨trivial, ?_⟩
    obtain ⟨b, hb⟩ : ∃ b, (bs.drop 2).take 1 = [b] :=
      List.length_eq_one_iff.mp (by simp [hlength])
    have hcut : bs.take 2 ++ [b] ++ bs.drop 3 = bs := by
      rw [← hb, ← List.take_add, List.take_append_drop]
    rw [encode, Octets.ofUInt16_value (by simp [hlength]),
      Octets.ofUInt64_value (by simp [hlength]), hb]
    simpa [Octets.value, Octets.ofUInt8] using hcut
  · simp at h

lemma IsKnown.length_le {d : StatData} (h : d.IsKnown) : d.encode.length ≤ 65535 := by
  cases d with
  | unknown bs => exact absurd h id
  | _ => simp [encode, Octets.ofUInt8, Octets.ofUInt16, Octets.ofUInt32, Octets.ofUInt64]

end StatData

namespace StatCounter

/-- A statistic with a meaning has a value of one of its widths. One without may have any value
whose length fits its field. -/
def WellFormed (c : StatCounter) : Prop :=
  match c.known? with
  | some _ => c.data.IsKnown
  | none => ∃ value : Octets, c.data = .unknown value ∧ value.length ≤ 65535

lemma WellFormed.length_le {c : StatCounter} (h : c.WellFormed) :
    c.data.encode.length ≤ 65535 := by
  unfold WellFormed at h
  split at h
  · exact h.length_le
  · obtain ⟨value, hdata, hlength⟩ := h
    rwa [hdata]

lemma encode_eq (c : StatCounter) (h : c.data.encode.length ≤ 65535) :
    c.encode = Octets.ofUInt16 c.type ++
      (Octets.ofUInt16 (UInt16.ofNat c.data.encode.length) ++ c.data.encode) := by
  have hlength : (UInt16.ofNat c.data.encode.length).toNat = c.data.encode.length :=
    UInt16.toNat_ofNat_of_lt' (Nat.lt_succ_of_le h)
  rw [encode, Tlv.encode, List.append_assoc, Octets.ofUInt16, Octets.ofUInt16, hlength]

lemma read_exact : Exact read WellFormed encode := by
  intro bs c rest
  simp only [read, run_bind_ok, run_u16_ok, run_slice_ok]
  refine ⟨?_, ?_⟩
  · rintro ⟨type, _, rfl, length, _, rfl, value, left, ⟨hlength, rfl⟩, h⟩
    have hfits : value.length ≤ 65535 := by
      have := length.toNat_lt
      omega
    -- whether the statistic is known or not, what is read has the bytes that were there
    have hread : c.type = type ∧ c.data.encode = value ∧ c.WellFormed ∧ left = rest := by
      split at h
      · next hunknown =>
        obtain ⟨rfl, rfl⟩ := run_pure_ok.mp h
        refine ⟨rfl, rfl, ?_, rfl⟩
        simp only [WellFormed, known?, hunknown]
        exact ⟨value, rfl, hfits⟩
      · next known hknown =>
        split at h
        · next data hdata =>
          obtain ⟨rfl, rfl⟩ := run_pure_ok.mp h
          obtain ⟨hisKnown, hencode⟩ := StatData.of_ofKnown? hdata
          refine ⟨rfl, hencode, ?_, rfl⟩
          simpa only [WellFormed, known?, hknown] using hisKnown
        · simp at h
    obtain ⟨rfl, rfl, hwell, rfl⟩ := hread
    rw [encode_eq c hwell.length_le, hlength, UInt16.ofNat_toNat, List.append_assoc,
      List.append_assoc]
    exact ⟨hwell, rfl⟩
  · rintro ⟨hwell, rfl⟩
    have hlength : (UInt16.ofNat c.data.encode.length).toNat = c.data.encode.length :=
      UInt16.toNat_ofNat_of_lt' (Nat.lt_succ_of_le hwell.length_le)
    refine ⟨c.type, _, by rw [encode_eq c hwell.length_le, List.append_assoc],
      UInt16.ofNat c.data.encode.length, _, by rw [List.append_assoc], c.data.encode, rest,
      ⟨hlength.symm, rfl⟩, ?_⟩
    unfold WellFormed known? at hwell
    split at hwell
    · next known hknown =>
      rw [hknown, StatData.ofKnown?_encode hwell]
      exact run_pure_ok.mpr ⟨rfl, rfl⟩
    · next hunknown =>
      obtain ⟨value, hdata, -⟩ := hwell
      have hencode : StatData.unknown c.data.encode = c.data := by rw [hdata]; rfl
      rw [hunknown, hencode]
      exact run_pure_ok.mpr ⟨rfl, rfl⟩

def AllWellFormed (cs : List StatCounter) : Prop :=
  cs.length < 2 ^ 32 ∧ ∀ c ∈ cs, c.WellFormed

lemma readAll_exact : Exact readAll AllWellFormed encodeAll := by
  intro bs cs rest
  simp only [readAll, run_bind_ok, run_u32_ok, read_exact.run_times]
  refine ⟨?_, ?_⟩
  · rintro ⟨count, _, rfl, hlength, hwell, rfl⟩
    have := count.toNat_lt
    refine ⟨⟨by omega, hwell⟩, ?_⟩
    rw [encodeAll, hlength, Octets.ofUInt32, List.append_assoc]
  · rintro ⟨⟨hlength, hwell⟩, rfl⟩
    have hcount : (UInt32.ofNat cs.length).toNat = cs.length :=
      UInt32.toNat_ofNat_of_lt' hlength
    refine ⟨UInt32.ofNat cs.length, _, ?_, hcount.symm, hwell, rfl⟩
    rw [encodeAll, Octets.ofUInt32, hcount, List.append_assoc]

end StatCounter

end Telemetry.Bmp
