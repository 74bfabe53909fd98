import Telemetry.Bmp.Header
import Telemetry.Proofs.Wire.Reading

/-!
Which headers are read, and from which bytes.

Both headers are exact. A common header is any that counts its own six bytes; the header of a peer
is any whose flag and address agree, since the flag alone says how the address field is to be
taken.
-/

namespace Telemetry

open Wire Reader

namespace Ip

lemma length_padded (ip : Ip) : ip.padded.length = 16 := by
  cases ip with
  | v4 a => simp [padded, Octets.zeros, a.length_octets]
  | v6 a => exact a.length_octets

lemma all_zero_iff {bs : Octets} :
    (bs.all fun b => b == 0) = true ↔ bs = Octets.zeros bs.length := by
  simp only [List.all_eq_true, beq_iff_eq, Octets.zeros, List.eq_replicate_iff, true_and]

/-- A field holds an address of a family when the address is of that family and pads to it. -/
lemma ofPadded?_eq_some_iff {isV6 : Bool} {field : Block 16} {ip : Ip} :
    ofPadded? isV6 field = some ip ↔ ip.isV6 = isV6 ∧ ip.padded = field.octets := by
  have hfield := field.length_octets
  cases isV6 with
  | true =>
    simp only [ofPadded?, if_true, Option.some.injEq]
    refine ⟨?_, ?_⟩
    · rintro rfl
      exact ⟨rfl, rfl⟩
    · rintro ⟨hfamily, hpadded⟩
      cases ip with
      | v4 a => simp [Ip.isV6] at hfamily
      | v6 a =>
        obtain ⟨octets, hlength⟩ := a
        obtain rfl : octets = field.octets := hpadded
        rfl
  | false =>
    simp only [ofPadded?, Bool.false_eq_true, if_false]
    refine ⟨?_, ?_⟩
    · intro h
      split_ifs at h with hzero
      cases h
      have hlength : (field.octets.take 12).length = 12 := by simp [hfield]
      rw [all_zero_iff, hlength] at hzero
      refine ⟨rfl, ?_⟩
      rw [padded, ← hzero]
      exact List.take_append_drop 12 field.octets
    · rintro ⟨hfamily, hpadded⟩
      cases ip with
      | v6 a => simp [Ip.isV6] at hfamily
      | v4 a =>
        obtain ⟨octets, hlength⟩ := a
        have htake : field.octets.take 12 = Octets.zeros 12 := by
          rw [← hpadded, padded, List.take_left' (by simp [Octets.zeros])]
        have hdrop : field.octets.drop 12 = octets := by
          rw [← hpadded, padded, List.drop_left' (by simp [Octets.zeros])]
        rw [if_pos (by rw [htake]; decide)]
        simp [hdrop]

end Ip

namespace Bmp

variable {bs rest : Octets}

namespace CommonHeader

/-- The length counts the header. -/
def CountsItself (h : CommonHeader) : Prop := commonHeaderLength ≤ h.length.toNat

lemma length_encode (h : CommonHeader) : h.encode.length = commonHeaderLength := by
  simp [encode, Octets.ofUInt32, commonHeaderLength]

lemma read_exact : Exact read CountsItself encode := by
  intro bs h rest
  obtain ⟨version, length, type⟩ := h
  simp only [read, run_bind_ok, run_u8_ok]
  refine ⟨?_, ?_⟩
  · rintro ⟨number, _, rfl, h⟩
    split at h
    · simp at h
    · next v hv =>
      simp only [run_bind_ok, run_u32_ok] at h
      obtain ⟨l, _, rfl, h⟩ := h
      split_ifs at h with hl
      · simp at h
      · simp only [run_bind_ok, run_code_ok, run_pure_ok] at h
        obtain ⟨t, _, ⟨-, rfl⟩, heq, rfl⟩ := h
        cases heq
        refine ⟨by simp only [CountsItself]; omega, ?_⟩
        have hnumber := Code.number_of_ofNumber? hv
        simp only [encode, hnumber, Octets.ofNat_one, List.append_assoc]
        rfl
  · rintro ⟨hcounts, rfl⟩
    have hversion : (3 : UInt8).toNat = Code.number version := by cases version; rfl
    have hwritten : encode ⟨version, length, type⟩ ++ rest =
        3 :: (Octets.ofUInt32 length ++ (Octets.ofNat 1 (Code.number type) ++ rest)) := by
      simp only [encode, ← hversion, Octets.ofNat_one, List.append_assoc]
      rfl
    refine ⟨3, _, hwritten, ?_⟩
    rw [hversion, Code.ofNumber?_number]
    simp only [run_bind_ok, run_u32_ok]
    refine ⟨length, _, rfl, ?_⟩
    rw [if_neg (Nat.not_lt.mpr hcounts)]
    simp only [run_bind_ok, run_code_ok, run_pure_ok]
    exact ⟨type, _, ⟨Code.number_lt (by decide) type, rfl⟩, rfl, rfl⟩

end CommonHeader

namespace PeerHeader

lemma run_readAddress {isV6 : Bool} {ip : Ip} :
    (readAddress isV6).run bs = (.ok ip, rest) ↔ ip.isV6 = isV6 ∧ bs = ip.padded ++ rest := by
  simp only [readAddress, run_bind_ok, run_block_ok]
  refine ⟨?_, ?_⟩
  · rintro ⟨field, _, rfl, h⟩
    split at h
    · next a ha =>
      obtain ⟨rfl, rfl⟩ := run_pure_ok.mp h
      obtain ⟨hfamily, hpadded⟩ := Ip.ofPadded?_eq_some_iff.mp ha
      exact ⟨hfamily, by rw [hpadded]⟩
    · simp at h
  · rintro ⟨hfamily, rfl⟩
    refine ⟨⟨ip.padded, ip.length_padded⟩, rest, rfl, ?_⟩
    rw [Ip.ofPadded?_eq_some_iff.mpr ⟨hfamily, rfl⟩]
    exact run_pure_ok.mpr ⟨rfl, rfl⟩

lemma length_encode (h : PeerHeader) : h.encode.length = peerHeaderLength := by
  simp [encode, Octets.ofUInt8, Octets.ofUInt32, Octets.ofUInt64, h.address.length_padded,
    h.bgpId.length_octets, peerHeaderLength]

lemma familyAgrees_iff {h : PeerHeader} : h.familyAgrees = true ↔ h.address.isV6 = h.isIpv6 := by
  rw [familyAgrees, beq_iff_eq, eq_comm]

lemma read_exact : Exact read (fun h => h.familyAgrees = true) encode := by
  intro bs h rest
  simp only [read, run_bind_ok, run_need_ok, run_code_ok, run_u8_ok, run_u64_ok, run_readAddress,
    run_u32_ok, run_block_ok, run_pure_ok, familyAgrees_iff]
  refine ⟨?_, ?_⟩
  · rintro ⟨_, _, ⟨-, rfl⟩, type, _, ⟨-, rfl⟩, bits, _, rfl, distinguisher, _, rfl, address, _,
      ⟨hfamily, rfl⟩, asn, _, rfl, bgpId, _, rfl, seconds, _, rfl, micros, _, rfl, rfl, rfl⟩
    refine ⟨hfamily, ?_⟩
    simp [encode, Octets.ofUInt8]
  · rintro ⟨hfamily, rfl⟩
    refine ⟨(), _, ⟨?_, rfl⟩, h.type, _, ⟨Code.number_lt (by decide) h.type, ?_⟩, h.flags.bits, _, rfl,
      h.distinguisher, _, rfl, h.address, _, ⟨hfamily, rfl⟩, h.asn, _, rfl, h.bgpId, _, rfl,
      h.seconds, _, rfl, h.micros, _, rfl, rfl, rfl⟩
    · rw [List.length_append, length_encode]
      omega
    · simp [encode, Octets.ofUInt8]

end PeerHeader

end Bmp

end Telemetry
