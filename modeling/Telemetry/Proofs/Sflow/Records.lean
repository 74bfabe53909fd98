import Telemetry.Proofs.Sflow.Parts
import Telemetry.Proofs.Wire.Pieces

/-!
Records, and the two-part values in front of them.

A record that is known here is read back from its own layout, and one that is not from all its
bytes; which of the two it is goes by the format alone. The header of a packet is written with
filling behind it, which is read as if it was not there.
-/

namespace Telemetry.Sflow

open Wire Reader

variable {bs rest : Octets}

namespace Tagged

/-- In the compact form the two parts share a word; in the expanded form each has its own. -/
def Fits (form : Form) (shift : Nat) (t : Tagged) : Prop :=
  match form with
  | .expanded => True
  | .compact => t.kind.toNat < 2 ^ (32 - shift) ∧ t.value.toNat < 2 ^ shift

/-- Two parts that fit share a word without overlap. -/
lemma joined_eq {shift kind value : Nat} (h : value < 2 ^ shift) :
    kind <<< shift ||| value = kind * 2 ^ shift + value := by
  rw [← Nat.shiftLeft_add_eq_or_of_lt h, Nat.shiftLeft_eq]

lemma read_exact (form : Form) (shift : Nat) (h : shift ≤ 32) :
    Exact (read form shift) (Fits form shift) (encode form shift) := by
  intro bs t rest
  cases form with
  | expanded =>
    simp only [read, run_bind_ok, run_u32_ok, run_pure_ok, Fits, encode, true_and]
    refine ⟨?_, ?_⟩
    · rintro ⟨kind, _, rfl, value, _, rfl, rfl, rfl⟩
      simp only [List.append_assoc]
    · rintro rfl
      exact ⟨t.kind, _, by rw [List.append_assoc], t.value, _, rfl, rfl, rfl⟩
  | compact =>
    have hword : 2 ^ shift * 2 ^ (32 - shift) = 2 ^ 32 := by
      rw [← Nat.pow_add, Nat.add_sub_cancel' h]
    simp only [read, run_bind_ok, run_u32_ok, run_pure_ok, Fits, encode]
    refine ⟨?_, ?_⟩
    · rintro ⟨w, _, rfl, rfl, rfl⟩
      have hw := w.toNat_lt
      have hkind : w.toNat / 2 ^ shift < 2 ^ (32 - shift) :=
        Nat.div_lt_of_lt_mul (hword ▸ hw)
      have hvalue : w.toNat % 2 ^ shift < 2 ^ shift := Nat.mod_lt _ (Nat.two_pow_pos shift)
      rw [Nat.shiftRight_eq_div_pow, Nat.one_shiftLeft,
        UInt32.toNat_ofNat_of_lt' (lt_of_le_of_lt (Nat.div_le_self _ _) hw),
        UInt32.toNat_ofNat_of_lt' (lt_of_le_of_lt (Nat.mod_le _ _) hw), joined_eq hvalue,
        Nat.div_add_mod']
      exact ⟨⟨hkind, hvalue⟩, rfl⟩
    · rintro ⟨⟨hkind, hvalue⟩, rfl⟩
      have hlt : t.kind.toNat * 2 ^ shift + t.value.toNat < 2 ^ 32 := by
        calc t.kind.toNat * 2 ^ shift + t.value.toNat
            < (t.kind.toNat + 1) * 2 ^ shift := by rw [Nat.succ_mul]; omega
          _ ≤ 2 ^ (32 - shift) * 2 ^ shift := Nat.mul_le_mul_right _ hkind
          _ = 2 ^ 32 := by rw [Nat.mul_comm, hword]
      have hdiv : (t.kind.toNat * 2 ^ shift + t.value.toNat) / 2 ^ shift = t.kind.toNat := by
        rw [Nat.mul_comm, Nat.mul_add_div (Nat.two_pow_pos shift), Nat.div_eq_of_lt hvalue,
          Nat.add_zero]
      have hmod : (t.kind.toNat * 2 ^ shift + t.value.toNat) % 2 ^ shift = t.value.toNat := by
        rw [Nat.mul_comm, Nat.mul_add_mod, Nat.mod_eq_of_lt hvalue]
      refine ⟨UInt32.ofNat (t.kind.toNat * 2 ^ shift + t.value.toNat), rest, ?_, ?_, rfl⟩
      · rw [joined_eq hvalue, Octets.ofUInt32, UInt32.toNat_ofNat_of_lt' hlt]
      · rw [UInt32.toNat_ofNat_of_lt' hlt, Nat.shiftRight_eq_div_pow, Nat.one_shiftLeft, hdiv, hmod,
          UInt32.ofNat_toNat, UInt32.ofNat_toNat]

end Tagged

namespace RawHeader

def front (h : RawHeader) : Octets :=
  Octets.ofUInt32 h.protocol ++ Octets.ofUInt32 h.frameLength ++ Octets.ofUInt32 h.stripped ++
    Octets.ofNat 4 h.header.length ++ h.header

lemma encode_eq (h : RawHeader) :
    h.encode = h.front ++ Octets.zeros ((4 - h.header.length % 4) % 4) := rfl

lemma length_front (h : RawHeader) : h.front.length = 16 + h.header.length := by
  simp only [front, Octets.ofUInt32, List.length_append, Octets.length_ofNat]

lemma read_exact : Exact read (·.header.length < 2 ^ 32) front := by
  intro bs h rest
  simp only [read, run_bind_ok, run_u32_ok, run_take_ok, run_pure_ok, front]
  refine ⟨?_, ?_⟩
  · rintro ⟨protocol, _, rfl, frameLength, _, rfl, stripped, _, rfl, length, _, rfl, header, _,
      ⟨hheader, rfl⟩, rfl, rfl⟩
    exact ⟨hheader ▸ length.toNat_lt, by simp only [hheader, Octets.ofUInt32, List.append_assoc]⟩
  · rintro ⟨hlength, rfl⟩
    have hback : (UInt32.ofNat h.header.length).toNat = h.header.length :=
      UInt32.toNat_ofNat_of_lt' hlength
    refine ⟨h.protocol, _, by simp only [List.append_assoc]; rfl, h.frameLength, _, rfl,
      h.stripped, _, rfl, UInt32.ofNat h.header.length, h.header ++ rest, ?_, h.header, rest,
      ⟨hback.symm, rfl⟩, rfl, rfl⟩
    rw [Octets.ofUInt32, hback]

/-- A written header that is cut where its reduced length cuts it is too short to be read: filling
takes less than what the cut takes away. -/
lemma eq_nil_of_run_front {h : RawHeader} {front left tail : Octets}
    (hrun : read.run front = (.ok h, left)) (hencode : h.encode = front ++ tail)
    (hlength : front.length = h.encode.length % 2 ^ 32) : tail = [] := by
  obtain ⟨hheader, rfl⟩ := (read_exact _ _ _).mp hrun
  have htotal := congrArg List.length hencode
  have hfilling : (h.encode).length = 16 + h.header.length + (4 - h.header.length % 4) % 4 := by
    rw [encode_eq, List.length_append, length_front, Octets.zeros, List.length_replicate]
  simp only [List.length_append, length_front] at htotal hlength
  exact List.eq_nil_of_length_eq_zero (by omega)

end RawHeader

namespace InterfaceCounters

lemma length_encode (c : InterfaceCounters) : c.encode.length = wireLength := by
  unfold encode
  simp only [Octets.ofUInt32, Octets.ofUInt64, List.length_append, Octets.length_ofNat, wireLength]

lemma run_encode (c : InterfaceCounters) (rest : Octets) :
    read.run (c.encode ++ rest) = (.ok c, rest) := by
  have hlength : wireLength ≤ (c.encode ++ rest).length := by
    rw [List.length_append, length_encode]
    exact Nat.le_add_right _ _
  have hneed : (need wireLength : Reader Error Unit).run (c.encode ++ rest) =
      (.ok (), c.encode ++ rest) := run_need_ok.mpr ⟨hlength, rfl⟩
  rw [read, run_bind_of_ok hneed]
  unfold encode
  simp only [List.append_assoc, run_bind_u32, run_bind_u64]
  rfl

end InterfaceCounters

/-! ### What records hold -/

namespace FlowData

def IsKnown : FlowData → Prop
  | rawHeader _ => True
  | unknown _ => False

lemma run_rawHeader_ok {format : DataFormat} {h : RawHeader} :
    (read format).run bs = (.ok (rawHeader h), rest) ↔
      format = .standard 1 ∧ RawHeader.read.run bs = (.ok h, rest) := by
  unfold read
  split_ifs with hformat <;> simp [hformat]

lemma run_unknown_ok {format : DataFormat} {data : Octets} :
    (read format).run bs = (.ok (unknown data), rest) ↔
      format ≠ .standard 1 ∧ bs = data ∧ rest = [] := by
  unfold read
  split_ifs with hformat <;> simp [hformat]

end FlowData

namespace CounterData

def IsKnown : CounterData → Prop
  | interface _ => True
  | unknown _ => False

lemma run_interface_ok {format : DataFormat} {c : InterfaceCounters} :
    (read format).run bs = (.ok (interface c), rest) ↔
      format = .standard 1 ∧ InterfaceCounters.read.run bs = (.ok c, rest) := by
  unfold read
  split_ifs with hformat <;> simp [hformat]

lemma run_unknown_ok {format : DataFormat} {data : Octets} :
    (read format).run bs = (.ok (unknown data), rest) ↔
      format ≠ .standard 1 ∧ bs = data ∧ rest = [] := by
  unfold read
  split_ifs with hformat <;> simp [hformat]

end CounterData

namespace Record

variable {δ : Type} {content : DataFormat → Reader Error δ} {encode : δ → Octets}
  {isKnown : δ → Prop}

/-- A record that can be carried, and whose content is known where its format is. -/
structure Representable (isKnown : δ → Prop) (encode : δ → Octets) (r : Record δ) : Prop where
  carries : Carries r.format (encode r.data)
  known : isKnown r.data ↔ r.format = .standard 1

def readBody (content : DataFormat → Reader Error δ) (format : DataFormat) :
    Reader Error (Record δ) := do
  return ⟨format, ← content format⟩

lemma run_readBody_ok {format : DataFormat} {r : Record δ} :
    (readBody content format).run bs = (.ok r, rest) ↔
      format = r.format ∧ (content format).run bs = (.ok r.data, rest) := by
  simp only [readBody, run_bind_ok, run_pure_ok]
  refine ⟨?_, ?_⟩
  · rintro ⟨data, _, hrun, rfl, rfl⟩
    exact ⟨rfl, hrun⟩
  · rintro ⟨rfl, hrun⟩
    exact ⟨r.data, rest, hrun, rfl, rfl⟩

lemma undoes_flow : Undoes (readBody FlowData.read) Record.format (fun r => r.data.encode)
    (fun r => r.data.IsKnown ↔ r.format = .standard 1) where
  reads := by
    rintro ⟨format, data⟩ hknown hfits
    cases data with
    | rawHeader h =>
      obtain rfl : format = .standard 1 := hknown.mp trivial
      have hheader : h.header.length < 2 ^ 32 := by
        simp only [FlowData.encode, RawHeader.encode_eq, List.length_append,
          RawHeader.length_front] at hfits
        omega
      exact ⟨_, run_readBody_ok.mpr ⟨rfl, FlowData.run_rawHeader_ok.mpr ⟨rfl,
        (RawHeader.read_exact _ _ _).mpr ⟨hheader, h.encode_eq⟩⟩⟩⟩
    | unknown data =>
      exact ⟨[], run_readBody_ok.mpr ⟨rfl, FlowData.run_unknown_ok.mpr ⟨hknown.mpr, rfl, rfl⟩⟩⟩
  only := by
    rintro ⟨_, data⟩ format front left tail hrun hencode hlength
    obtain ⟨rfl, hcontent⟩ := run_readBody_ok.mp hrun
    cases data with
    | rawHeader h =>
      obtain ⟨hformat, hheader⟩ := FlowData.run_rawHeader_ok.mp hcontent
      exact ⟨rfl, by simp [FlowData.IsKnown, hformat],
        RawHeader.eq_nil_of_run_front hheader hencode hlength⟩
    | unknown data =>
      obtain ⟨hformat, rfl, -⟩ := FlowData.run_unknown_ok.mp hcontent
      exact ⟨rfl, by simp [FlowData.IsKnown, hformat], List.self_eq_append_right.mp hencode⟩

lemma undoes_counter : Undoes (readBody CounterData.read) Record.format (fun r => r.data.encode)
    (fun r => r.data.IsKnown ↔ r.format = .standard 1) where
  reads := by
    rintro ⟨format, data⟩ hknown -
    cases data with
    | interface c =>
      obtain rfl : format = .standard 1 := hknown.mp trivial
      have hrun := c.run_encode []
      rw [List.append_nil] at hrun
      exact ⟨[], run_readBody_ok.mpr ⟨rfl, CounterData.run_interface_ok.mpr ⟨rfl, hrun⟩⟩⟩
    | unknown data =>
      exact ⟨[], run_readBody_ok.mpr ⟨rfl, CounterData.run_unknown_ok.mpr ⟨hknown.mpr, rfl, rfl⟩⟩⟩
  only := by
    rintro ⟨_, data⟩ format front left tail hrun hencode hlength
    obtain ⟨rfl, hcontent⟩ := run_readBody_ok.mp hrun
    cases data with
    | interface c =>
      -- the counters have one length, which is never cut
      obtain ⟨hformat, -⟩ := CounterData.run_interface_ok.mp hcontent
      have htotal := congrArg List.length hencode
      simp only [CounterData.encode, InterfaceCounters.length_encode, List.length_append,
        InterfaceCounters.wireLength] at htotal hlength
      exact ⟨rfl, by simp [CounterData.IsKnown, hformat],
        List.eq_nil_of_length_eq_zero (by omega)⟩
    | unknown data =>
      obtain ⟨hformat, rfl, -⟩ := CounterData.run_unknown_ok.mp hcontent
      exact ⟨rfl, by simp [CounterData.IsKnown, hformat], List.self_eq_append_right.mp hencode⟩

/-! ### Records in a row -/

lemma read_accepts (part : String) (content : DataFormat → Reader Error δ) :
    Accepts (read part content) (Part.Means (readBody content)) Part.encode := by
  intro bs r rest
  simp only [read, run_bind_ok, DataFormat.run_read_ok, run_u32_ok, run_slice_ok, Prod.exists,
    run_inside_ok, run_pure_ok, Part.Means, run_readBody_ok]
  refine ⟨?_, ?_⟩
  · rintro ⟨_, _, ⟨w, rfl, rfl⟩, length, _, rfl, body, _, ⟨hlength, rfl⟩, data, left, _,
      ⟨hrun, rfl⟩, rfl, rfl⟩
    refine ⟨⟨w, body, hlength ▸ length.toNat_lt⟩, ⟨left, rfl, hrun⟩, ?_⟩
    simp only [Part.encode_append, hlength, UInt32.ofNat_toNat]
  · rintro ⟨p, ⟨left, hformat, hrun⟩, rfl⟩
    exact ⟨_, _, ⟨p.format, rfl, p.encode_append rest⟩, _, _, rfl, p.body, rest,
      ⟨p.toNat_length.symm, rfl⟩, r.data, left, rest, ⟨hrun, rfl⟩,
      congrArg (Record.mk · r.data) hformat, rfl⟩

/-- What is read of the front of written records as those records is all of them, and they are
representable. -/
lemma of_run_readAll
    (undoes : Undoes (readBody content) Record.format (fun r => encode r.data)
      fun r => isKnown r.data ↔ r.format = .standard 1)
    {part : String} {rs : List (Record δ)} {front left tail : Octets}
    (hrun : (readAll part content).run front = (.ok rs, left))
    (hencode : encodeAll encode rs = front ++ tail) :
    rs.length < 2 ^ 32 ∧ (∀ r ∈ rs, r.Representable isKnown encode) ∧ tail = [] := by
  simp only [readAll, run_bind_ok, run_u32_ok, (read_accepts part content).run_times] at hrun
  obtain ⟨count, _, rfl, ps, hcount, hmeans, rfl⟩ := hrun
  have hlength : rs.length < 2 ^ 32 := by
    rw [← hmeans.length_eq, hcount]
    exact count.toNat_lt
  simp only [encodeAll, List.append_assoc] at hencode
  obtain ⟨-, hrecords⟩ := List.append_inj hencode (by simp [Octets.ofUInt32])
  rw [← List.append_nil (List.flatMap _ rs)] at hrecords
  obtain ⟨hall, hnil⟩ := undoes.of_parts hmeans hrecords.symm
  exact ⟨hlength, fun r hr => ⟨(hall r hr).1, (hall r hr).2⟩, (List.append_eq_nil_iff.mp hnil).2⟩

lemma run_readAll
    (undoes : Undoes (readBody content) Record.format (fun r => encode r.data)
      fun r => isKnown r.data ↔ r.format = .standard 1)
    (part : String) {rs : List (Record δ)} (hlength : rs.length < 2 ^ 32)
    (hall : ∀ r ∈ rs, r.Representable isKnown encode) :
    (readAll part content).run (encodeAll encode rs) = (.ok rs, []) := by
  obtain ⟨ps, hmeans, hps⟩ :=
    undoes.exists_parts fun r hr => ⟨(hall r hr).carries, (hall r hr).known⟩
  have hcount : (UInt32.ofNat rs.length).toNat = rs.length := UInt32.toNat_ofNat_of_lt' hlength
  simp only [readAll, run_bind_ok, run_u32_ok, (read_accepts part content).run_times]
  refine ⟨UInt32.ofNat rs.length, ps.flatMap Part.encode, ?_, ps, ?_, hmeans, by simp⟩
  · rw [encodeAll, hps, Octets.ofUInt32, hcount]
  · rw [hcount, hmeans.length_eq]

end Record

end Telemetry.Sflow
