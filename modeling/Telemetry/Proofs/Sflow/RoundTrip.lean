import Telemetry.Proofs.Sflow.Framing
import Telemetry.Proofs.Sflow.Records

/-!
Which datagrams are read back.

Writing never fails, so it also writes datagrams that no reader gives back: two-part values run into
each other, formats lose their high bits, lengths and counts are reduced to four bytes, a record or
a sample may be of a format that is read as something else. The datagrams that strict mode reads
back are the representable ones and no others.
-/

namespace Telemetry.Sflow

open Wire Reader

variable {bs rest : Octets}

namespace FlowSample

structure Representable (form : Form) (s : FlowSample) : Prop where
  source : s.source.Fits form sourceShift
  input : s.input.Fits form interfaceShift
  output : s.output.Fits form interfaceShift
  count : s.records.length < 2 ^ 32
  records : ∀ r ∈ s.records, r.Representable FlowData.IsKnown FlowData.encode

def front (form : Form) (s : FlowSample) : Octets :=
  Octets.ofUInt32 s.sequence ++ s.source.encode form sourceShift ++
    Octets.ofUInt32 s.samplingRate ++ Octets.ofUInt32 s.samplePool ++ Octets.ofUInt32 s.drops ++
    s.input.encode form interfaceShift ++ s.output.encode form interfaceShift

lemma encode_eq (form : Form) (s : FlowSample) :
    s.encode form = s.front form ++ Record.encodeAll FlowData.encode s.records := rfl

lemma run_read_ok {form : Form} {s : FlowSample} :
    (read form).run bs = (.ok s, rest) ↔
      (s.source.Fits form sourceShift ∧ s.input.Fits form interfaceShift ∧
        s.output.Fits form interfaceShift) ∧
      ∃ mid, bs = s.front form ++ mid ∧
        (Record.readAll "sFlow flow record" FlowData.read).run mid = (.ok s.records, rest) := by
  have hsource := Tagged.read_exact form sourceShift (by decide)
  have hinterface := Tagged.read_exact form interfaceShift (by decide)
  simp only [read, run_bind_ok, run_u32_ok, run_pure_ok, hsource _ _ _, hinterface _ _ _, front]
  refine ⟨?_, ?_⟩
  · rintro ⟨sequence, _, rfl, source, _, ⟨hs, rfl⟩, samplingRate, _, rfl, samplePool, _, rfl, drops,
      _, rfl, input, _, ⟨hi, rfl⟩, output, mid, ⟨ho, rfl⟩, records, _, hrecords, rfl, rfl⟩
    exact ⟨⟨hs, hi, ho⟩, mid, by simp only [List.append_assoc], hrecords⟩
  · rintro ⟨⟨hs, hi, ho⟩, mid, rfl, hrecords⟩
    exact ⟨s.sequence, _, by simp only [List.append_assoc], s.source, _, ⟨hs, rfl⟩,
      s.samplingRate, _, rfl, s.samplePool, _, rfl, s.drops, _, rfl, s.input, _, ⟨hi, rfl⟩,
      s.output, mid, ⟨ho, rfl⟩, s.records, rest, hrecords, rfl, rfl⟩

lemma run_encode {form : Form} {s : FlowSample} (h : s.Representable form) :
    (read form).run (s.encode form) = (.ok s, []) :=
  run_read_ok.mpr ⟨⟨h.source, h.input, h.output⟩, _, s.encode_eq form,
    Record.run_readAll Record.undoes_flow _ h.count h.records⟩

/-- What is read of the front of a written sample as that sample is all of it. -/
lemma of_run_read {form : Form} {s : FlowSample} {begun left tail : Octets}
    (hrun : (read form).run begun = (.ok s, left)) (hencode : s.encode form = begun ++ tail) :
    s.Representable form ∧ tail = [] := by
  obtain ⟨⟨hsource, hinput, houtput⟩, mid, rfl, hrecords⟩ := run_read_ok.mp hrun
  rw [encode_eq, List.append_assoc, List.append_cancel_left_eq] at hencode
  obtain ⟨hcount, hall, htail⟩ := Record.of_run_readAll Record.undoes_flow hrecords hencode
  exact ⟨⟨hsource, hinput, houtput, hcount, hall⟩, htail⟩

end FlowSample

namespace CounterSample

structure Representable (form : Form) (s : CounterSample) : Prop where
  source : s.source.Fits form sourceShift
  count : s.records.length < 2 ^ 32
  records : ∀ r ∈ s.records, r.Representable CounterData.IsKnown CounterData.encode

def front (form : Form) (s : CounterSample) : Octets :=
  Octets.ofUInt32 s.sequence ++ s.source.encode form sourceShift

lemma encode_eq (form : Form) (s : CounterSample) :
    s.encode form = s.front form ++ Record.encodeAll CounterData.encode s.records := rfl

lemma run_read_ok {form : Form} {s : CounterSample} :
    (read form).run bs = (.ok s, rest) ↔ s.source.Fits form sourceShift ∧
      ∃ mid, bs = s.front form ++ mid ∧
        (Record.readAll "sFlow counter record" CounterData.read).run mid =
          (.ok s.records, rest) := by
  have hsource := Tagged.read_exact form sourceShift (by decide)
  simp only [read, run_bind_ok, run_u32_ok, run_pure_ok, hsource _ _ _, front]
  refine ⟨?_, ?_⟩
  · rintro ⟨sequence, _, rfl, source, mid, ⟨hs, rfl⟩, records, _, hrecords, rfl, rfl⟩
    exact ⟨hs, mid, by simp only [List.append_assoc], hrecords⟩
  · rintro ⟨hs, mid, rfl, hrecords⟩
    exact ⟨s.sequence, _, by simp only [List.append_assoc], s.source, mid, ⟨hs, rfl⟩,
      s.records, rest, hrecords, rfl, rfl⟩

lemma run_encode {form : Form} {s : CounterSample} (h : s.Representable form) :
    (read form).run (s.encode form) = (.ok s, []) :=
  run_read_ok.mpr ⟨h.source, _, s.encode_eq form,
    Record.run_readAll Record.undoes_counter _ h.count h.records⟩

lemma of_run_read {form : Form} {s : CounterSample} {begun left tail : Octets}
    (hrun : (read form).run begun = (.ok s, left)) (hencode : s.encode form = begun ++ tail) :
    s.Representable form ∧ tail = [] := by
  obtain ⟨hsource, mid, rfl, hrecords⟩ := run_read_ok.mp hrun
  rw [encode_eq, List.append_assoc, List.append_cancel_left_eq] at hencode
  obtain ⟨hcount, hall, htail⟩ := Record.of_run_readAll Record.undoes_counter hrecords hencode
  exact ⟨⟨hsource, hcount, hall⟩, htail⟩

end CounterSample

namespace Sample

/-- Formats 1 to 4 of the standard itself have a meaning here. -/
def HasMeaning (format : DataFormat) : Prop :=
  format.enterprise = 0 ∧ 1 ≤ format.format ∧ format.format ≤ 4

/-- What a sample holds is representable, and one without a meaning has a format without one. -/
def ContentRepresentable : Sample → Prop
  | flow form s => s.Representable form
  | counter form s => s.Representable form
  | unknown format _ => ¬ HasMeaning format

structure Representable (s : Sample) : Prop where
  carries : Carries s.format s.body
  content : s.ContentRepresentable

def type? (format : DataFormat) : Option SampleType :=
  if format.enterprise = 0 then Code.ofNumber? format.format.toNat else none

lemma type?_eq_some_iff {format : DataFormat} {t : SampleType} :
    type? format = some t ↔ format = .standard (UInt32.ofNat (Code.number t)) := by
  obtain ⟨enterprise, format⟩ := format
  unfold type?
  refine ⟨?_, ?_⟩
  · intro h
    split_ifs at h with hzero
    obtain rfl : enterprise = 0 := hzero
    rw [Code.number_of_ofNumber? h, UInt32.ofNat_toNat]
    rfl
  · intro h
    rw [h]
    cases t <;> rfl

lemma hasMeaning_iff {format : DataFormat} : HasMeaning format ↔ ∃ t, type? format = some t := by
  simp only [type?_eq_some_iff]
  refine ⟨?_, ?_⟩
  · obtain ⟨enterprise, format⟩ := format
    rintro ⟨rfl, hone, hfour⟩
    simp only [UInt32.le_iff_toNat_le, UInt32.reduceToNat] at hone hfour
    have hcases : format = 1 ∨ format = 2 ∨ format = 3 ∨ format = 4 := by
      simp only [← UInt32.toNat_inj, UInt32.reduceToNat]
      omega
    rcases hcases with rfl | rfl | rfl | rfl
    · exact ⟨.flow, rfl⟩
    · exact ⟨.counter, rfl⟩
    · exact ⟨.expandedFlow, rfl⟩
    · exact ⟨.expandedCounter, rfl⟩
  · rintro ⟨t, rfl⟩
    cases t <;> exact ⟨rfl, by decide, by decide⟩

lemma readBody_eq (format : DataFormat) : readBody format = match type? format with
    | some .flow => do return flow .compact (← FlowSample.read .compact)
    | some .counter => do return counter .compact (← CounterSample.read .compact)
    | some .expandedFlow => do return flow .expanded (← FlowSample.read .expanded)
    | some .expandedCounter => do return counter .expanded (← CounterSample.read .expanded)
    | none => do return unknown format (← Reader.all) := rfl

def flowType : Form → SampleType
  | .compact => .flow
  | .expanded => .expandedFlow

def counterType : Form → SampleType
  | .compact => .counter
  | .expanded => .expandedCounter

lemma format_flow (form : Form) (s : FlowSample) :
    (flow form s).format = .standard (UInt32.ofNat (Code.number (flowType form))) := by
  cases form <;> rfl

lemma format_counter (form : Form) (s : CounterSample) :
    (counter form s).format = .standard (UInt32.ofNat (Code.number (counterType form))) := by
  cases form <;> rfl

lemma run_flow_ok {f : DataFormat} {form : Form} {s : FlowSample} :
    (readBody f).run bs = (.ok (flow form s), rest) ↔
      f = (flow form s).format ∧ (FlowSample.read form).run bs = (.ok s, rest) := by
  rw [format_flow, ← type?_eq_some_iff, readBody_eq]
  cases form <;> rcases type? f with _ | _ | _ | _ | _ <;> simp [flowType]

lemma run_counter_ok {f : DataFormat} {form : Form} {s : CounterSample} :
    (readBody f).run bs = (.ok (counter form s), rest) ↔
      f = (counter form s).format ∧ (CounterSample.read form).run bs = (.ok s, rest) := by
  rw [format_counter, ← type?_eq_some_iff, readBody_eq]
  cases form <;> rcases type? f with _ | _ | _ | _ | _ <;> simp [counterType]

lemma run_unknown_ok {f format : DataFormat} {data : Octets} :
    (readBody f).run bs = (.ok (unknown format data), rest) ↔
      (¬ HasMeaning f) ∧ f = format ∧ bs = data ∧ rest = [] := by
  rw [hasMeaning_iff, readBody_eq]
  rcases type? f with _ | _ | _ | _ | _ <;> simp [and_assoc]

lemma undoes : Undoes readBody format body ContentRepresentable where
  reads := by
    rintro s hcontent -
    cases s with
    | flow form s => exact ⟨[], run_flow_ok.mpr ⟨rfl, FlowSample.run_encode hcontent⟩⟩
    | counter form s => exact ⟨[], run_counter_ok.mpr ⟨rfl, CounterSample.run_encode hcontent⟩⟩
    | unknown format data => exact ⟨[], run_unknown_ok.mpr ⟨hcontent, rfl, rfl, rfl⟩⟩
  only := by
    rintro s f front left tail hrun hbody -
    cases s with
    | flow form s =>
      obtain ⟨hformat, hread⟩ := run_flow_ok.mp hrun
      exact ⟨hformat, FlowSample.of_run_read hread hbody⟩
    | counter form s =>
      obtain ⟨hformat, hread⟩ := run_counter_ok.mp hrun
      exact ⟨hformat, CounterSample.of_run_read hread hbody⟩
    | unknown format data =>
      obtain ⟨hnot, rfl, rfl, -⟩ := run_unknown_ok.mp hrun
      exact ⟨rfl, hnot, List.self_eq_append_right.mp hbody⟩

end Sample

namespace Datagram

/-- The version is the one that is read, the announced count is that of the samples, and every
sample is representable. -/
structure Representable (p : Datagram) : Prop where
  version : p.header.version = version5
  count : p.samples.length = p.header.sampleCount.toNat
  samples : ∀ s ∈ p.samples, s.Representable

lemma run_strict_ok {d : Octets} {p : Datagram} {dropped : Nat} :
    (read .strict).run d = (.ok ⟨p, dropped⟩, rest) ↔
      (Holds d p.header p.samples [] ∧ p.samples.length = p.header.sampleCount.toNat) ∧
        dropped = 0 ∧ rest = [] := by
  obtain ⟨header, samples⟩ := p
  simp only [← run_readFront_ok, readFront, read, run_bind_ok, run_rest_ok, run_ofExcept_ok,
    run_all_ok, run_pure_ok, check_eq_ok, Decoded.mk.injEq, Datagram.mk.injEq, Prod.mk.injEq]
  refine ⟨?_, ?_⟩
  · rintro ⟨_, _, hheader, _, _, hsamples, _, _, ⟨rfl, rfl⟩, _, _, ⟨⟨rfl, hcount⟩, rfl⟩, _, _,
      ⟨rfl, rfl⟩, ⟨⟨rfl, rfl⟩, rfl⟩, rfl⟩
    exact ⟨⟨⟨_, _, hheader, _, _, hsamples, ⟨rfl, rfl⟩, rfl⟩, hcount⟩, rfl, rfl⟩
  · rintro ⟨⟨⟨_, _, hheader, _, _, hsamples, ⟨rfl, rfl⟩, rfl⟩, hcount⟩, rfl, rfl⟩
    exact ⟨_, _, hheader, _, _, hsamples, _, _, ⟨rfl, rfl⟩, (), _, ⟨⟨rfl, hcount⟩, rfl⟩, _, _,
      ⟨rfl, rfl⟩, ⟨⟨rfl, rfl⟩, rfl⟩, rfl⟩

/-- A written datagram holds its own samples where they are representable. -/
lemma holds_encode_iff {p : Datagram} : Holds p.encode p.header p.samples [] ↔
    p.header.version = version5 ∧ ∀ s ∈ p.samples, s.Representable := by
  unfold Holds encode
  simp only [List.append_cancel_left_eq, Part.sample_eq_ok]
  refine and_congr_right fun _ => ⟨?_, ?_⟩
  · rintro ⟨parts, hparts, hmeans, -⟩
    rw [← List.append_nil (List.flatMap _ p.samples)] at hparts
    obtain ⟨hall, -⟩ := Sample.undoes.of_parts hmeans hparts.symm
    exact fun s hs => ⟨(hall s hs).1, (hall s hs).2⟩
  · intro hall
    obtain ⟨parts, hmeans, hparts⟩ :=
      Sample.undoes.exists_parts fun s hs => ⟨(hall s hs).carries, (hall s hs).content⟩
    refine ⟨parts, ?_, hmeans, ?_⟩
    · rw [List.append_nil, hparts]
      rfl
    · intro part rest hnil
      exact part.encode_ne_nil (List.append_eq_nil_iff.mp hnil.symm).1

/-- **Strict mode reads back the representable datagrams and no others.** -/
theorem read_encode_iff (p : Datagram) :
    ((read .strict).run p.encode).1.map Decoded.datagram = .ok p ↔ p.Representable := by
  have hdatagram : ((read .strict).run p.encode).1.map Decoded.datagram = .ok p ↔
      ∃ dropped rest, (read .strict).run p.encode = (.ok ⟨p, dropped⟩, rest) := by
    rcases (read .strict).run p.encode with ⟨e | ⟨q, dropped⟩, rest⟩ <;> simp [Except.map]
  rw [hdatagram]
  simp only [run_strict_ok, holds_encode_iff]
  refine ⟨?_, ?_⟩
  · rintro ⟨_, _, ⟨⟨hversion, hall⟩, hcount⟩, -⟩
    exact ⟨hversion, hcount, hall⟩
  · intro h
    exact ⟨0, [], ⟨⟨h.version, h.samples⟩, h.count⟩, rfl, rfl⟩

/-- The header of a packet, three bytes of it, is filled up and read back without the filling. -/
example :
    let record : Record FlowData := ⟨.standard 1, .rawHeader ⟨1, 64, 4, [8, 0, 69]⟩⟩
    let sample : FlowSample := ⟨17, ⟨0, 3⟩, 512, 8192, 0, ⟨0, 3⟩, ⟨2, 1⟩, [record]⟩
    let p : Datagram := ⟨⟨5, .v4 (Block.ofNat 4 0x0a000001), 0, 1, 60, 1⟩, [.flow .compact sample]⟩
    ((read .strict).run p.encode).1.map Decoded.datagram = .ok p := by
  decide

end Datagram

end Telemetry.Sflow
