import Telemetry.Proofs.Sflow.Modes
import Telemetry.Proofs.Sflow.RoundTrip

/-!
Datagrams that were read can be written.

Much of a datagram is not looked at: what the content of a sample or record leaves of its body, the
filling behind the header of a packet, and in lenient mode the bytes behind the last whole sample.
So writing what was read may give other bytes, and it may give more of them, as filling is written
where there was none. But no body grows to more than twice its length. A datagram that is not too
long is therefore written without reducing a length, and everything else that was read fits the
place that it came from.
-/

namespace Telemetry.Sflow

open Wire Reader

variable {α δ : Type} {bs d rest left : Octets}

lemma length_encodePart (format : DataFormat) (body : Octets) :
    (encodePart format body).length = 8 + body.length := by
  simp only [encodePart, Octets.ofUInt32, List.length_append, Octets.length_ofNat]

lemma Part.length_encode (p : Part) : p.encode.length = 8 + p.body.length := by
  simp only [encode, Octets.ofUInt32, List.length_append, Octets.length_ofNat]

/-- What is read of a body can be written in its format. The body is then at most twice as long;
where lengths are concerned that matters only if a body is not too long. -/
def Rewritable (read : DataFormat → Reader Error α) (format : α → DataFormat) (body : α → Octets)
    (valid : α → Prop) : Prop :=
  ∀ f bs a left, (read f).run bs = (.ok a, left) → bs.length < 2 ^ 31 →
    f = format a ∧ valid a ∧ (body a).length ≤ 2 * bs.length

namespace Rewritable

variable {read : DataFormat → Reader Error α} {format : α → DataFormat} {body : α → Octets}
  {valid : α → Prop}

lemma of_part (rewritable : Rewritable read format body valid) {p : Part} {a : α}
    (hmeans : p.Means read a) (few : p.body.length < 2 ^ 31) :
    Carries (format a) (body a) ∧ valid a ∧ (body a).length ≤ 2 * p.body.length := by
  obtain ⟨left, hrun⟩ := hmeans
  obtain ⟨hformat, hvalid, hlength⟩ := rewritable _ _ _ _ hrun few
  exact ⟨⟨hformat ▸ DataFormat.fits_ofWord _, by omega⟩, hvalid, hlength⟩

lemma of_parts (rewritable : Rewritable read format body valid) {ps : List Part} {as : List α}
    (hmeans : List.Forall₂ (Part.Means read) ps as)
    (few : (ps.flatMap Part.encode).length < 2 ^ 31) :
    (∀ a ∈ as, Carries (format a) (body a) ∧ valid a) ∧
      (as.flatMap fun a => encodePart (format a) (body a)).length ≤
        2 * (ps.flatMap Part.encode).length := by
  induction hmeans with
  | nil => simp
  | @cons p a ps as hhead _ ih =>
    simp only [List.flatMap_cons, List.length_append, Part.length_encode, length_encodePart]
      at few ⊢
    obtain ⟨hcarries, hvalid, hbody⟩ := rewritable.of_part hhead (by omega)
    obtain ⟨hall, hlength⟩ := ih (by omega)
    exact ⟨List.forall_mem_cons.mpr ⟨⟨hcarries, hvalid⟩, hall⟩, by omega⟩

end Rewritable

/-! ### Records -/

namespace Record

lemma rewritable_flow : Rewritable (readBody FlowData.read) Record.format (fun r => r.data.encode)
    (fun r => r.data.IsKnown ↔ r.format = .standard 1) := by
  rintro f bs ⟨format, data⟩ left hrun -
  obtain ⟨rfl, hcontent⟩ := run_readBody_ok.mp hrun
  cases data with
  | rawHeader h =>
    obtain ⟨hformat, hheader⟩ := FlowData.run_rawHeader_ok.mp hcontent
    obtain ⟨-, rfl⟩ := (RawHeader.read_exact _ _ _).mp hheader
    refine ⟨rfl, by simp [FlowData.IsKnown, hformat], ?_⟩
    -- the filling is less than what stands in front of the header bytes
    simp only [FlowData.encode, RawHeader.encode_eq, List.length_append, RawHeader.length_front,
      Octets.zeros, List.length_replicate]
    omega
  | unknown data =>
    obtain ⟨hformat, rfl, -⟩ := FlowData.run_unknown_ok.mp hcontent
    exact ⟨rfl, by simp [FlowData.IsKnown, hformat], by simp only [FlowData.encode]; omega⟩

lemma rewritable_counter : Rewritable (readBody CounterData.read) Record.format
    (fun r => r.data.encode) (fun r => r.data.IsKnown ↔ r.format = .standard 1) := by
  rintro f bs ⟨format, data⟩ left hrun -
  obtain ⟨rfl, hcontent⟩ := run_readBody_ok.mp hrun
  cases data with
  | interface c =>
    obtain ⟨hformat, hcounters⟩ := CounterData.run_interface_ok.mp hcontent
    obtain ⟨_, _, hneed, -⟩ := run_bind_ok.mp hcounters
    obtain ⟨henough, -⟩ := run_need_ok.mp hneed
    refine ⟨rfl, by simp [CounterData.IsKnown, hformat], ?_⟩
    simp only [CounterData.encode, InterfaceCounters.length_encode]
    omega
  | unknown data =>
    obtain ⟨hformat, rfl, -⟩ := CounterData.run_unknown_ok.mp hcontent
    exact ⟨rfl, by simp [CounterData.IsKnown, hformat], by simp only [CounterData.encode]; omega⟩

lemma rewritten_readAll {content : DataFormat → Reader Error δ} {encode : δ → Octets}
    {isKnown : δ → Prop}
    (rewritable : Rewritable (readBody content) Record.format (fun r => encode r.data)
      fun r => isKnown r.data ↔ r.format = .standard 1)
    {part : String} {rs : List (Record δ)}
    (hrun : (readAll part content).run bs = (.ok rs, left)) (few : bs.length < 2 ^ 31) :
    rs.length < 2 ^ 32 ∧ (∀ r ∈ rs, r.Representable isKnown encode) ∧
      (encodeAll encode rs).length ≤ 2 * bs.length := by
  simp only [readAll, run_bind_ok, run_u32_ok, (read_accepts part content).run_times] at hrun
  obtain ⟨count, _, rfl, ps, hcount, hmeans, rfl⟩ := hrun
  simp only [List.length_append, Octets.ofUInt32, Octets.length_ofNat] at few ⊢
  obtain ⟨hall, hlength⟩ := rewritable.of_parts hmeans (by omega)
  refine ⟨?_, fun r hr => ⟨(hall r hr).1, (hall r hr).2⟩, ?_⟩
  · rw [← hmeans.length_eq, hcount]
    exact count.toNat_lt
  · rw [encodeAll, List.length_append, Octets.length_ofNat]
    omega

end Record

/-! ### Samples -/

namespace Sample

lemma rewritable : Rewritable readBody format body ContentRepresentable := by
  rintro f bs s left hrun few
  cases s with
  | flow form s =>
    obtain ⟨hformat, hread⟩ := run_flow_ok.mp hrun
    obtain ⟨⟨hsource, hinput, houtput⟩, mid, rfl, hrecords⟩ := FlowSample.run_read_ok.mp hread
    rw [List.length_append] at few ⊢
    obtain ⟨hcount, hall, hlength⟩ :=
      Record.rewritten_readAll Record.rewritable_flow hrecords (by omega)
    refine ⟨hformat, ⟨hsource, hinput, houtput, hcount, hall⟩, ?_⟩
    rw [body, FlowSample.encode_eq, List.length_append]
    omega
  | counter form s =>
    obtain ⟨hformat, hread⟩ := run_counter_ok.mp hrun
    obtain ⟨hsource, mid, rfl, hrecords⟩ := CounterSample.run_read_ok.mp hread
    rw [List.length_append] at few ⊢
    obtain ⟨hcount, hall, hlength⟩ :=
      Record.rewritten_readAll Record.rewritable_counter hrecords (by omega)
    refine ⟨hformat, ⟨hsource, hcount, hall⟩, ?_⟩
    rw [body, CounterSample.encode_eq, List.length_append]
    omega
  | unknown format data =>
    obtain ⟨hnot, rfl, rfl, -⟩ := run_unknown_ok.mp hrun
    exact ⟨rfl, hnot, by rw [body]; omega⟩

end Sample

/-! ### Datagrams -/

namespace Datagram

variable {mode : Mode} {p : Datagram} {dropped : Nat}

/-- What either mode accepts is a datagram with these samples, and strict mode wants their number to
be the announced one. -/
lemma holds_of_run (h : (read mode).run d = (.ok ⟨p, dropped⟩, rest)) :
    (∃ left, Holds d p.header p.samples left) ∧
      (mode = .strict → p.samples.length = p.header.sampleCount.toNat) := by
  cases mode with
  | strict =>
    obtain ⟨⟨hholds, hcount⟩, -⟩ := run_strict_ok.mp h
    exact ⟨⟨[], hholds⟩, fun _ => hcount⟩
  | lenient =>
    rcases read_cases d with ⟨e, _, -, hboth⟩ | ⟨header, samples, left, hholds, hlenient, -⟩
    · cases (hboth .lenient).symm.trans h
    · cases hlenient.symm.trans h
      exact ⟨⟨left, hholds⟩, nofun⟩

/-- The samples of a datagram that is not too long are representable. -/
lemma representable_of_holds {header : Header} {samples : List Sample}
    (h : Holds d header samples left) (few : d.length < 2 ^ 31) :
    ∀ s ∈ samples, s.Representable := by
  obtain ⟨-, whole, rfl, hmeans, -⟩ := h
  simp only [Part.sample_eq_ok] at hmeans
  rw [List.length_append, List.length_append] at few
  obtain ⟨hall, -⟩ := Sample.rewritable.of_parts hmeans (by omega)
  exact fun s hs => ⟨(hall s hs).1, (hall s hs).2⟩

/-- **What was read is read again.** Whatever bytes either mode takes for a datagram, as many as fit
a UDP datagram: what was read is written as bytes from which the same mode reads it again, and
nothing is left of them or dropped, whether they are the same bytes or not. -/
theorem read_again (mode : Mode) (d : Octets) (p : Datagram) (dropped : Nat) (rest : Octets)
    (few : d.length ≤ 65535) (h : (read mode).run d = (.ok ⟨p, dropped⟩, rest)) :
    (read mode).run p.encode = (.ok ⟨p, 0⟩, []) := by
  obtain ⟨⟨left, hholds⟩, hcount⟩ := holds_of_run h
  have hsamples : ∀ s ∈ p.samples, s.Representable :=
    representable_of_holds hholds (few.trans_lt (by decide))
  have hagain : Holds p.encode p.header p.samples [] :=
    holds_encode_iff.mpr ⟨hholds.1, hsamples⟩
  obtain ⟨hlenient, -⟩ := read_of_holds hagain
  cases mode with
  | lenient => exact hlenient
  | strict => exact run_strict_ok.mpr ⟨⟨hagain, hcount rfl⟩, rfl, rfl⟩

/-- A sample fewer than announced, and the front of one behind it; bytes behind the records, and
behind the header of a packet that has no filling. -/
theorem read_again_loose :
    let record : Record FlowData := ⟨.standard 1, .rawHeader ⟨1, 64, 4, [8, 0, 69]⟩⟩
    let sample : FlowSample := ⟨17, ⟨0, 3⟩, 512, 8192, 0, ⟨0, 3⟩, ⟨2, 1⟩, [record, record]⟩
    let p : Datagram := ⟨⟨5, .v4 (Block.ofNat 4 0x0a000001), 0, 1, 60, 2⟩, [.flow .compact sample]⟩
    let header := RawHeader.front ⟨1, 64, 4, [8, 0, 69]⟩
    let records := encodePart (.standard 1) header ++ encodePart (.standard 1) (header ++ [7, 7])
    let body := sample.front .compact ++ Octets.ofNat 4 2 ++ records ++ [9]
    let d := p.header.encode ++ encodePart (.standard 1) body ++ [0, 0, 0, 1, 0]
    d.length ≤ 65535 ∧ (read .lenient).run d = (.ok ⟨p, 5⟩, []) ∧ p.encode ≠ d ∧
      (read .lenient).run p.encode = (.ok ⟨p, 0⟩, []) := by
  intro record sample p header records body d
  have few : d.length ≤ 65535 := by decide +kernel
  have h : (read .lenient).run d = (.ok ⟨p, 5⟩, []) := by decide +kernel
  exact ⟨few, h, by decide, read_again .lenient d p 5 [] few h⟩

end Datagram

end Telemetry.Sflow
