import Telemetry.Bmp.Packet
import Telemetry.Proofs.Bmp.Reports

/-!
Which packets are read back.

Writing never fails, so it also writes packets that no reader gives back: lengths are reduced to
their fields, a flag may contradict its address, a message may be of the wrong type. The packets
that are read back are the well-formed ones and no others. None is read back by accident: the
length in front decides how many bytes are taken, the bytes behind them stay, and so the length was
not reduced; inside the body every part is either found where it was written, or not itself.
-/

namespace Telemetry.Bmp

open Wire Reader

variable {bs rest : Octets}

namespace Message

/-- Texts fit, and a report suits the peer in front of it, whose flag and address agree. -/
def WellFormed : Message → Prop
  | initiation ts => ∀ t ∈ ts, t.Fits
  | termination ts => ∀ t ∈ ts, t.Fits
  | peer header report => header.familyAgrees = true ∧ report.WellFormed header.isIpv6

lemma run_readPeer_self {reader : PeerHeader → Reader Error PeerReport} {header : PeerHeader}
    {report : PeerReport}
    (hreport : (reader header).run report.encode = (.ok report, rest) ↔
      rest = [] ∧ report.WellFormed header.isIpv6) :
    (readPeer reader).run (peer header report).encode = (.ok (peer header report), rest) ↔
      rest = [] ∧ (peer header report).WellFormed := by
  simp only [readPeer, run_bind_ok, run_pure_ok, PeerHeader.read_exact _ _ _, encode]
  refine ⟨?_, ?_⟩
  · rintro ⟨_, _, ⟨hagrees, h⟩, _, _, hrun, heq, rfl⟩
    cases heq
    rw [← List.append_cancel_left h] at hrun
    obtain ⟨hrest, hwell⟩ := hreport.mp hrun
    exact ⟨hrest, hagrees, hwell⟩
  · rintro ⟨hrest, hagrees, hwell⟩
    exact ⟨header, _, ⟨hagrees, rfl⟩, report, rest, hreport.mpr ⟨hrest, hwell⟩, rfl, rfl⟩

lemma type_of_readPeer {reader : PeerHeader → Reader Error PeerReport} {t : MessageType}
    {m : Message}
    (htype : ∀ header bs report rest, (reader header).run bs = (.ok report, rest) →
      report.type = t)
    (h : (readPeer reader).run bs = (.ok m, rest)) : m.type = t := by
  simp only [readPeer, run_bind_ok, run_pure_ok] at h
  obtain ⟨header, _, -, report, _, hrun, rfl, -⟩ := h
  exact htype _ _ _ _ hrun

lemma type_of_run {t : MessageType} {m : Message} (h : (read t).run bs = (.ok m, rest)) :
    m.type = t := by
  cases t with
  | initiationMessage =>
    obtain ⟨ts, rfl⟩ := exists_of_run_wrap h
    rfl
  | terminationMessage =>
    obtain ⟨ts, rfl⟩ := exists_of_run_wrap h
    rfl
  | routeMonitoring =>
    refine type_of_readPeer (fun _ _ report _ hr => ?_) h
    obtain ⟨update, rfl⟩ := exists_of_run_wrap hr
    rfl
  | statisticsReport =>
    refine type_of_readPeer (fun _ _ report _ hr => ?_) h
    obtain ⟨counters, rfl⟩ := exists_of_run_wrap hr
    rfl
  | peerDownNotification =>
    refine type_of_readPeer (fun _ _ report _ hr => ?_) h
    obtain ⟨reason, _, -, hdetail⟩ := run_bind_ok.mp hr
    obtain ⟨detail, rfl⟩ := exists_of_run_wrap hdetail
    rfl
  | peerUpNotification =>
    refine type_of_readPeer (fun _ _ report _ hr => ?_) h
    obtain ⟨session, rfl⟩ := exists_of_run_wrap hr
    rfl
  | routeMirroringMessage =>
    refine type_of_readPeer (fun _ _ report _ hr => ?_) h
    obtain ⟨tlvs, rfl⟩ := exists_of_run_wrap hr
    rfl

/-- A body is read back when it is well-formed. -/
lemma run_read_self {m : Message} :
    (read m.type).run m.encode = (.ok m, rest) ↔ rest = [] ∧ m.WellFormed := by
  cases m with
  | initiation ts =>
    exact (run_wrap_ok fun _ _ => initiation.inj).trans (TextTlv.run_readAll (by decide))
  | termination ts =>
    exact (run_wrap_ok fun _ _ => termination.inj).trans TerminationTlv.run_readAll
  | peer header report =>
    cases report with
    | routeMonitoring m => exact run_readPeer_self PeerReport.run_routeMonitoring_self
    | statistics cs => exact run_readPeer_self PeerReport.run_statistics_self
    | peerDown reason detail => exact run_readPeer_self PeerReport.run_peerDown_self
    | peerUp u => exact run_readPeer_self PeerReport.run_peerUp_self
    | routeMirroring ts => exact run_readPeer_self PeerReport.run_routeMirroring_self

end Message

namespace Packet

/-- The type is that of the message, the length is that of the written form and fits its field,
and the message is well-formed. -/
structure WellFormed (p : Packet) : Prop where
  type : p.type = p.message.type
  length : p.length.toNat = commonHeaderLength + p.message.encode.length
  fits : commonHeaderLength + p.message.encode.length < 2 ^ 32
  message : p.message.WellFormed

/-- What is read begins with a header that counts itself, and goes on with as many bytes as the
header says, which the message fills. -/
lemma run_read_ok {p : Packet} :
    read.run bs = (.ok p, rest) ↔
      commonHeaderLength ≤ p.length.toNat ∧
      ∃ body, bs = CommonHeader.encode ⟨p.version, p.length, p.type⟩ ++ (body ++ rest) ∧
        body.length = p.length.toNat - commonHeaderLength ∧
        (Message.read p.type).run body = (.ok p.message, []) := by
  obtain ⟨version, length, type, message⟩ := p
  simp only [read, run_bind_ok, CommonHeader.read_exact _ _ _, run_take_ok]
  refine ⟨?_, ?_⟩
  · rintro ⟨header, _, ⟨hcounts, rfl⟩, body, _, ⟨hlength, rfl⟩, ⟨m, left⟩, _, hinside, h⟩
    obtain ⟨hmessage, rfl⟩ := run_inside_ok.mp hinside
    rw [run_mapError_ok] at hmessage
    dsimp only at h
    split_ifs at h with hleft
    · obtain ⟨heq, rfl⟩ := run_pure_ok.mp h
      cases heq
      obtain rfl : left = [] := List.isEmpty_iff.mp hleft
      exact ⟨hcounts, body, rfl, hlength, hmessage⟩
    · simp at h
  · rintro ⟨hcounts, body, rfl, hlength, hmessage⟩
    refine ⟨⟨version, length, type⟩, _, ⟨hcounts, rfl⟩, body, rest, ⟨hlength, rfl⟩,
      ⟨message, []⟩, rest, ?_, run_pure_ok.mpr ⟨rfl, rfl⟩⟩
    exact run_inside_ok.mpr ⟨run_mapError_ok.mpr hmessage, rfl⟩

/-- **Exactly the well-formed packets are read back.** In front of any bytes, the written form of
a packet gives the packet and leaves those bytes if and only if the packet is well-formed. -/
theorem run_encode_iff (p : Packet) (s : Octets) :
    read.run (p.encode ++ s) = (.ok p, s) ↔ p.WellFormed := by
  have hencode : p.encode ++ s = CommonHeader.encode
      ⟨p.version, UInt32.ofNat (commonHeaderLength + p.message.encode.length), p.type⟩ ++
        (p.message.encode ++ s) := by
    rw [encode, List.append_assoc]
  rw [run_read_ok, hencode]
  refine ⟨?_, ?_⟩
  · rintro ⟨hcounts, body, h, hlength, hmessage⟩
    -- the headers are as long as each other, and the bytes behind the bodies are the same
    obtain ⟨hheader, htail⟩ := List.append_inj h (by simp only [CommonHeader.length_encode])
    obtain rfl := List.append_cancel_right htail
    have htype : p.message.type = p.type := Message.type_of_run hmessage
    rw [← htype] at hmessage
    have hsum : p.length.toNat = commonHeaderLength + p.message.encode.length := by omega
    exact ⟨htype.symm, hsum, hsum ▸ p.length.toNat_lt, (Message.run_read_self.mp hmessage).2⟩
  · rintro ⟨htype, hlength, hfits, hmessage⟩
    have hfield : UInt32.ofNat (commonHeaderLength + p.message.encode.length) = p.length := by
      rw [← hlength, UInt32.ofNat_toNat]
    rw [hfield, htype]
    exact ⟨by omega, p.message.encode, rfl, by omega, Message.run_read_self.mpr ⟨rfl, hmessage⟩⟩

end Packet

end Telemetry.Bmp
