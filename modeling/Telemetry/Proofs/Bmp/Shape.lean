import Telemetry.Proofs.Bmp.Rewriting

/-!
The shape of every message that is read.

Whoever receives a packet may take it apart without looking twice: addresses are of the family that
the peer's flag says, every BGP message is of a possible length and of the type that its place asks
for, and what a reason or a statistic settles is as they say. All of this is what well-formed
messages have in common with those that are read; only texts set the two apart, since a text can
come out longer than the bytes that it was read from.
-/

namespace Telemetry

namespace Bgp.Message

lemma Fits.wireLength_bounds {m : Message} (h : m.Fits) :
    headerLength ≤ m.wireLength ∧ m.wireLength ≤ maxLength :=
  ⟨Nat.le_add_right _ _, fits_iff.mp h⟩

end Bgp.Message

namespace Bmp

open Wire Reader

variable {bs rest : Octets}

/-! ### The BGP messages in a message -/

namespace MirroringTlv

def message? : MirroringTlv → Option Bgp.Message
  | message m => some m
  | information _ => none

end MirroringTlv

namespace PeerReport

def bgpMessages : PeerReport → List Bgp.Message
  | routeMonitoring m => [m]
  | statistics _ => []
  | peerDown _ (.notification m) => [m]
  | peerDown .. => []
  | peerUp u => [u.sentOpen, u.receivedOpen]
  | routeMirroring ts => ts.filterMap MirroringTlv.message?

def withoutTexts : PeerReport → PeerReport
  | peerUp u => peerUp { u with tlvs := [] }
  | report => report

variable {isV6 : Bool} {report : PeerReport}

@[simp] lemma bgpMessages_withoutTexts (report : PeerReport) :
    report.withoutTexts.bgpMessages = report.bgpMessages := by
  cases report <;> rfl

lemma WellFormed.withoutTexts (h : report.WellFormed isV6) :
    report.withoutTexts.WellFormed isV6 := by
  cases report with
  | peerUp u => exact ⟨h.family, h.sent, h.received, by simp⟩
  | _ => exact h

lemma WellFormed.fits (h : report.WellFormed isV6) : ∀ m ∈ report.bgpMessages, m.Fits := by
  intro m hm
  cases report with
  | routeMonitoring update =>
    obtain rfl := List.mem_singleton.mp hm
    exact h.2
  | statistics cs => simp [bgpMessages] at hm
  | peerDown reason detail =>
    cases detail with
    | notification m' =>
      obtain rfl := List.mem_singleton.mp hm
      have hsuits : PeerDownDetail.Suits reason (.notification m) := h
      cases reason with
      | localNotification | remoteNotification => exact hsuits.2
      | _ => exact hsuits.elim
    | event code => simp [bgpMessages] at hm
    | nothing => simp [bgpMessages] at hm
  | peerUp u =>
    simp only [bgpMessages, List.mem_cons, List.not_mem_nil, or_false] at hm
    rcases hm with rfl | rfl
    · exact h.sent.2
    · exact h.received.2
  | routeMirroring ts =>
    obtain ⟨t, ht, hmessage⟩ := List.mem_filterMap.mp hm
    cases t with
    | message m' =>
      cases hmessage
      exact h _ ht
    | information i => cases hmessage

end PeerReport

namespace PeerDownDetail

/-- What suits a reason is of the kind that the reason settles. -/
lemma Suits.kind {reason : PeerDownReason} {detail : PeerDownDetail} (h : Suits reason detail) :
    ((∃ m, detail = notification m ∧ m.type = .notification) ↔
        Code.number reason = 1 ∨ Code.number reason = 3) ∧
      ((∃ code, detail = event code) ↔ Code.number reason = 2) ∧
      (detail = nothing ↔ Code.number reason = 4 ∨ Code.number reason = 5) := by
  cases reason with
  | localNotification | remoteNotification =>
    cases detail with
    | notification m => exact ⟨by simp [Code.number, h.1], by simp [Code.number], by simp [Code.number]⟩
    | _ => exact h.elim
  | localNoNotification =>
    cases detail with
    | event code => simp [Code.number]
    | _ => exact h.elim
  | remoteNoNotification | peerDeConfigured =>
    cases detail with
    | nothing => simp [Code.number]
    | _ => exact h.elim

end PeerDownDetail

namespace StatCounter

/-- The value of a statistic is kept as it came exactly when the statistic has no meaning. -/
lemma WellFormed.unknown_iff {c : StatCounter} (h : c.WellFormed) :
    (∃ value, c.data = .unknown value) ↔ c.known? = none := by
  unfold WellFormed at h
  cases hknown : c.known? with
  | some known =>
    rw [hknown] at h
    simp only [reduceCtorEq, iff_false]
    rintro ⟨value, hdata⟩
    rw [hdata] at h
    exact h
  | none =>
    rw [hknown] at h
    obtain ⟨value, hdata, -⟩ := h
    exact ⟨fun _ => rfl, fun _ => ⟨value, hdata⟩⟩

end StatCounter

/-! ### What reading guarantees -/

namespace Message

/-- The report of a message about a peer suits the peer, but for its texts. -/
def WellFormedButTexts : Message → Prop
  | peer header report =>
    header.familyAgrees = true ∧ report.withoutTexts.WellFormed header.isIpv6
  | _ => True

lemma Lossless.wellFormedButTexts {reader : PeerHeader → Reader Error PeerReport}
    (lossless : Lossless reader) {m : Message} (h : (readPeer reader).run bs = (.ok m, [])) :
    m.WellFormedButTexts := by
  obtain ⟨header, report, mid, rfl, hagrees, rfl, hreport⟩ := of_run_readPeer h
  exact ⟨hagrees, (lossless header mid report hreport).2.1.withoutTexts⟩

lemma wellFormedButTexts_peerUp {m : Message}
    (h : (readPeer fun header => PeerReport.readPeerUp header.isIpv6).run bs = (.ok m, [])) :
    m.WellFormedButTexts := by
  obtain ⟨header, report, mid, rfl, hagrees, rfl, hreport⟩ := of_run_readPeer h
  obtain ⟨u, rfl⟩ := exists_of_run_wrap hreport
  rw [PeerReport.readPeerUp, run_wrap_ok fun _ _ => PeerReport.peerUp.inj] at hreport
  obtain ⟨hfamily, hsent, hreceived, -⟩ := PeerUp.run_read.mp hreport
  exact ⟨hagrees, hfamily, hsent, hreceived, by simp⟩

/-- A message that is read is well-formed but for its texts. -/
lemma wellFormedButTexts_of_run {t : MessageType} {m : Message}
    (h : (read t).run bs = (.ok m, [])) : m.WellFormedButTexts := by
  cases t with
  | initiationMessage =>
    obtain ⟨ts, rfl⟩ := exists_of_run_wrap h
    trivial
  | terminationMessage =>
    obtain ⟨ts, rfl⟩ := exists_of_run_wrap h
    trivial
  | routeMonitoring => exact lossless_routeMonitoring.wellFormedButTexts h
  | statisticsReport => exact lossless_statistics.wellFormedButTexts h
  | peerDownNotification => exact lossless_peerDown.wellFormedButTexts h
  | peerUpNotification => exact wellFormedButTexts_peerUp h
  | routeMirroringMessage => exact lossless_routeMirroring.wellFormedButTexts h

def bgpMessages : Message → List Bgp.Message
  | peer _ report => report.bgpMessages
  | _ => []

/-- What a receiver may rely on. -/
structure Shaped (m : Message) : Prop where
  family : ∀ header report, m = peer header report →
    (header.address.isV6 = true ↔ header.isIpv6 = true)
  localFamily : ∀ header u, m = peer header (.peerUp u) →
    (u.localAddress.isV6 = true ↔ header.isIpv6 = true)
  lengths : ∀ b ∈ m.bgpMessages, 19 ≤ b.wireLength ∧ b.wireLength ≤ 4096
  update : ∀ header b, m = peer header (.routeMonitoring b) → b.type = .update
  opens : ∀ header u, m = peer header (.peerUp u) →
    u.sentOpen.type = .opening ∧ u.receivedOpen.type = .opening
  detail : ∀ header reason detail, m = peer header (.peerDown reason detail) →
    ((∃ b, detail = .notification b ∧ b.type = .notification) ↔
        Code.number reason = 1 ∨ Code.number reason = 3) ∧
      ((∃ code, detail = .event code) ↔ Code.number reason = 2) ∧
      (detail = .nothing ↔ Code.number reason = 4 ∨ Code.number reason = 5)
  statistics : ∀ header counters, m = peer header (.statistics counters) → ∀ c ∈ counters,
    ((∃ value, c.data = .unknown value) ↔ c.known? = none)

lemma WellFormedButTexts.shaped {m : Message} (h : m.WellFormedButTexts) : m.Shaped where
  family := by
    rintro header report rfl
    rw [PeerHeader.familyAgrees_iff.mp h.1]
  localFamily := by
    rintro header u rfl
    rw [show u.localAddress.isV6 = header.isIpv6 from h.2.family]
  lengths := by
    intro b hb
    cases m with
    | peer header report =>
      rw [bgpMessages, ← PeerReport.bgpMessages_withoutTexts] at hb
      exact (h.2.fits b hb).wireLength_bounds
    | _ => simp [bgpMessages] at hb
  update := by
    rintro header b rfl
    exact h.2.1
  opens := by
    rintro header u rfl
    exact ⟨h.2.sent.1, h.2.received.1⟩
  detail := by
    rintro header reason detail rfl
    exact PeerDownDetail.Suits.kind h.2
  statistics := by
    rintro header counters rfl c hc
    exact (h.2.2 c hc).unknown_iff

end Message

namespace Packet

variable {d : Octets} {p : Packet}

/-- **Every packet that is read is well-formed.** Its type is that of its message, its length is
that of the bytes that were consumed, which are all there, and the message has the shape that its
receivers rely on. -/
theorem shaped_of_read (h : read.run d = (.ok p, rest)) :
    p.type = p.message.type ∧ commonHeaderLength ≤ p.length.toNat ∧ p.length.toNat ≤ d.length ∧
      rest = d.drop p.length.toNat ∧ p.message.Shaped := by
  obtain ⟨hcounts, body, rfl, hlength, hmessage⟩ := run_read_ok.mp h
  have hheader := CommonHeader.length_encode ⟨p.version, p.length, p.type⟩
  have hsum : p.length.toNat =
      (CommonHeader.encode ⟨p.version, p.length, p.type⟩ ++ body).length := by
    rw [List.length_append, hheader]
    omega
  refine ⟨(Message.type_of_run hmessage).symm, hcounts, ?_, ?_,
    (Message.wellFormedButTexts_of_run hmessage).shaped⟩
  · rw [← List.append_assoc, List.length_append]
    omega
  · rw [← List.append_assoc, hsum, List.drop_left]

/-- The beginning of an IPv6 session, with a text of one byte that begins no character, and the
beginning of the next message behind it. -/
theorem shaped_of_read_peerUp :
    let header : PeerHeader :=
      ⟨.globalInstance, ⟨PeerFlags.ipv6⟩, 0, .v6 (Block.ofNat 16 1), 65001, Block.ofNat 4 7, 0, 0⟩
    let opening : Bgp.Message := ⟨.opening, []⟩
    let u : PeerUp := ⟨.v6 (Block.ofNat 16 2), 179, 40000, opening, opening, [⟨.string, "\ufffd"⟩]⟩
    let d : Octets := [3, 0, 0, 0, 111, 3] ++ header.encode ++ Octets.ofNat 16 2 ++
      [0, 179, 156, 64] ++ opening.encode ++ opening.encode ++ [0, 0, 0, 1, 0xff] ++ [3, 0]
    let p : Packet := ⟨.bmp3, 111, .peerUpNotification, .peer header (.peerUp u)⟩
    read.run d = (.ok p, [3, 0]) ∧ p.length.toNat ≤ d.length ∧ p.message.Shaped := by
  intro header opening u d p
  have h : read.run d = (.ok p, [3, 0]) := by decide +kernel
  obtain ⟨-, -, hlength, -, hshaped⟩ := shaped_of_read h
  exact ⟨h, hlength, hshaped⟩

end Packet

end Bmp

end Telemetry
