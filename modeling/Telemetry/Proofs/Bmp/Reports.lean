import Telemetry.Bmp.PeerReport
import Telemetry.Proofs.Bgp.Framing
import Telemetry.Proofs.Bmp.Headers
import Telemetry.Proofs.Bmp.RouterTexts
import Telemetry.Proofs.Bmp.Statistics

/-!
Which reports are read back from their written forms.

A report is well-formed when every BGP message in it fits and is of the type that its place asks
for, every text fits its length field, and what a flag, a reason or a statistic settles is as they
say.
-/

namespace Telemetry.Bmp

open Wire Reader

variable {bs rest : Octets}

/-! ### BGP messages in their places -/

lemma readExpected_exact (expected : Bgp.MessageType) :
    Exact (readExpected expected) (fun m => m.type = expected ∧ m.Fits) Bgp.Message.encode := by
  intro bs m rest
  simp only [readExpected, run_bind_ok, Bgp.Message.read_exact _ _ _]
  refine ⟨?_, ?_⟩
  · rintro ⟨m, _, ⟨hfits, rfl⟩, h⟩
    split_ifs at h with htype
    · obtain ⟨rfl, rfl⟩ := run_pure_ok.mp h
      exact ⟨⟨htype, hfits⟩, rfl⟩
    · simp at h
  · rintro ⟨⟨htype, hfits⟩, rfl⟩
    refine ⟨m, rest, ⟨hfits, rfl⟩, ?_⟩
    rw [if_pos htype]
    exact run_pure_ok.mpr ⟨rfl, rfl⟩

/-! ### The end of a session -/

namespace PeerDownDetail

/-- What follows the reason is what the reason asks for. -/
def Suits : PeerDownReason → PeerDownDetail → Prop
  | .localNotification, notification m => m.type = .notification ∧ m.Fits
  | .remoteNotification, notification m => m.type = .notification ∧ m.Fits
  | .localNoNotification, event _ => True
  | .remoteNoNotification, nothing => True
  | .peerDeConfigured, nothing => True
  | _, _ => False

lemma read_exact (reason : PeerDownReason) : Exact (read reason) (Suits reason) encode := by
  intro bs detail rest
  cases reason with
  | localNotification | remoteNotification =>
    simp only [read, run_bind_ok, readExpected_exact _ _ _ _, run_pure_ok]
    refine ⟨?_, ?_⟩
    · rintro ⟨m, _, ⟨hm, rfl⟩, rfl, rfl⟩
      exact ⟨hm, rfl⟩
    · rintro ⟨hsuits, rfl⟩
      cases detail with
      | notification m => exact ⟨m, rest, ⟨hsuits, rfl⟩, rfl, rfl⟩
      | event code => exact absurd hsuits id
      | nothing => exact absurd hsuits id
  | localNoNotification =>
    simp only [read, run_bind_ok, run_u16_ok, run_pure_ok]
    refine ⟨?_, ?_⟩
    · rintro ⟨code, _, rfl, rfl, rfl⟩
      exact ⟨trivial, rfl⟩
    · rintro ⟨hsuits, rfl⟩
      cases detail with
      | notification m => exact absurd hsuits id
      | event code => exact ⟨code, rest, rfl, rfl, rfl⟩
      | nothing => exact absurd hsuits id
  | remoteNoNotification | peerDeConfigured =>
    simp only [read, run_pure_ok]
    refine ⟨?_, ?_⟩
    · rintro ⟨rfl, rfl⟩
      exact ⟨trivial, rfl⟩
    · rintro ⟨hsuits, rfl⟩
      cases detail with
      | notification m => exact absurd hsuits id
      | event code => exact absurd hsuits id
      | nothing => exact ⟨rfl, rfl⟩

end PeerDownDetail

/-! ### The beginning of a session -/

namespace PeerUp

/-- The router's own address is of the family that the flag says, the messages are the two that
open a session, and the texts fit. -/
structure WellFormed (isV6 : Bool) (u : PeerUp) : Prop where
  family : u.localAddress.isV6 = isV6
  sent : u.sentOpen.type = .opening ∧ u.sentOpen.Fits
  received : u.receivedOpen.type = .opening ∧ u.receivedOpen.Fits
  texts : ∀ t ∈ u.tlvs, t.Fits

lemma encode_eq (u : PeerUp) : u.encode = u.localAddress.padded ++
    (Octets.ofUInt16 u.localPort ++ (Octets.ofUInt16 u.remotePort ++
      (u.sentOpen.encode ++ (u.receivedOpen.encode ++ TextTlv.encodeAll u.tlvs)))) := by
  simp only [encode, List.append_assoc]

/-- The parts in front of the texts have one width each, so each is found where it was written, and
the texts are read from what is left. -/
lemma run_read {isV6 : Bool} {u : PeerUp} :
    (read isV6).run bs = (.ok u, rest) ↔
      u.localAddress.isV6 = isV6 ∧ (u.sentOpen.type = .opening ∧ u.sentOpen.Fits) ∧
        (u.receivedOpen.type = .opening ∧ u.receivedOpen.Fits) ∧
        ∃ mid, bs = u.localAddress.padded ++ (Octets.ofUInt16 u.localPort ++
            (Octets.ofUInt16 u.remotePort ++ (u.sentOpen.encode ++
              (u.receivedOpen.encode ++ mid)))) ∧
          (TextTlv.readAll PeerUpTlvType "peer up").run mid = (.ok u.tlvs, rest) := by
  simp only [read, run_bind_ok, PeerHeader.run_readAddress, run_u16_ok,
    readExpected_exact _ _ _ _, run_pure_ok]
  refine ⟨?_, ?_⟩
  · rintro ⟨address, _, ⟨hfamily, rfl⟩, localPort, _, rfl, remotePort, _, rfl, sent, _,
      ⟨hsent, rfl⟩, received, mid, ⟨hreceived, rfl⟩, texts, _, htexts, rfl, rfl⟩
    exact ⟨hfamily, hsent, hreceived, mid, rfl, htexts⟩
  · rintro ⟨hfamily, hsent, hreceived, mid, rfl, htexts⟩
    exact ⟨u.localAddress, _, ⟨hfamily, rfl⟩, u.localPort, _, rfl, u.remotePort, _, rfl,
      u.sentOpen, _, ⟨hsent, rfl⟩, u.receivedOpen, mid, ⟨hreceived, rfl⟩, u.tlvs, rest, htexts,
      rfl, rfl⟩

lemma run_read_self {isV6 : Bool} {u : PeerUp} :
    (read isV6).run u.encode = (.ok u, rest) ↔ rest = [] ∧ u.WellFormed isV6 := by
  rw [run_read, encode_eq]
  refine ⟨?_, ?_⟩
  · rintro ⟨hfamily, hsent, hreceived, mid, h, htexts⟩
    simp only [List.append_cancel_left_eq] at h
    rw [← h, TextTlv.run_readAll (by decide)] at htexts
    exact ⟨htexts.1, hfamily, hsent, hreceived, htexts.2⟩
  · rintro ⟨rfl, hwell⟩
    exact ⟨hwell.family, hwell.sent, hwell.received, TextTlv.encodeAll u.tlvs, rfl,
      (TextTlv.run_readAll (by decide)).mpr ⟨rfl, hwell.texts⟩⟩

end PeerUp

/-! ### Mirrored messages -/

namespace MirroringTlv

def Fits : MirroringTlv → Prop
  | message m => m.Fits
  | information _ => True

lemma ofTlv_message {bs : Octets} {m : Bgp.Message} :
    ofTlv ⟨UInt16.ofNat (Code.number MirroringTlvType.bgpMessage), bs⟩ = .ok (message m) ↔
      m.Fits ∧ bs = m.encode := by
  have htype : (member MirroringTlvType
      (UInt16.ofNat (Code.number MirroringTlvType.bgpMessage)).toNat : Except Error _) =
        .ok .bgpMessage := rfl
  have hread : ofTlv ⟨UInt16.ofNat (Code.number MirroringTlvType.bgpMessage), bs⟩ =
      .ok (message m) ↔ (Bgp.Message.read : Reader Error Bgp.Message).run bs = (.ok m, []) := by
    unfold ofTlv
    rw [htype]
    rcases (Bgp.Message.read : Reader Error Bgp.Message).run bs with ⟨_ | m, _ | _⟩ <;>
      simp [bind, Except.bind, pure, Except.pure, throw, throwThe, MonadExceptOf.throw]
  rw [hread, Bgp.Message.read_exact _ _ _, List.append_nil]

lemma ofTlv_information (i : MirroringType) :
    ofTlv (toTlv (information i)) = .ok (information i) := by
  cases i <;> rfl

lemma run_readAll {ts : List MirroringTlv} :
    readAll.run (encodeAll ts) = (.ok ts, rest) ↔ rest = [] ∧ ∀ t ∈ ts, t.Fits := by
  refine Tlv.run_typed_write (fun t ht => ?_) fun t ht => ?_
  · cases t with
    | message m =>
      have hfits : m.Fits := ht
      refine ⟨?_, ofTlv_message.mpr ⟨hfits, rfl⟩⟩
      show m.encode.length ≤ 65535
      have : m.body.length ≤ 4077 := hfits
      rw [Bgp.Message.length_encode, Bgp.headerLength]
      omega
    | information i =>
      refine ⟨?_, ofTlv_information i⟩
      simp [Tlv.Fits, toTlv]
  · cases t with
    | message m => exact (ofTlv_message.mp ht).1
    | information i => trivial

end MirroringTlv

/-! ### All reports -/

namespace PeerReport

def WellFormed (isV6 : Bool) : PeerReport → Prop
  | routeMonitoring m => m.type = .update ∧ m.Fits
  | statistics cs => StatCounter.AllWellFormed cs
  | peerDown reason detail => detail.Suits reason
  | peerUp u => u.WellFormed isV6
  | routeMirroring ts => ∀ t ∈ ts, t.Fits

variable {isV6 : Bool}

lemma run_routeMonitoring_self {m : Bgp.Message} :
    readRouteMonitoring.run (routeMonitoring m).encode = (.ok (routeMonitoring m), rest) ↔
      rest = [] ∧ (routeMonitoring m).WellFormed isV6 :=
  (run_wrap_ok fun _ _ => routeMonitoring.inj).trans (readExpected_exact .update).run_self

lemma run_statistics_self {cs : List StatCounter} :
    readStatistics.run (statistics cs).encode = (.ok (statistics cs), rest) ↔
      rest = [] ∧ (statistics cs).WellFormed isV6 :=
  (run_wrap_ok fun _ _ => statistics.inj).trans StatCounter.readAll_exact.run_self

lemma run_peerDown_self {reason : PeerDownReason} {detail : PeerDownDetail} :
    readPeerDown.run (peerDown reason detail).encode = (.ok (peerDown reason detail), rest) ↔
      rest = [] ∧ (peerDown reason detail).WellFormed isV6 := by
  simp only [readPeerDown, run_bind_ok, run_code_ok, run_pure_ok]
  refine ⟨?_, ?_⟩
  · rintro ⟨_, _, ⟨-, h⟩, _, _, hdetail, heq, rfl⟩
    cases heq
    rw [← List.append_cancel_left h] at hdetail
    exact (PeerDownDetail.read_exact reason).run_self.mp hdetail
  · intro h
    have hdetail := (PeerDownDetail.read_exact reason).run_self.mpr h
    exact ⟨reason, _, ⟨Code.number_lt (by decide) reason, rfl⟩, detail, rest, hdetail, rfl, rfl⟩

lemma run_peerUp_self {u : PeerUp} :
    (readPeerUp isV6).run (peerUp u).encode = (.ok (peerUp u), rest) ↔
      rest = [] ∧ (peerUp u).WellFormed isV6 :=
  (run_wrap_ok fun _ _ => peerUp.inj).trans PeerUp.run_read_self

lemma run_routeMirroring_self {ts : List MirroringTlv} :
    readRouteMirroring.run (routeMirroring ts).encode = (.ok (routeMirroring ts), rest) ↔
      rest = [] ∧ (routeMirroring ts).WellFormed isV6 :=
  (run_wrap_ok fun _ _ => routeMirroring.inj).trans MirroringTlv.run_readAll

end PeerReport

end Telemetry.Bmp
