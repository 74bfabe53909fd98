import Telemetry.Proofs.Bmp.Looks
import Telemetry.Proofs.Bmp.Prefixes

/-!
Where a frame is cut, and how it is read.

A header is looked at twice: by the decoder, which has to know how many bytes to cut off, and again
by whoever reads the frame. Both accept the same six bytes and see the same length in them. So a
frame that has been cut off is read to its last byte, and whatever is wrong with it is wrong with
its body: a body is never refused for what only a header can say.
-/

namespace Telemetry.Bmp

open Wire Reader

/-! ### What can be wrong with a body -/

namespace Error

/-- The error is not about a version, the length of a message, or the type of one. -/
def OfBody : Error → Prop
  | wire (.unrecognized codes _) => codes ≠ Code.title MessageType
  | unsupportedVersion _ | invalidMessageLength _ => False
  | _ => True

lemma ofBody_short : AdmitsShort OfBody := fun _ _ => trivial

lemma OfBody.inBody {e : Error} (h : e.OfBody) : e.inBody.OfBody := by
  cases e with
  | wire f => cases f <;> exact h
  | _ => exact h

end Error

open Error

section Parts

variable {α : Type} [Code α]

lemma ofBody_of_member (other : Code.title α ≠ Code.title MessageType) {n : Nat} {e : Error}
    (h : (member α n : Except Error α) = .error e) : e.OfBody := by
  rw [error_of_member h]
  exact other

lemma failsOnly_otherCode (other : Code.title α ≠ Code.title MessageType) (w : Nat) :
    FailsOnly (code α w : Reader Error α) OfBody :=
  failsOnly_code_of ofBody_short (fun _ => other) w

lemma failsOnly_readBgp : FailsOnly (Bgp.Message.read : Reader Error Bgp.Message) OfBody := by
  unfold Bgp.Message.read
  refine (failsOnly_take ofBody_short 16).bind fun front => ?_
  split_ifs
  · exact failsOnly_fail trivial
  refine (failsOnly_u16 ofBody_short).bind fun length => ?_
  dsimp only
  split_ifs
  · exact failsOnly_fail trivial
  refine (failsOnly_otherCode (by decide) 1).bind fun type => ?_
  exact (failsOnly_slice_of (fun _ _ => trivial) _).bind fun body => failsOnly_pure _

lemma failsOnly_readExpected (expected : Bgp.MessageType) :
    FailsOnly (readExpected expected) OfBody := by
  refine failsOnly_readBgp.bind fun m => ?_
  split_ifs
  · exact failsOnly_pure m
  · exact failsOnly_fail trivial

lemma failsOnly_readAddress (isV6 : Bool) : FailsOnly (PeerHeader.readAddress isV6) OfBody := by
  refine (failsOnly_block ofBody_short 16).bind fun field => ?_
  split
  · exact failsOnly_pure _
  · exact failsOnly_fail trivial

lemma failsOnly_readPeerHeader : FailsOnly PeerHeader.read OfBody := by
  unfold PeerHeader.read
  refine (failsOnly_need ofBody_short _).bind fun _ => ?_
  refine (failsOnly_otherCode (by decide) 1).bind fun type => ?_
  refine (failsOnly_u8 ofBody_short).bind fun flags => ?_
  refine (failsOnly_u64 ofBody_short).bind fun distinguisher => ?_
  refine (failsOnly_readAddress _).bind fun address => ?_
  refine (failsOnly_u32 ofBody_short).bind fun asn => ?_
  refine (failsOnly_block ofBody_short 4).bind fun bgpId => ?_
  refine (failsOnly_u32 ofBody_short).bind fun seconds => ?_
  exact (failsOnly_u32 ofBody_short).bind fun micros => failsOnly_pure _

/-! ### Lists of TLVs -/

lemma failsOnly_readTlvs (message : String) :
    FailsOnly (Tlv.readAll message : Reader Error (List Tlv)) OfBody := by
  refine FailsOnly.whileLeft ?_ _
  unfold Tlv.read
  refine failsOnly_rest.bind fun bs => ?_
  split_ifs
  · exact failsOnly_fail trivial
  refine (failsOnly_u16 ofBody_short).bind fun type => ?_
  refine (failsOnly_u16 ofBody_short).bind fun length => ?_
  exact (failsOnly_slice_of (fun _ _ => trivial) _).bind fun value => failsOnly_pure _

/-- A list is split first, and then each entry is taken for what it is. -/
lemma failsOnly_readTyped {β : Type} {ofTlv : Tlv → Except Error β} (message : String)
    (h : ∀ t e, ofTlv t = .error e → e.OfBody) :
    FailsOnly (do
      let tlvs ← Tlv.readAll message
      Reader.ofExcept (tlvs.mapM ofTlv) : Reader Error (List β)) OfBody :=
  (failsOnly_readTlvs message).bind fun tlvs => failsOnly_mapM h tlvs

lemma failsOnly_readTexts (other : Code.title α ≠ Code.title MessageType) (message : String) :
    FailsOnly (TextTlv.readAll α message) OfBody := by
  refine failsOnly_readTyped message fun t e he => ?_
  rcases bind_eq_error.mp he with htype | ⟨type, -, htext⟩
  · exact ofBody_of_member other htype
  · cases htext

lemma failsOnly_readTermination : FailsOnly TerminationTlv.readAll OfBody := by
  refine failsOnly_readTyped "termination" fun t e he => ?_
  rcases bind_eq_error.mp he with htype | ⟨type, -, hvalue⟩
  · exact ofBody_of_member (by decide) htype
  cases type with
  | string => cases hvalue
  | reason =>
    dsimp only at hvalue
    split_ifs at hvalue
    · cases hvalue
      trivial
    rcases bind_eq_error.mp hvalue with hreason | ⟨reason, -, hreason⟩
    · exact ofBody_of_member (by decide) hreason
    · cases hreason

lemma failsOnly_readMirroring : FailsOnly MirroringTlv.readAll OfBody := by
  refine failsOnly_readTyped "route mirroring" fun t e he => ?_
  rcases bind_eq_error.mp he with htype | ⟨type, -, hvalue⟩
  · exact ofBody_of_member (by decide) htype
  cases type with
  | bgpMessage =>
    dsimp only at hvalue
    split at hvalue
    · cases hvalue
    · cases hvalue
      trivial
    · next e' left hrun =>
      cases hvalue
      exact failsOnly_readBgp _ _ _ hrun
  | information =>
    dsimp only at hvalue
    split_ifs at hvalue
    · cases hvalue
      trivial
    rcases bind_eq_error.mp hvalue with htype | ⟨type, -, htype⟩
    · exact ofBody_of_member (by decide) htype
    · cases htype

/-! ### The seven bodies -/

lemma failsOnly_readStatistics : FailsOnly PeerReport.readStatistics OfBody := by
  have hcounter : FailsOnly StatCounter.read OfBody := by
    unfold StatCounter.read
    refine (failsOnly_u16 ofBody_short).bind fun type => ?_
    refine (failsOnly_u16 ofBody_short).bind fun length => ?_
    refine (failsOnly_slice_of (fun _ _ => trivial) _).bind fun value => ?_
    split
    · exact failsOnly_pure _
    split
    · exact failsOnly_pure _
    · exact failsOnly_fail trivial
  have hcounters : FailsOnly StatCounter.readAll OfBody :=
    (failsOnly_u32 ofBody_short).bind fun count => hcounter.times _
  exact hcounters.bind fun cs => failsOnly_pure _

lemma failsOnly_readPeerDown : FailsOnly PeerReport.readPeerDown OfBody := by
  refine (failsOnly_otherCode (by decide) 1).bind fun reason => ?_
  have hdetail : FailsOnly (PeerDownDetail.read reason) OfBody := by
    cases reason with
    | localNotification | remoteNotification =>
      exact (failsOnly_readExpected _).bind fun m => failsOnly_pure _
    | localNoNotification => exact (failsOnly_u16 ofBody_short).bind fun code => failsOnly_pure _
    | remoteNoNotification | peerDeConfigured => exact failsOnly_pure _
  exact hdetail.bind fun detail => failsOnly_pure _

lemma failsOnly_readPeerUp (isV6 : Bool) : FailsOnly (PeerReport.readPeerUp isV6) OfBody := by
  have hsession : FailsOnly (PeerUp.read isV6) OfBody := by
    unfold PeerUp.read
    refine (failsOnly_readAddress isV6).bind fun localAddress => ?_
    refine (failsOnly_u16 ofBody_short).bind fun localPort => ?_
    refine (failsOnly_u16 ofBody_short).bind fun remotePort => ?_
    refine (failsOnly_readExpected _).bind fun sentOpen => ?_
    refine (failsOnly_readExpected _).bind fun receivedOpen => ?_
    exact (failsOnly_readTexts (by decide) _).bind fun tlvs => failsOnly_pure _
  exact hsession.bind fun u => failsOnly_pure _

lemma failsOnly_readPeer {report : PeerHeader → Reader Error PeerReport}
    (h : ∀ header, FailsOnly (report header) OfBody) :
    FailsOnly (Message.readPeer report) OfBody :=
  failsOnly_readPeerHeader.bind fun header => (h header).bind fun _ => failsOnly_pure _

/-- Whatever is wrong with a body is not what a header is refused for. -/
lemma failsOnly_readBody (type : MessageType) : FailsOnly (Message.read type) OfBody := by
  cases type with
  | initiationMessage => exact (failsOnly_readTexts (by decide) _).bind fun ts => failsOnly_pure _
  | terminationMessage => exact failsOnly_readTermination.bind fun ts => failsOnly_pure _
  | routeMonitoring =>
    exact failsOnly_readPeer fun _ => (failsOnly_readExpected _).bind fun m => failsOnly_pure _
  | statisticsReport => exact failsOnly_readPeer fun _ => failsOnly_readStatistics
  | peerDownNotification => exact failsOnly_readPeer fun _ => failsOnly_readPeerDown
  | peerUpNotification => exact failsOnly_readPeer fun header => failsOnly_readPeerUp header.isIpv6
  | routeMirroringMessage =>
    exact failsOnly_readPeer fun _ => failsOnly_readMirroring.bind fun ts => failsOnly_pure _

end Parts

/-! ### Frames -/

open CommonHeader Packet

lemma failsOnly_ofBody (header : CommonHeader) (body : Octets) :
    FailsOnly (ofBody header body) OfBody := by
  have hbody : FailsOnly (mapError Error.inBody (Message.read header.type)) OfBody :=
    .mapError fun bs e rest h => (failsOnly_readBody header.type bs e rest h).inBody
  refine (hbody.inside body).bind fun answer => ?_
  dsimp only
  split_ifs
  · exact failsOnly_pure _
  · exact failsOnly_fail trivial

/-- Behind a header that declares a length, a packet fails for what is wrong with its body. -/
lemma Packet.ofBody_of_declares {d : Octets} {n : Nat} {e : Error} (h : Declares d n)
    (he : (read.run d).1 = .error e) : e.OfBody := by
  obtain ⟨header, content, counts, -, rfl⟩ := h.exists_encode
  rw [run_read_declared counts] at he
  have hbehind : FailsOnly (do
      let body ← Reader.take (header.length.toNat - commonHeaderLength)
      ofBody header body : Reader Error Packet) OfBody :=
    (failsOnly_take ofBody_short _).bind fun body => failsOnly_ofBody header body
  exact hbehind content e _ (Prod.ext he rfl)

namespace Frame

variable {maxLength n : Nat} {header frame : Octets}

/-- The decoder and the reader accept the same headers, with the same length. -/
lemma plausibleLength?_iff_read (six : header.length = commonHeaderLength) :
    plausibleLength? maxLength header = some n ↔
      ∃ h, (CommonHeader.read.run header).1 = .ok h ∧ h.length.toNat = n ∧ n ≤ maxLength := by
  refine ⟨fun h => ?_, ?_⟩
  · obtain ⟨a, b, c, d, type, rfl, htype, hvalue, hcounts, within⟩ := plausibleLength?_eq_some.mp h
    have hdeclares : Declares [3, a, b, c, d, type] n :=
      ⟨a, b, c, d, type, [], rfl, hvalue, hcounts, htype⟩
    obtain ⟨h, content, counts, hlength, hwritten⟩ := hdeclares.exists_encode
    have hread := (read_exact _ h content).mpr ⟨counts, hwritten⟩
    exact ⟨h, by rw [hread], hlength, within⟩
  · rintro ⟨h, hread, rfl, within⟩
    obtain ⟨counts, hwritten⟩ := (read_exact header h _).mp (Prod.ext hread rfl)
    obtain ⟨a, b, c, d, type, content, heq, hvalue, hcounts, htype⟩ :
        Declares header h.length.toNat := hwritten ▸ declares_encode counts
    -- six bytes are the header and nothing else
    obtain rfl : content = [] := by
      rw [heq] at six
      simpa [commonHeaderLength] using six
    exact plausibleLength?_eq_some.mpr ⟨a, b, c, d, type, heq, htype, hvalue, hcounts, within⟩

lemma Complete.declares (h : Complete maxLength frame) : Declares frame frame.length := by
  obtain ⟨a, b, c, d, type, content, rfl, htype, hlength, -⟩ := h
  exact ⟨a, b, c, d, type, content, rfl, hlength, by simp [commonHeaderLength], htype⟩

lemma Complete.length_of_read {p : Packet} (h : Complete maxLength frame)
    (hread : (Packet.read.run frame).1 = .ok p) : p.length.toNat = frame.length := by
  obtain ⟨-, hleft⟩ := run_read_whole h.declares rfl
  obtain ⟨hcounts, body, hwritten, hlength, -⟩ := run_read_ok.mp (Prod.ext hread hleft)
  have hsize := congrArg List.length hwritten
  simp only [List.length_append, CommonHeader.length_encode, List.length_nil] at hsize
  omega

/-- **The decoder and the reader agree on what a message is.** Of six bytes, those are a plausible
header that are read as a header, with the length that is read, if that is within the limit. So a
frame that is cut off by the plausible length is read to its last byte; it is never refused because
bytes are missing, nor for its version, its length or its type; and a packet that is read of it has
the length of the frame. -/
theorem header_agrees (maxLength : Nat) :
    (∀ (header : Octets) (n : Nat), header.length = commonHeaderLength →
      (plausibleLength? maxLength header = some n ↔
        ∃ h, (CommonHeader.read.run header).1 = .ok h ∧ h.length.toNat = n ∧ n ≤ maxLength)) ∧
      ∀ (buffer frame rest : Octets) (n : Nat),
        plausibleLength? maxLength (buffer.take commonHeaderLength) = some n →
        Octets.cut? n buffer = some (frame, rest) →
        (Packet.read.run frame).2 = [] ∧
          (∀ e, (Packet.read.run frame).1 = .error e →
            e.isInsufficient = false ∧ (∀ version, e ≠ .unsupportedVersion version) ∧
              (∀ length, e ≠ .invalidMessageLength length) ∧
              ∀ type, e ≠ .wire (.unrecognized (Code.title MessageType) type)) ∧
          ∀ p, (Packet.read.run frame).1 = .ok p → p.length.toNat = frame.length := by
  refine ⟨fun header n six => plausibleLength?_iff_read six, ?_⟩
  intro buffer frame rest n hdeclared cut
  obtain ⟨rfl, rfl⟩ := cut?_eq_some_iff.mp cut
  have complete : Complete maxLength frame := by
    have htake := complete_take hdeclared (by simp)
    rwa [List.take_left] at htake
  obtain ⟨hanswer, hleft⟩ := run_read_whole complete.declares rfl
  refine ⟨hleft, fun e he => ⟨?_, ?_⟩, fun p => complete.length_of_read⟩
  · have hlong : ¬ e.isInsufficient = true := fun hshort => hanswer ⟨e, he, hshort⟩
    exact Bool.not_eq_true _ ▸ hlong
  · have hbody := ofBody_of_declares complete.declares he
    refine ⟨?_, ?_, ?_⟩
    · rintro version rfl
      exact hbody
    · rintro length rfl
      exact hbody
    · rintro type rfl
      exact hbody rfl

/-- An initiation with a TLV of an unknown type, and the beginning of the next message behind it:
the frame is refused for its TLV. One with no TLV is a packet. -/
theorem header_agrees_unknownTlv :
    let header : Octets := [3, 0, 0, 0, 11, 4]
    let frame : Octets := header ++ [0, 9, 0, 1, 65]
    plausibleLength? 100 header = some 11 ∧
      (∃ h, (CommonHeader.read.run header).1 = .ok h ∧ h.length.toNat = 11) ∧
      (Packet.read.run frame).1 = .error (.wire (.unrecognized "InitiationTlvType" 9)) ∧
      (Error.wire (.unrecognized "InitiationTlvType" 9)).isInsufficient = false ∧
      (Packet.read.run frame).2 = [] ∧
      ∃ p, (Packet.read.run [3, 0, 0, 0, 6, 4]).1 = .ok p ∧ p.length.toNat = 6 := by
  intro header frame
  obtain ⟨hheaders, hframes⟩ := header_agrees 100
  have hdeclared : plausibleLength? 100 header = some 11 := by decide
  obtain ⟨h, hread, hlength, -⟩ := (hheaders header 11 rfl).mp hdeclared
  have cut : Octets.cut? 11 (frame ++ [3, 0]) = some (frame, [3, 0]) := by decide
  obtain ⟨hleft, herrors, -⟩ := hframes (frame ++ [3, 0]) frame [3, 0] 11 (by decide) cut
  have hrefused : (Packet.read.run frame).1 =
      .error (.wire (.unrecognized "InitiationTlvType" 9)) := by decide +kernel
  obtain ⟨-, -, hlengths⟩ :=
    hframes [3, 0, 0, 0, 6, 4] [3, 0, 0, 0, 6, 4] [] 6 (by decide) (by decide)
  obtain ⟨p, hp⟩ : ∃ p, (Packet.read.run [3, 0, 0, 0, 6, 4]).1 = .ok p := ⟨_, rfl⟩
  exact ⟨hdeclared, ⟨h, hread, hlength⟩, hrefused, (herrors _ hrefused).1, hleft, p, hp,
    hlengths p hp⟩

end Frame

end Telemetry.Bmp
