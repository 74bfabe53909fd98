import Telemetry.Proofs.Bmp.RoundTrip
import Telemetry.Proofs.Text.Mending

/-!
What is written for a message that was read.

A body is a front that comes back byte for byte, and then a list of entries; the entries that are
texts come back mended, the others as they were. This is `Rewrites`, and every body that is read is
of this form: the front is empty where a message is a list of texts, it is everything where a
message has no text, and of the beginning of a session it is all but the texts behind.
-/

namespace Telemetry.Bmp

open Wire Reader

variable {bs rest : Octets}

/-! ### Entries -/

namespace TextTlv

variable {τ : Type} [Code τ]

lemma toTlv_of_ofTlv {e : Tlv} {x : TextTlv τ} (h : ofTlv e = .ok x) :
    x.toTlv = ⟨e.type, Text.Utf8.mend e.value⟩ := by
  obtain ⟨hnumber, htext⟩ := ofTlv_eq_ok.mp h
  rw [toTlv, hnumber, ← htext, UInt16.ofNat_toNat]
  rfl

lemma of_run_readAll {message : String} {ts : List (TextTlv τ)}
    (h : (readAll τ message).run bs = (.ok ts, rest)) :
    rest = [] ∧ ∃ entries : List Tlv, (∀ e ∈ entries, e.Fits) ∧
      bs = entries.flatMap Tlv.encode ∧
      ts.map toTlv = entries.map (fun e => ⟨e.type, Text.Utf8.mend e.value⟩) ∧
      ts.map (·.text) = entries.map fun e => Text.Utf8.decode e.value := by
  obtain ⟨hrest, entries, hfits, hbs, hread⟩ := Tlv.run_typed.mp h
  exact ⟨hrest, entries, hfits, hbs, Tlv.map_eq_of_mapM (fun _ _ => toTlv_of_ofTlv) hread,
    Tlv.map_eq_of_mapM (fun _ _ hx => (ofTlv_eq_ok.mp hx).2.symm) hread⟩

end TextTlv

namespace TerminationTlv

def isText (e : Tlv) : Bool := e.type.toNat == Code.number TerminationTlvType.string

def text? : TerminationTlv → Option String
  | text s => some s
  | reason _ => none

lemma of_ofTlv {e : Tlv} {x : TerminationTlv} (h : ofTlv e = .ok x) :
    x.toTlv = (if isText e then ⟨e.type, Text.Utf8.mend e.value⟩ else e) ∧
      x.text? = if isText e then some (Text.Utf8.decode e.value) else none := by
  simp only [ofTlv, bind_eq_ok, member_eq_ok] at h
  obtain ⟨type, htype, h⟩ := h
  have hnumber : UInt16.ofNat (Code.number type) = e.type := by rw [htype, UInt16.ofNat_toNat]
  cases type with
  | string =>
    obtain rfl := pure_eq_ok.mp h
    have htext : isText e = true := by rw [isText, ← htype, beq_iff_eq]
    rw [htext, toTlv, hnumber]
    exact ⟨rfl, rfl⟩
  | reason =>
    have htext : isText e = false := by rw [isText, ← htype]; decide
    dsimp only at h
    split_ifs at h with hlength
    · simp [bind_eq_ok, throw_ne_ok] at h
    · simp only [bind_eq_ok, pure_eq_ok, member_eq_ok] at h
      obtain ⟨r, hr, rfl⟩ := h
      have hvalue : Octets.ofNat 2 (Octets.value e.value) = e.value := by
        rw [← not_not.mp hlength, Octets.ofNat_value]
      rw [htext, toTlv, hnumber, hr, hvalue]
      exact ⟨rfl, rfl⟩

lemma of_run_readAll {ts : List TerminationTlv} (h : readAll.run bs = (.ok ts, rest)) :
    rest = [] ∧ ∃ entries : List Tlv, (∀ e ∈ entries, e.Fits) ∧
      bs = entries.flatMap Tlv.encode ∧
      ts.map toTlv =
        entries.map (fun e => if isText e then ⟨e.type, Text.Utf8.mend e.value⟩ else e) ∧
      ts.map text? =
        entries.map fun e => if isText e then some (Text.Utf8.decode e.value) else none := by
  obtain ⟨hrest, entries, hfits, hbs, hread⟩ := Tlv.run_typed.mp h
  exact ⟨hrest, entries, hfits, hbs, Tlv.map_eq_of_mapM (fun _ _ hx => (of_ofTlv hx).1) hread,
    Tlv.map_eq_of_mapM (fun _ _ hx => (of_ofTlv hx).2) hread⟩

end TerminationTlv

namespace MirroringTlv

lemma toTlv_of_ofTlv {e : Tlv} {x : MirroringTlv} (h : ofTlv e = .ok x) : x.toTlv = e := by
  simp only [ofTlv, bind_eq_ok, member_eq_ok] at h
  obtain ⟨type, htype, h⟩ := h
  have hnumber : UInt16.ofNat (Code.number type) = e.type := by rw [htype, UInt16.ofNat_toNat]
  cases type with
  | bgpMessage =>
    dsimp only at h
    split at h
    · next m hm =>
      obtain rfl := pure_eq_ok.mp h
      have hvalue := ((Bgp.Message.read_exact _ _ _).mp hm).2
      rw [List.append_nil] at hvalue
      rw [toTlv, hnumber, ← hvalue]
    · exact absurd h throw_ne_ok
    · exact absurd h throw_ne_ok
  | information =>
    dsimp only at h
    split_ifs at h with hlength
    · simp [bind_eq_ok, throw_ne_ok] at h
    · simp only [bind_eq_ok, pure_eq_ok, member_eq_ok] at h
      obtain ⟨i, hi, rfl⟩ := h
      have hvalue : Octets.ofNat 2 (Octets.value e.value) = e.value := by
        rw [← not_not.mp hlength, Octets.ofNat_value]
      rw [toTlv, hnumber, hi, hvalue]

end MirroringTlv

/-! ### Texts of messages -/

namespace Message

def texts : Message → List String
  | initiation ts => ts.map (·.text)
  | termination ts => ts.filterMap TerminationTlv.text?
  | peer _ (.peerUp u) => u.tlvs.map (·.text)
  | peer .. => []

def isText : MessageType → Tlv → Bool
  | .terminationMessage => TerminationTlv.isText
  | _ => fun _ => true

def textValues (t : MessageType) (entries : List Tlv) : List Octets :=
  (entries.filter (isText t)).map (·.value)

/-- The values of the texts in the body of a message, as they came. These are the reads of the
message, up to where the texts would be decoded. -/
def readRawTexts : MessageType → Reader Error (List Octets)
  | .initiationMessage => do
    return textValues .initiationMessage (← Tlv.readAll "initiation")
  | .terminationMessage => do
    return textValues .terminationMessage (← Tlv.readAll "termination")
  | .peerUpNotification => do
    let header ← PeerHeader.read
    let _ ← PeerHeader.readAddress header.isIpv6
    let _ ← Reader.u16
    let _ ← Reader.u16
    let _ ← readExpected .opening
    let _ ← readExpected .opening
    return textValues .peerUpNotification (← Tlv.readAll "peer up")
  | _ => return []

/-- An entry as it is written again. -/
def mended (t : MessageType) (e : Tlv) : Tlv :=
  if isText t e then ⟨e.type, Text.Utf8.mend e.value⟩ else e

/-- The body of which a message was read, and what is written for the message: the same front, and
the same entries with the texts mended. A message that was read is well-formed but for the length
of its texts. -/
structure Rewrites (t : MessageType) (m : Message) (body front : Octets) (entries : List Tlv) :
    Prop where
  read : body = front ++ entries.flatMap Tlv.encode
  fits : ∀ e ∈ entries, e.Fits
  encode : m.encode = front ++ (entries.map (mended t)).flatMap Tlv.encode
  rawTexts : ((readRawTexts t).run body).1 = .ok (textValues t entries)
  texts : m.texts = (textValues t entries).map Text.Utf8.decode
  wellFormed : (∀ s ∈ m.texts, s.utf8ByteSize ≤ 65535) → m.WellFormed

lemma WellFormed.texts_fit {m : Message} (h : m.WellFormed) :
    ∀ s ∈ m.texts, s.utf8ByteSize ≤ 65535 := by
  intro s hs
  cases m with
  | initiation ts =>
    obtain ⟨t, ht, rfl⟩ := List.mem_map.mp hs
    exact h t ht
  | termination ts =>
    obtain ⟨t, ht, htext⟩ := List.mem_filterMap.mp hs
    cases t with
    | text s' =>
      cases htext
      exact h _ ht
    | reason r => simp [TerminationTlv.text?] at htext
  | peer header report =>
    cases report with
    | peerUp u =>
      obtain ⟨t, ht, rfl⟩ := List.mem_map.mp hs
      exact h.2.texts t ht
    | _ => simp [texts] at hs

lemma rewrites_of_exact {t : MessageType} {m : Message} {body : Octets} (hbody : body = m.encode)
    (raw : ((readRawTexts t).run body).1 = .ok []) (none : m.texts = [])
    (wellFormed : m.WellFormed) : Rewrites t m body body [] where
  read := by simp
  fits := by simp
  encode := by simp [hbody]
  rawTexts := raw
  texts := none
  wellFormed _ := wellFormed

/-- A reader of reports without texts, which are written byte for byte. -/
def Lossless (reader : PeerHeader → Reader Error PeerReport) : Prop :=
  ∀ header bs report, (reader header).run bs = (.ok report, []) →
    bs = report.encode ∧ report.WellFormed header.isIpv6 ∧ (peer header report).texts = []

lemma of_run_readPeer {reader : PeerHeader → Reader Error PeerReport} {m : Message}
    (h : (readPeer reader).run bs = (.ok m, rest)) :
    ∃ header report mid, m = peer header report ∧ header.familyAgrees = true ∧
      bs = header.encode ++ mid ∧ (reader header).run mid = (.ok report, rest) := by
  simp only [readPeer, run_bind_ok, run_pure_ok, PeerHeader.read_exact _ _ _] at h
  obtain ⟨header, mid, ⟨hagrees, rfl⟩, report, _, hreport, rfl, rfl⟩ := h
  exact ⟨header, report, mid, rfl, hagrees, rfl, hreport⟩

lemma Lossless.rewrites {reader : PeerHeader → Reader Error PeerReport} (lossless : Lossless reader)
    {t : MessageType} (raw : readRawTexts t = pure []) {m : Message}
    (h : (readPeer reader).run bs = (.ok m, [])) : Rewrites t m bs bs [] := by
  obtain ⟨header, report, mid, rfl, hagrees, rfl, hreport⟩ := of_run_readPeer h
  obtain ⟨rfl, hwell, hnone⟩ := lossless header mid report hreport
  exact rewrites_of_exact rfl (by rw [raw]; rfl) hnone ⟨hagrees, hwell⟩

lemma lossless_routeMonitoring : Lossless fun _ => PeerReport.readRouteMonitoring := by
  intro header bs report h
  obtain ⟨update, rfl⟩ := exists_of_run_wrap h
  rw [PeerReport.readRouteMonitoring, run_wrap_ok fun _ _ => PeerReport.routeMonitoring.inj,
    readExpected_exact _ _ _ _, List.append_nil] at h
  exact ⟨h.2, h.1, rfl⟩

lemma lossless_statistics : Lossless fun _ => PeerReport.readStatistics := by
  intro header bs report h
  obtain ⟨counters, rfl⟩ := exists_of_run_wrap h
  rw [PeerReport.readStatistics, run_wrap_ok fun _ _ => PeerReport.statistics.inj,
    StatCounter.readAll_exact _ _ _, List.append_nil] at h
  exact ⟨h.2, h.1, rfl⟩

lemma lossless_peerDown : Lossless fun _ => PeerReport.readPeerDown := by
  intro header bs report h
  simp only [PeerReport.readPeerDown, run_bind_ok, run_code_ok, run_pure_ok,
    PeerDownDetail.read_exact _ _ _ _] at h
  obtain ⟨reason, _, ⟨-, rfl⟩, detail, _, ⟨hsuits, rfl⟩, rfl, rfl⟩ := h
  exact ⟨by simp [PeerReport.encode], hsuits, rfl⟩

lemma lossless_routeMirroring : Lossless fun _ => PeerReport.readRouteMirroring := by
  intro header bs report h
  obtain ⟨ts, rfl⟩ := exists_of_run_wrap h
  rw [PeerReport.readRouteMirroring, run_wrap_ok fun _ _ => PeerReport.routeMirroring.inj] at h
  obtain ⟨-, entries, hfits, rfl, hread⟩ := Tlv.run_typed.mp h
  have hsame : ts.map MirroringTlv.toTlv = entries.map id :=
    Tlv.map_eq_of_mapM (fun _ _ => MirroringTlv.toTlv_of_ofTlv) hread
  have hwritten : entries.flatMap Tlv.encode = MirroringTlv.encodeAll ts :=
    calc entries.flatMap Tlv.encode = (ts.map MirroringTlv.toTlv).flatMap Tlv.encode := by
          rw [hsame, List.map_id]
      _ = MirroringTlv.encodeAll ts := List.flatMap_map ..
  rw [hwritten] at h
  exact ⟨hwritten, (MirroringTlv.run_readAll.mp h).2, rfl⟩

lemma textValues_of_all {t : MessageType} (all : isText t = fun _ => true) (entries : List Tlv) :
    textValues t entries = entries.map (·.value) := by
  rw [textValues, all, List.filter_true]

lemma map_mended_of_all {t : MessageType} (all : isText t = fun _ => true) (entries : List Tlv) :
    entries.map (mended t) = entries.map fun e => ⟨e.type, Text.Utf8.mend e.value⟩ := by
  simp [mended, all]

lemma run_rawTexts_list {t : MessageType} {kind : String} {entries : List Tlv}
    (fits : ∀ e ∈ entries, e.Fits) :
    (do return textValues t (← Tlv.readAll kind) : Reader Error (List Octets)).run
      (entries.flatMap Tlv.encode) = (.ok (textValues t entries), []) := by
  simp only [run_bind_ok, Tlv.run_readAll, run_pure_ok]
  exact ⟨entries, [], ⟨rfl, fits, rfl⟩, rfl, rfl⟩

lemma run_rawTexts_peerUp {header : PeerHeader} {address : Ip} {localPort remotePort : UInt16}
    {sent received : Bgp.Message} {entries : List Tlv} (agrees : header.familyAgrees = true)
    (family : address.isV6 = header.isIpv6) (hsent : sent.type = .opening ∧ sent.Fits)
    (hreceived : received.type = .opening ∧ received.Fits) (fits : ∀ e ∈ entries, e.Fits) :
    (readRawTexts .peerUpNotification).run (header.encode ++ (address.padded ++
      (Octets.ofUInt16 localPort ++ (Octets.ofUInt16 remotePort ++ (sent.encode ++
        (received.encode ++ entries.flatMap Tlv.encode)))))) =
      (.ok (textValues .peerUpNotification entries), []) := by
  simp only [readRawTexts, run_bind_ok, PeerHeader.read_exact _ _ _, PeerHeader.run_readAddress,
    run_u16_ok, readExpected_exact _ _ _ _]
  exact ⟨header, _, ⟨agrees, rfl⟩, address, _, ⟨family, rfl⟩, localPort, _, rfl, remotePort, _, rfl,
    sent, _, ⟨hsent, rfl⟩, received, _, ⟨hreceived, rfl⟩,
    run_bind_ok.mp (run_rawTexts_list fits)⟩

/-- In front of its texts the beginning of a session is written byte for byte. -/
lemma rewrites_peerUp {m : Message}
    (h : (readPeer fun header => PeerReport.readPeerUp header.isIpv6).run bs = (.ok m, [])) :
    ∃ front entries, Rewrites .peerUpNotification m bs front entries := by
  obtain ⟨header, report, mid, rfl, hagrees, rfl, hreport⟩ := of_run_readPeer h
  obtain ⟨u, rfl⟩ := exists_of_run_wrap hreport
  rw [PeerReport.readPeerUp, run_wrap_ok fun _ _ => PeerReport.peerUp.inj] at hreport
  obtain ⟨hfamily, hsent, hreceived, mid, rfl, htexts⟩ := PeerUp.run_read.mp hreport
  obtain ⟨-, entries, hfits, rfl, hentries, hstrings⟩ := TextTlv.of_run_readAll htexts
  refine ⟨header.encode ++ (u.localAddress.padded ++ (Octets.ofUInt16 u.localPort ++
    (Octets.ofUInt16 u.remotePort ++ (u.sentOpen.encode ++ u.receivedOpen.encode)))), entries, ?_⟩
  constructor
  case read => simp only [List.append_assoc]
  case fits => exact hfits
  case encode =>
    rw [map_mended_of_all rfl, ← hentries, List.flatMap_map]
    simp only [encode, PeerReport.encode, PeerUp.encode_eq, List.append_assoc]
    rfl
  case rawTexts =>
    rw [run_rawTexts_peerUp hagrees hfamily hsent hreceived hfits]
  case texts =>
    rw [textValues_of_all rfl, List.map_map]
    exact hstrings
  case wellFormed =>
    intro hsmall
    refine ⟨hagrees, hfamily, hsent, hreceived, fun t ht => hsmall _ ?_⟩
    exact List.mem_map_of_mem ht

lemma rewrites_initiation {m : Message}
    (h : (read .initiationMessage).run bs = (.ok m, [])) :
    ∃ front entries, Rewrites .initiationMessage m bs front entries := by
  obtain ⟨ts, rfl⟩ := exists_of_run_wrap h
  rw [read, run_wrap_ok fun _ _ => initiation.inj] at h
  obtain ⟨-, entries, hfits, rfl, hentries, hstrings⟩ := TextTlv.of_run_readAll h
  refine ⟨[], entries, ?_⟩
  constructor
  case read => rfl
  case fits => exact hfits
  case encode =>
    rw [map_mended_of_all rfl, ← hentries, List.flatMap_map]
    rfl
  case rawTexts =>
    rw [readRawTexts, run_rawTexts_list hfits]
  case texts =>
    rw [textValues_of_all rfl, List.map_map]
    exact hstrings
  case wellFormed => exact fun hsmall t ht => hsmall _ (List.mem_map_of_mem ht)

lemma rewrites_termination {m : Message}
    (h : (read .terminationMessage).run bs = (.ok m, [])) :
    ∃ front entries, Rewrites .terminationMessage m bs front entries := by
  obtain ⟨ts, rfl⟩ := exists_of_run_wrap h
  rw [read, run_wrap_ok fun _ _ => termination.inj] at h
  obtain ⟨-, entries, hfits, rfl, hentries, hstrings⟩ := TerminationTlv.of_run_readAll h
  refine ⟨[], entries, ?_⟩
  constructor
  case read => rfl
  case fits => exact hfits
  case encode =>
    have hmended : entries.map (mended .terminationMessage) = ts.map TerminationTlv.toTlv :=
      hentries.symm
    rw [hmended, List.flatMap_map]
    rfl
  case rawTexts =>
    rw [readRawTexts, run_rawTexts_list hfits]
  case texts =>
    have htexts : ts.filterMap TerminationTlv.text? =
        (ts.map TerminationTlv.text?).filterMap id := by
      rw [List.filterMap_map]
      rfl
    rw [texts, htexts, hstrings, List.filterMap_map, textValues, List.map_map,
      ← List.filterMap_eq_map, List.filterMap_filter]
    rfl
  case wellFormed =>
    intro hsmall t ht
    cases t with
    | text s => exact hsmall s (List.mem_filterMap.mpr ⟨_, ht, rfl⟩)
    | reason r => trivial

/-- **What is written for a message that was read** is what was read, with the texts mended. -/
lemma rewrites_of_run {t : MessageType} {m : Message} (h : (read t).run bs = (.ok m, [])) :
    ∃ front entries, Rewrites t m bs front entries := by
  cases t with
  | initiationMessage => exact rewrites_initiation h
  | terminationMessage => exact rewrites_termination h
  | routeMonitoring => exact ⟨bs, [], lossless_routeMonitoring.rewrites rfl h⟩
  | statisticsReport => exact ⟨bs, [], lossless_statistics.rewrites rfl h⟩
  | peerDownNotification => exact ⟨bs, [], lossless_peerDown.rewrites rfl h⟩
  | peerUpNotification => exact rewrites_peerUp h
  | routeMirroringMessage => exact ⟨bs, [], lossless_routeMirroring.rewrites rfl h⟩

variable {t : MessageType} {m : Message} {body front : Octets} {entries : List Tlv}

lemma mended_eq_self_iff {e : Tlv} :
    mended t e = e ↔ (isText t e → e.value.toByteArray.IsValidUTF8) := by
  obtain ⟨type, value⟩ := e
  rw [← Text.Utf8.mend_eq_self_iff, mended]
  split_ifs with htext <;> simp [htext]

lemma map_mended_eq_self_iff :
    entries.map (mended t) = entries ↔
      ∀ v ∈ textValues t entries, v.toByteArray.IsValidUTF8 := by
  have hself : entries.map (mended t) = entries ↔ ∀ e ∈ entries, mended t e = e := by
    simpa using List.map_inj_left (f := mended t) (g := id) (l := entries)
  simp only [hself, mended_eq_self_iff, textValues, List.mem_map, List.mem_filter]
  refine ⟨?_, fun h e he htext => h _ ⟨e, ⟨he, htext⟩, rfl⟩⟩
  rintro h _ ⟨e, ⟨he, htext⟩, rfl⟩
  exact h e he htext

lemma mended_eq_self_of_take {e : Tlv}
    (same : e.value = (mended t e).value.take ((mended t e).value.length % 65536)) :
    mended t e = e := by
  unfold mended at same ⊢
  split_ifs at same ⊢
  · rw [Text.Utf8.mend_eq_self_of_take same]
  · rfl

namespace Rewrites

/-- When what was read is the beginning of what is written, it is all of it: no text was mended,
and the message is well-formed. -/
lemma of_encode_eq_append (h : Rewrites t m body front entries) {suffix : Octets}
    (heq : m.encode = body ++ suffix) :
    suffix = [] ∧ (∀ v ∈ textValues t entries, v.toByteArray.IsValidUTF8) ∧ m.WellFormed := by
  rw [h.encode, h.read, List.append_assoc, List.append_cancel_left_eq] at heq
  obtain ⟨hsame, hsuffix⟩ :=
    Tlv.map_eq_self_of_encode (fun _ => mended_eq_self_of_take) h.fits heq
  have hvalid := map_mended_eq_self_iff.mp hsame
  refine ⟨hsuffix, hvalid, h.wellFormed fun s hs => ?_⟩
  rw [h.texts] at hs
  obtain ⟨v, hv, rfl⟩ := List.mem_map.mp hs
  obtain ⟨e, he, rfl⟩ := List.mem_map.mp hv
  rw [← Text.Utf8.length_mend, Text.Utf8.mend_eq_self_iff.mpr (hvalid _ hv)]
  exact h.fits e (List.mem_filter.mp he).1

/-- A message is written as it was read exactly when its texts were UTF-8. -/
lemma encode_eq_body_iff (h : Rewrites t m body front entries) :
    m.encode = body ↔ ∀ v ∈ textValues t entries, v.toByteArray.IsValidUTF8 := by
  refine ⟨fun heq => (h.of_encode_eq_append (by rw [heq, List.append_nil])).2.1, fun hvalid => ?_⟩
  rw [h.encode, h.read, map_mended_eq_self_iff.mpr hvalid]

lemma wellFormed_iff (h : Rewrites t m body front entries) :
    m.WellFormed ↔ ∀ s ∈ m.texts, s.utf8ByteSize ≤ 65535 :=
  ⟨WellFormed.texts_fit, h.wellFormed⟩

end Rewrites

end Message

end Telemetry.Bmp
