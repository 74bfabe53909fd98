import Telemetry.Proofs.Bmp.Rewriting

/-!
Writing a packet that was read, and reading it once more.

Reading consumes exactly the declared length. The packet is written as those bytes when every text
in them is UTF-8, and only then; otherwise the texts come back mended, and longer than they were. A
mended text is read as the text that it was written for, so the packet is read again with the same
message, unless a text or the whole no longer fits its length field.
-/

namespace Telemetry.Bmp.Packet

open Wire Reader

variable {d rest : Octets} {p q : Packet}

/-- What is read again from a packet has taken its whole message, so the message is well-formed and
its length was not reduced. -/
lemma message_of_reread (h : read.run p.encode = (.ok q, [])) (same : q.message = p.message) :
    p.message.WellFormed ∧ commonHeaderLength + p.message.encode.length < 2 ^ 32 := by
  obtain ⟨hcounts, body, hbytes, hlength, hmessage⟩ := run_read_ok.mp h
  rw [List.append_nil] at hbytes
  obtain rfl := (List.append_inj hbytes (by simp only [CommonHeader.length_encode])).2
  rw [same] at hmessage
  rw [← Message.type_of_run hmessage] at hmessage
  have := q.length.toNat_lt
  exact ⟨(Message.run_read_self.mp hmessage).2, by omega⟩

lemma reread_of_wellFormed (type : p.type = p.message.type) (wellFormed : p.message.WellFormed)
    (fits : commonHeaderLength + p.message.encode.length < 2 ^ 32) :
    read.run p.encode =
      (.ok { p with length := UInt32.ofNat (commonHeaderLength + p.message.encode.length) },
        []) := by
  have hlength := UInt32.toNat_ofNat_of_lt' fits
  refine run_read_ok.mpr ⟨by dsimp only; omega, p.message.encode, ?_, by dsimp only; omega, ?_⟩
  · rw [encode, List.append_nil]
  · rw [type]
    exact Message.run_read_self.mpr ⟨rfl, wellFormed⟩

/-- A packet that is read back in front of its own bytes is read back from all of them. -/
lemma wellFormed_of_read_encode (h : (read.run p.encode).1 = .ok p) : p.WellFormed := by
  obtain ⟨hcounts, body, hbytes, hlength, hmessage⟩ :=
    run_read_ok.mp (Prod.ext h rfl : read.run p.encode = (.ok p, (read.run p.encode).2))
  obtain ⟨front, entries, hrewrites⟩ := Message.rewrites_of_run hmessage
  have hbody := (List.append_inj hbytes (by simp only [CommonHeader.length_encode])).2
  obtain ⟨hnil, -, hwell⟩ := hrewrites.of_encode_eq_append hbody
  rw [hnil, List.append_nil] at hbody
  have hsum : p.length.toNat = commonHeaderLength + p.message.encode.length := by
    rw [hbody]
    omega
  exact ⟨(Message.type_of_run hmessage).symm, hsum, hsum ▸ p.length.toNat_lt, hwell⟩

/-- **Writing undoes reading on UTF-8.** The bytes that a packet was read from are as many as the
packet says, and the packet is written as these bytes if and only if the value of every text in
them is UTF-8. -/
theorem encode_eq_consumed_iff (h : read.run d = (.ok p, rest)) :
    let consumed := d.take p.length.toNat
    d = consumed ++ rest ∧ consumed.length = p.length.toNat ∧
      ∃ values,
        ((Message.readRawTexts p.type).run (consumed.drop commonHeaderLength)).1 = .ok values ∧
        (p.encode = consumed ↔ ∀ v ∈ values, v.toByteArray.IsValidUTF8) := by
  obtain ⟨hcounts, body, rfl, hlength, hmessage⟩ := run_read_ok.mp h
  obtain ⟨front, entries, hrewrites⟩ := Message.rewrites_of_run hmessage
  have hheader : ∀ n, (CommonHeader.encode ⟨p.version, n, p.type⟩).length = commonHeaderLength :=
    fun n => CommonHeader.length_encode _
  have hsum : p.length.toNat = commonHeaderLength + body.length := by omega
  intro consumed
  have hconsumed : consumed = CommonHeader.encode ⟨p.version, p.length, p.type⟩ ++ body := by
    show List.take _ _ = _
    rw [← List.append_assoc, List.take_left' (by rw [List.length_append, hheader, hsum])]
  rw [hconsumed]
  refine ⟨(List.append_assoc ..).symm, by rw [List.length_append, hheader, hsum],
    Message.textValues p.type entries, ?_, ?_⟩
  · rw [List.drop_left' (hheader _)]
    exact hrewrites.rawTexts
  · rw [← hrewrites.encode_eq_body_iff, encode]
    refine ⟨fun heq => (List.append_inj heq (by rw [hheader, hheader])).2, fun heq => ?_⟩
    rw [heq, ← hsum, UInt32.ofNat_toNat]

/-- A name in UTF-8, and behind the message the beginning of the next. -/
theorem encode_eq_consumed_utf8 :
    let d : Octets := [3, 0, 0, 0, 12, 4, 0, 2, 0, 2, 0xc3, 0xa9, 3, 0]
    let p : Packet := ⟨.bmp3, 12, .initiationMessage, .initiation [⟨.sysName, "é"⟩]⟩
    read.run d = (.ok p, [3, 0]) ∧ p.encode = d.take 12 := by
  intro d p
  have h : read.run d = (.ok p, [3, 0]) := by decide
  obtain ⟨-, -, values, hvalues, hiff⟩ := encode_eq_consumed_iff h
  have hread : ((Message.readRawTexts p.type).run ((d.take 12).drop commonHeaderLength)).1 =
      .ok [[0xc3, 0xa9]] := by decide
  obtain rfl : [[0xc3, 0xa9]] = values := Except.ok.inj (hread.symm.trans hvalues)
  refine ⟨h, hiff.mpr fun v hv => ?_⟩
  obtain rfl := List.mem_singleton.mp hv
  exact ⟨['é'], by decide⟩

/-- **When a packet that was read is read again.** Its written form gives a packet with the same
message, and leaves nothing, if and only if every text of the message fits a length field of two
bytes and the whole one of four. -/
theorem reread_iff (h : read.run d = (.ok p, rest)) :
    (∃ q, read.run p.encode = (.ok q, []) ∧ q.message = p.message) ↔
      (∀ s ∈ p.message.texts, s.utf8ByteSize ≤ 65535) ∧
        commonHeaderLength + p.message.encode.length < 2 ^ 32 := by
  obtain ⟨-, body, -, -, hmessage⟩ := run_read_ok.mp h
  obtain ⟨front, entries, hrewrites⟩ := Message.rewrites_of_run hmessage
  rw [← hrewrites.wellFormed_iff]
  refine ⟨?_, ?_⟩
  · rintro ⟨q, hq, same⟩
    exact message_of_reread hq same
  · rintro ⟨hwell, hfits⟩
    exact ⟨_, reread_of_wellFormed (Message.type_of_run hmessage).symm hwell hfits, rfl⟩

/-- A name of one byte that begins no character is written in three bytes, and read again. -/
theorem reread_mended :
    let d : Octets := [3, 0, 0, 0, 11, 4, 0, 2, 0, 1, 0xff]
    let p : Packet := ⟨.bmp3, 11, .initiationMessage, .initiation [⟨.sysName, "\ufffd"⟩]⟩
    read.run d = (.ok p, []) ∧ p.encode.length = 13 ∧
      ∃ q, read.run p.encode = (.ok q, []) ∧ q.message = p.message := by
  intro d p
  have h : read.run d = (.ok p, []) := by decide
  exact ⟨h, by decide, (reread_iff h).mpr ⟨by decide, by decide⟩⟩

/-- **A packet that is not read again.** Of a text of 21846 bytes that begin no character three
times as many are written, more than two bytes can count. -/
theorem reread_fails_long :
    let d : Octets := [3, 0, 0, 0x55, 0x60, 4, 0, 0, 0x55, 0x56] ++ List.replicate 21846 0xff
    ∃ p, read.run d = (.ok p, []) ∧
      ¬ ∃ q, read.run p.encode = (.ok q, []) ∧ q.message = p.message := by
  intro d
  let text := Text.Utf8.decode (List.replicate 21846 0xff)
  let entry : Tlv := ⟨0, List.replicate 21846 0xff⟩
  have hentry : entry.encode = [0, 0, 0x55, 0x56] ++ List.replicate 21846 0xff := by
    have hfront : Octets.ofUInt16 0 ++ Octets.ofNat 2 21846 = [0, 0, 0x55, 0x56] := by decide
    rw [Tlv.encode, List.length_replicate, hfront]
  refine ⟨⟨.bmp3, 21856, .initiationMessage, .initiation [⟨.string, text⟩]⟩, ?_, ?_⟩
  · have htext : TextTlv.ofTlv entry = .ok (⟨.string, text⟩ : InitiationTlv) :=
      TextTlv.ofTlv_eq_ok.mpr ⟨rfl, rfl⟩
    have hmessage : (Message.read .initiationMessage).run entry.encode =
        (.ok (.initiation [⟨.string, text⟩]), []) := by
      refine (run_wrap_ok fun _ _ => Message.initiation.inj).mpr (Tlv.run_typed.mpr
        ⟨rfl, [entry], ?_, by simp, Tlv.mapM_cons_ok.mpr ⟨_, [], htext, rfl, rfl⟩⟩)
      intro e he
      rw [List.mem_singleton.mp he, Tlv.Fits, List.length_replicate]
      omega
    refine run_read_ok.mpr ⟨by decide, entry.encode, ?_, ?_, hmessage⟩
    · have hheader : CommonHeader.encode ⟨.bmp3, 21856, .initiationMessage⟩ =
          [3, 0, 0, 0x55, 0x60, 4] := by decide
      rw [hheader, hentry, List.append_nil]
      rfl
    · rw [hentry, List.length_append, List.length_replicate]
      rfl
  · rintro ⟨q, hq, same⟩
    have hsmall : text.utf8ByteSize ≤ 65535 :=
      (message_of_reread hq same).1.texts_fit text (by simp [Message.texts])
    rw [← Text.Utf8.length_mend, Text.Utf8.length_mend_replicate fun _ => rfl] at hsmall
    omega

end Telemetry.Bmp.Packet
