import Telemetry.Bgp.Message
import Telemetry.Proofs.Wire.Pieces

/-!
Which BGP messages are read, and from which bytes: those that fit, from their written form.

A message that is too long is written all the same, with its length reduced to the sixteen bits of
the length field. So what a reader sees of it is a shorter message and bytes behind it, or no
message, if no message is as long as the field says.
-/

namespace Telemetry.Bgp.Message

open Wire Reader

variable {ε : Type} [HasFault ε] {bs rest : Octets}

/-- The body leaves room for the header. -/
def Fits (m : Message) : Prop := m.body.length ≤ maxLength - headerLength

lemma length_encode (m : Message) : m.encode.length = headerLength + m.body.length := by
  simp [encode, marker, headerLength]
  omega

lemma read_exact : Exact (read : Reader ε Message) Fits encode := by
  intro bs m rest
  simp only [read, run_bind_ok, run_take_ok]
  refine ⟨?_, ?_⟩
  · rintro ⟨front, _, ⟨hfront, rfl⟩, h⟩
    split_ifs at h with hmarker
    · simp at h
    · simp only [run_bind_ok, run_u16_ok] at h
      obtain ⟨length, _, rfl, h⟩ := h
      split_ifs at h with hlength
      · simp at h
      · simp only [run_bind_ok, run_code_ok, run_slice_ok, run_pure_ok] at h
        obtain ⟨type, _, ⟨-, rfl⟩, body, _, ⟨hbody, rfl⟩, rfl, rfl⟩ := h
        have hfront : front = marker := by simpa using hmarker
        have hwire : length.toNat = headerLength + body.length := by omega
        refine ⟨by simp only [Fits]; omega, ?_⟩
        simp [encode, wireLength, hfront, Octets.ofUInt16, hwire]
        rfl
  · rintro ⟨hfits, rfl⟩
    have hroom : m.body.length ≤ 4077 := hfits
    have hlength : (UInt16.ofNat m.wireLength).toNat = headerLength + m.body.length :=
      UInt16.toNat_ofNat_of_lt' (show 19 + m.body.length < 65536 by omega)
    have hwritten : m.encode ++ rest = marker ++ (Octets.ofUInt16 (UInt16.ofNat m.wireLength) ++
        (Octets.ofNat 1 (Code.number m.type) ++ (m.body ++ rest))) := by
      simp only [encode, Octets.ofUInt16, hlength, List.append_assoc]
      rfl
    refine ⟨marker, _, ⟨rfl, hwritten⟩, ?_⟩
    simp only [bne_self_eq_false, Bool.false_eq_true, if_false, run_bind_ok, run_u16_ok]
    refine ⟨_, _, rfl, ?_⟩
    rw [hlength, if_neg (by simp only [headerLength, maxLength]; omega)]
    simp only [run_bind_ok, run_code_ok, run_slice_ok, run_pure_ok]
    exact ⟨_, _, ⟨Code.number_lt (by decide) m.type, rfl⟩, _, _, ⟨by omega, rfl⟩, rfl, rfl⟩

lemma fits_iff {m : Message} : m.Fits ↔ m.wireLength ≤ maxLength := by
  unfold Fits wireLength maxLength headerLength
  omega

/-! ### Messages that are too long -/

/-- What the length field of the written form says. -/
def fieldLength (m : Message) : Nat := m.wireLength % 65536

/-- The message that a reader sees who takes the length field at its word. -/
def seen (m : Message) : Message := ⟨m.type, m.body.take (m.fieldLength - headerLength)⟩

def unseen (m : Message) : Octets := m.body.drop (m.fieldLength - headerLength)

lemma ofNat_fieldLength (m : Message) :
    Octets.ofNat 2 m.fieldLength = Octets.ofNat 2 m.wireLength :=
  Octets.ofNat_mod 2 m.wireLength

lemma wireLength_seen {m : Message} (h : headerLength ≤ m.fieldLength) :
    m.seen.wireLength = m.fieldLength := by
  have hle : m.fieldLength ≤ m.wireLength := Nat.mod_le ..
  unfold wireLength at hle ⊢
  rw [seen, List.length_take]
  omega

/-- The written form is that of the message that is seen, and the rest of the body. -/
lemma encode_eq_seen {m : Message} (h : headerLength ≤ m.fieldLength) :
    m.encode = m.seen.encode ++ m.unseen := by
  have hfield : Octets.ofNat 2 m.wireLength = Octets.ofNat 2 m.seen.wireLength := by
    rw [wireLength_seen h, ofNat_fieldLength]
  have hbody : m.body = m.seen.body ++ m.unseen := (List.take_append_drop _ m.body).symm
  calc m.encode
      = marker ++ Octets.ofNat 2 m.wireLength ++ Octets.ofNat 1 m.type.number ++ m.body := rfl
    _ = marker ++ Octets.ofNat 2 m.seen.wireLength ++ Octets.ofNat 1 m.type.number ++
          (m.seen.body ++ m.unseen) := by rw [hfield, ← hbody]
    _ = m.seen.encode ++ m.unseen := by
          simp only [encode, List.append_assoc]
          rfl

/-- Where the length field holds a possible length, that many bytes are read. -/
lemma run_encode_possible {m : Message}
    (h : headerLength ≤ m.fieldLength ∧ m.fieldLength ≤ maxLength) :
    (read : Reader ε Message).run (m.encode ++ rest) = (.ok m.seen, m.unseen ++ rest) := by
  have hfits : m.seen.Fits := by
    rw [fits_iff, wireLength_seen h.1]
    exact h.2
  rw [encode_eq_seen h.1, List.append_assoc]
  exact (read_exact _ _ _).mpr ⟨hfits, rfl⟩

/-- Where it holds none, the message is refused for that, and nothing behind it is looked at. -/
lemma run_encode_impossible {m : Message}
    (h : ¬ (headerLength ≤ m.fieldLength ∧ m.fieldLength ≤ maxLength)) :
    (read : Reader ε Message).run (m.encode ++ rest) =
      (.error (HasFault.ofFault (.badMessageLength m.fieldLength)),
        Octets.ofNat 1 m.type.number ++ (m.body ++ rest)) := by
  have hlength : (UInt16.ofNat m.fieldLength).toNat = m.fieldLength :=
    UInt16.toNat_ofNat_of_lt' (Nat.mod_lt _ (by decide))
  have hwritten : m.encode ++ rest = marker ++ (Octets.ofUInt16 (UInt16.ofNat m.fieldLength) ++
      (Octets.ofNat 1 m.type.number ++ (m.body ++ rest))) := by
    rw [Octets.ofUInt16, hlength, ofNat_fieldLength]
    simp only [encode, List.append_assoc]
  have hmarker : (take 16 : Reader ε Octets).run (m.encode ++ rest) = (.ok marker, _) :=
    run_take_ok.mpr ⟨rfl, hwritten⟩
  have hbad : m.fieldLength < headerLength ∨ maxLength < m.fieldLength := by omega
  unfold read
  rw [run_bind_of_ok hmarker, if_neg (by simp), run_bind_u16]
  dsimp only
  rw [hlength, if_pos hbad]
  rfl

lemma run_encode_fst (m : Message) (rest : Octets) :
    ((read : Reader ε Message).run (m.encode ++ rest)).1 =
      if headerLength ≤ m.fieldLength ∧ m.fieldLength ≤ maxLength then .ok m.seen
      else .error (HasFault.ofFault (.badMessageLength m.fieldLength)) := by
  split_ifs with h
  · rw [run_encode_possible h]
  · rw [run_encode_impossible h]

/-- **Messages are framed exactly, in both directions.** A message is read from the front of bytes
exactly when these begin with its written form and it is at most 4096 bytes long. One with a body of
more than 4077 bytes is never read from its written form, whatever follows that: its length field
holds the length reduced to sixteen bits, and either this is a possible length, and a shorter
message is seen, or the message is refused for it. -/
theorem read_framed :
    (∀ (d : Octets) (q : Message) (s : Octets),
      (read : Reader ε Message).run d = (.ok q, s) ↔ d = q.encode ++ s ∧ q.wireLength ≤ 4096) ∧
    ∀ (q : Message) (s : Octets), 4077 < q.body.length →
      (∀ left, (read : Reader ε Message).run (q.encode ++ s) ≠ (.ok q, left)) ∧
      ((read : Reader ε Message).run (q.encode ++ s)).1 =
        if 19 ≤ q.fieldLength ∧ q.fieldLength ≤ 4096 then .ok q.seen
        else .error (HasFault.ofFault (.badMessageLength q.fieldLength)) := by
  have hexact : ∀ (d : Octets) (q : Message) (s : Octets), (read : Reader ε Message).run d =
      (.ok q, s) ↔ d = q.encode ++ s ∧ q.wireLength ≤ maxLength := by
    intro d q s
    rw [read_exact, fits_iff, and_comm]
  refine ⟨hexact, fun q s hbody => ⟨fun left h => ?_, run_encode_fst q s⟩⟩
  have hwithin : q.wireLength ≤ maxLength := ((hexact _ q left).mp h).2
  unfold wireLength headerLength maxLength at hwithin
  omega

/-- With a body of 65536 bytes the length field says 19 again: an empty message is seen, and the
body is left for whoever reads on. An update of 23 bytes is read as it was written. -/
theorem read_framed_wrapped :
    let long : Message := ⟨.update, List.replicate 65536 0⟩
    let short : Message := ⟨.update, [0, 0, 0, 0]⟩
    4077 < long.body.length ∧ long.fieldLength = 19 ∧
      ((read : Reader Fault Message).run (long.encode ++ [7])).1 = .ok ⟨.update, []⟩ ∧
      (∀ left, (read : Reader Fault Message).run (long.encode ++ [7]) ≠ (.ok long, left)) ∧
      (read : Reader Fault Message).run (short.encode ++ [7]) = (.ok short, [7]) := by
  intro long short
  have hbody : long.body.length = 65536 := List.length_replicate
  have hfield : long.fieldLength = 19 := by rw [fieldLength, wireLength, hbody]; rfl
  have hseen : long.seen = ⟨.update, []⟩ := by rw [seen, hfield]; rfl
  obtain ⟨hexact, hlong⟩ := @read_framed Fault _
  obtain ⟨hnever, hanswer⟩ := hlong long [7] (by omega)
  rw [hfield, if_pos (by decide), hseen] at hanswer
  exact ⟨by omega, hfield, hanswer, hnever, (hexact _ short [7]).mpr ⟨rfl, by decide⟩⟩

end Telemetry.Bgp.Message
