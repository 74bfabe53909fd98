import Telemetry.Sflow.Decoding
import Telemetry.Proofs.Wire.Reading

/-!
Parts of a datagram.

Samples are parts of a datagram and records are parts of a sample, and both say their format and
their length before what they hold. Writing reduces the two to their fields. What is read of parts
in a row is what was written only where nothing was reduced: a length that was would cut the body
short, and a body that is cut short is never read as the whole one.
-/

namespace Telemetry.Sflow

open Wire Reader

variable {α : Type}

namespace DataFormat

/-- A format has twenty bits for the enterprise and twelve for its own. -/
structure Fits (f : DataFormat) : Prop where
  enterprise : f.enterprise.toNat < 2 ^ 20
  format : f.format.toNat < 2 ^ 12

lemma fits_ofWord (w : UInt32) : (ofWord w).Fits := by
  have hw := w.toNat_lt
  exact ⟨by rw [ofWord, UInt32.toNat_ofNat']; omega, by rw [ofWord, UInt32.toNat_ofNat']; omega⟩

lemma ofWord_toWord {f : DataFormat} (h : f.Fits) : ofWord f.toWord = f := by
  obtain ⟨enterprise, format⟩ := f
  obtain ⟨henterprise, hformat⟩ := h
  dsimp only at henterprise hformat
  have hword : (toWord ⟨enterprise, format⟩).toNat = enterprise.toNat * 4096 + format.toNat := by
    rw [toWord, UInt32.toNat_ofNat']
    dsimp only
    omega
  have hdiv : (enterprise.toNat * 4096 + format.toNat) / 4096 = enterprise.toNat := by omega
  have hmod : (enterprise.toNat * 4096 + format.toNat) % 4096 = format.toNat := by omega
  simp [ofWord, hword, hdiv, hmod]

lemma run_read_ok {bs rest : Octets} {f : DataFormat} :
    DataFormat.read.run bs = (.ok f, rest) ↔
      ∃ w, .ofWord w = f ∧ bs = Octets.ofUInt32 w ++ rest := by
  simp only [DataFormat.read, run_bind_ok, run_u32_ok, run_pure_ok]
  refine ⟨?_, ?_⟩
  · rintro ⟨w, _, rfl, rfl, rfl⟩
    exact ⟨w, rfl, rfl⟩
  · rintro ⟨w, rfl, rfl⟩
    exact ⟨w, rest, rfl, rfl, rfl⟩

lemma run_read (w : UInt32) (rest : Octets) :
    DataFormat.read.run (Octets.ofUInt32 w ++ rest) = (.ok (.ofWord w), rest) :=
  run_read_ok.mpr ⟨w, rfl, rfl⟩

end DataFormat

/-- A part as bytes: a format, and a body whose length the part can say. -/
structure Part where
  format : UInt32
  body : Octets
  fits : body.length < 2 ^ 32
deriving DecidableEq

namespace Part

def encode (p : Part) : Octets :=
  Octets.ofUInt32 p.format ++ Octets.ofNat 4 p.body.length ++ p.body

lemma encode_ne_nil (p : Part) : p.encode ≠ [] := by
  intro h
  have := congrArg List.length h
  simp [encode, Octets.ofUInt32] at this

lemma toNat_length (p : Part) : (UInt32.ofNat p.body.length).toNat = p.body.length :=
  UInt32.toNat_ofNat_of_lt' p.fits

lemma encode_append (p : Part) (rest : Octets) :
    p.encode ++ rest = Octets.ofUInt32 p.format ++
      (Octets.ofUInt32 (UInt32.ofNat p.body.length) ++ (p.body ++ rest)) := by
  simp only [encode, Octets.ofUInt32, p.toNat_length, List.append_assoc]

/-- The part has this meaning to a reader; what the reader leaves of the body is ignored. -/
def Means (read : DataFormat → Reader Error α) (p : Part) (a : α) : Prop :=
  ∃ left, (read (.ofWord p.format)).run p.body = (.ok a, left)

end Part

/-- What a part can carry: a format that has the bits, and a body that has the length. -/
structure Carries (format : DataFormat) (body : Octets) : Prop where
  format : format.Fits
  body : body.length < 2 ^ 32

/-- The part that is written where nothing is reduced. -/
def Carries.part {format : DataFormat} {body : Octets} (h : Carries format body) : Part :=
  ⟨format.toWord, body, h.body⟩

/-- Where bytes begin with a part and with a written body, the part has the written format and the
reduced length, and begins as the body does. -/
lemma Part.of_encode_append {p : Part} {format : DataFormat} {body rest behind : Octets}
    (h : p.encode ++ rest = encodePart format body ++ behind) :
    p.format = format.toWord ∧ p.body.length = body.length % 2 ^ 32 ∧
      p.body ++ rest = body ++ behind := by
  simp only [Part.encode, encodePart, List.append_assoc] at h
  obtain ⟨hformat, h⟩ := List.append_inj h (by simp [Octets.ofUInt32])
  obtain ⟨hlength, h⟩ := List.append_inj h (by simp)
  refine ⟨?_, ?_, h⟩
  · rw [← UInt32.toNat_inj, ← Octets.value_ofUInt32, hformat, Octets.value_ofUInt32]
  · have hvalue := congrArg Octets.value hlength
    rwa [Octets.value_ofNat_of_lt p.fits, Octets.value_ofNat] at hvalue

/-- Reading a body gives back what was written where that is valid, and never takes the front of a
written body, cut where a reduced length cuts it, for the whole. -/
structure Undoes (read : DataFormat → Reader Error α) (format : α → DataFormat) (body : α → Octets)
    (valid : α → Prop) : Prop where
  reads : ∀ a, valid a → (body a).length < 2 ^ 32 →
    ∃ left, (read (format a)).run (body a) = (.ok a, left)
  only : ∀ a f front left tail, (read f).run front = (.ok a, left) → body a = front ++ tail →
    front.length = (body a).length % 2 ^ 32 → f = format a ∧ valid a ∧ tail = []

namespace Undoes

variable {read : DataFormat → Reader Error α} {format : α → DataFormat} {body : α → Octets}
  {valid : α → Prop}

lemma of_part (undoes : Undoes read format body valid) {p : Part} {a : α} {rest behind : Octets}
    (hmeans : p.Means read a) (h : p.encode ++ rest = encodePart (format a) (body a) ++ behind) :
    Carries (format a) (body a) ∧ valid a ∧ rest = behind := by
  obtain ⟨left, hrun⟩ := hmeans
  obtain ⟨hformat, hlength, hbody⟩ := Part.of_encode_append h
  have hle : p.body.length ≤ (body a).length := hlength ▸ Nat.mod_le _ _
  obtain ⟨tail, htail⟩ := List.prefix_of_prefix_length_le ⟨rest, rfl⟩ ⟨behind, hbody.symm⟩ hle
  obtain ⟨hf, hvalid, rfl⟩ := undoes.only a _ _ _ tail hrun htail.symm hlength
  rw [List.append_nil] at htail
  rw [← htail] at hbody
  exact ⟨⟨hf ▸ DataFormat.fits_ofWord _, htail ▸ p.fits⟩, hvalid, List.append_cancel_left hbody⟩

lemma of_parts (undoes : Undoes read format body valid) {ps : List Part} {as : List α}
    {rest behind : Octets} (hmeans : List.Forall₂ (Part.Means read) ps as)
    (h : ps.flatMap Part.encode ++ rest =
      (as.flatMap fun a => encodePart (format a) (body a)) ++ behind) :
    (∀ a ∈ as, Carries (format a) (body a) ∧ valid a) ∧ rest = behind := by
  induction hmeans with
  | nil => exact ⟨by simp, h⟩
  | cons hhead _ ih =>
    simp only [List.flatMap_cons, List.append_assoc] at h
    obtain ⟨hcarries, hvalid, h⟩ := undoes.of_part hhead h
    obtain ⟨hall, hrest⟩ := ih h
    exact ⟨List.forall_mem_cons.mpr ⟨⟨hcarries, hvalid⟩, hall⟩, hrest⟩

/-- What can be carried and is valid is written as parts that are read as it. -/
lemma exists_parts (undoes : Undoes read format body valid) {as : List α}
    (h : ∀ a ∈ as, Carries (format a) (body a) ∧ valid a) :
    ∃ ps, List.Forall₂ (Part.Means read) ps as ∧
      ps.flatMap Part.encode = as.flatMap fun a => encodePart (format a) (body a) := by
  induction as with
  | nil => exact ⟨[], .nil, rfl⟩
  | cons a as ih =>
    obtain ⟨⟨hcarries, hvalid⟩, hall⟩ := List.forall_mem_cons.mp h
    obtain ⟨ps, hmeans, hps⟩ := ih hall
    obtain ⟨left, hrun⟩ := undoes.reads a hvalid hcarries.body
    refine ⟨hcarries.part :: ps, .cons ⟨left, ?_⟩ hmeans, ?_⟩
    · rwa [Carries.part, DataFormat.ofWord_toWord hcarries.format]
    · rw [List.flatMap_cons, List.flatMap_cons, hps]
      rfl

end Undoes

end Telemetry.Sflow
