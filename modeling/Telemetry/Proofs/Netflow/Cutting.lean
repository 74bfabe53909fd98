import Telemetry.Proofs.Netflow.Usability

/-!
How far a packet is cut into flowsets.

Any bytes are flowsets that can be read and then nothing, or bytes that do not begin with such a
flowset. The first pass takes the flowsets and stops there. What is wrong with the first flowset of
the rest is what is wrong with the packet, whatever stands behind that one.
-/

namespace Telemetry.Netflow

open Wire Reader

variable {bs rest tail left : Octets} {sets : List WireSet} {raws : List RawSet} {e : Error}

lemma WireSet.of_read {r : RawSet} (h : RawSet.read.run bs = (.ok r, rest)) :
    ∃ s : WireSet, bs = s.encode ++ rest ∧ s.content = .ok r := by
  simp only [RawSet.read, run_bind_ok, run_u16_ok] at h
  obtain ⟨id, _, rfl, length, _, rfl, h⟩ := h
  split_ifs at h with hshort
  · simp at h
  · simp only [run_bind_ok, run_slice_ok, run_pure_ok] at h
    obtain ⟨body, _, ⟨hbody, rfl⟩, ⟨set, behind⟩, _, hinside, rfl, rfl⟩ := h
    obtain ⟨hset, rfl⟩ := run_inside_ok.mp hinside
    have hlength : RawSet.headLength + body.length = length.toNat := by omega
    have hfits := length.toNat_lt
    refine ⟨⟨id, body, by omega⟩, ?_, ?_⟩
    · simp only [WireSet.encode, hlength, Octets.ofUInt16, List.append_assoc]
    · rw [WireSet.content, hset]

lemma WireSet.accepts :
    Accepts RawSet.read (fun s r => WireSet.content s = .ok r) WireSet.encode := by
  intro bs r rest
  refine ⟨?_, ?_⟩
  · intro h
    obtain ⟨s, rfl, hs⟩ := WireSet.of_read h
    exact ⟨s, hs, rfl⟩
  · rintro ⟨s, hs, rfl⟩
    rw [WireSet.read_encode, hs]

namespace RawSet

/-- The bytes are not at their end, and their first flowset cannot be read. -/
def Breaks (e : Error) (left bs : Octets) : Prop :=
  bs ≠ [] ∧ RawSet.read.run bs = (.error e, left)

/-- Any bytes are flowsets that can be read, and then an end or one that cannot. -/
lemma exists_cut (bs : Octets) : ∃ sets raws tail, bs = sets.flatMap WireSet.encode ++ tail ∧
    List.Forall₂ (fun s r => WireSet.content s = .ok r) sets raws ∧
    (tail = [] ∨ ∃ e left, Breaks e left tail) :=
  WireSet.accepts.exists_cut WireSet.cuts.nonempty bs

lemma gather_whole (h : List.Forall₂ (fun s r => WireSet.content s = .ok r) sets raws) :
    gather (sets.flatMap WireSet.encode) = ⟨raws, none, []⟩ :=
  WireSet.accepts.gather_whole WireSet.cuts.nonempty h

lemma gather_broken (h : List.Forall₂ (fun s r => WireSet.content s = .ok r) sets raws)
    (breaks : Breaks e left tail) :
    gather (sets.flatMap WireSet.encode ++ tail) = ⟨raws, some e, left⟩ :=
  WireSet.accepts.gather_broken WireSet.cuts.nonempty h breaks

end RawSet

lemma WireSet.breaks {s : WireSet} (h : s.content = .error e) (rest : Octets) :
    RawSet.Breaks e rest (s.encode ++ rest) := by
  refine ⟨?_, by rw [WireSet.read_encode, h]⟩
  simp [WireSet.cuts.nonempty s]

variable {header : Header}

/-- A packet fails with its first flowset that cannot be read, and keeps the templates in front. -/
lemma decode_broken (exporter : Ip) (cache : TemplateCache)
    (hversion : header.version = Header.version9)
    (h : List.Forall₂ (fun s r => WireSet.content s = .ok r) sets raws)
    (breaks : RawSet.Breaks e left tail) :
    let d := decode exporter cache (packetBytes header sets ++ tail)
    d.answer = .error e ∧
      d.cache = cache.insertAll exporter header.source (raws.flatMap RawSet.announced) := by
  have hheader : Header.read.run (packetBytes header sets ++ tail) =
      (.ok header, sets.flatMap WireSet.encode ++ tail) :=
    (Header.read_exact _ _ _).mpr ⟨hversion, by rw [packetBytes, List.append_assoc]⟩
  refine ⟨?_, ?_⟩
  · rw [answer_decode_of_header hheader, RawSet.gather_broken h breaks]
  · rw [cache_decode_of_header hheader, RawSet.gather_broken h breaks]

end Telemetry.Netflow
