import Telemetry.Proofs.Netflow.CacheEffect
import Telemetry.Proofs.Wire.Growing

/-!
When a packet is said to be too short.

Bytes are wanting where the header is not there as a whole, and where less than the head of a
flowset stands behind flowsets that can all be read. A flowset is a slice of declared length, so
what goes wrong in one is its own fault. Data are not looked at before the packet has been cut to
its end, and reading records cannot fail at all where these take bytes.
-/

namespace Telemetry.Netflow

open Wire Reader

variable {d bs tail : Octets} {exporter : Ip} {cache : TemplateCache}

namespace Error

def IsShort (e : Error) : Prop := e.isInsufficient = true

lemma admitsShort : AdmitsShort IsShort := fun _ _ => rfl

end Error

open Error (IsShort admitsShort)

/-! ### Headers -/

namespace Header

/-- The bytes end inside a header: inside the version, or behind it where the header goes on. -/
inductive Unfinished : Octets → Prop where
  | version {d : Octets} (few : d.length < 2) : Unfinished d
  | fields {d : Octets} (few : 2 + d.length < 20) : Unfinished (Octets.ofUInt16 version9 ++ d)

lemma wants_behind (version : UInt16) : Wants (do
    Reader.need 18
    return {
      version
      count := ← Reader.u16
      uptime := ← Reader.u32
      seconds := ← Reader.u32
      sequence := ← Reader.u32
      source := ← Reader.u32 } : Reader Error Header) IsShort 18 := by
  have hu32 : Wants (u32 : Reader Error UInt32) IsShort 4 := wants_u32 admitsShort
  refine Wants.needed ?_ admitsShort
  exact (wants_u16 admitsShort).bind fun _ => hu32.bind fun _ => hu32.bind fun _ =>
    hu32.bind fun _ => hu32.bind fun _ => wants_pure _

lemma failsShort_read_iff : FailsShort Header.read IsShort d ↔ Unfinished d := by
  unfold Header.read
  simp only [failsShort_bind_iff, failsShort_u16_iff admitsShort, run_u16_ok]
  refine ⟨?_, ?_⟩
  · rintro (few | ⟨version, mid, rfl, h⟩)
    · exact .version few
    split_ifs at h with hversion
    · cases failsShort_fail_iff.mp h
    obtain rfl : version = version9 := not_not.mp hversion
    have few := (wants_behind version9).failsShort_iff.mp h
    exact .fields (by omega)
  · rintro (few | few)
    · exact .inl few
    · refine .inr ⟨version9, _, rfl, ?_⟩
      rw [if_neg (not_not.mpr rfl)]
      exact (wants_behind version9).failsShort_iff.mpr (by omega)

end Header

/-! ### Flowsets -/

namespace RawSet

/-- Behind its head a flowset can be wrong in many ways, but it is not too short. -/
lemma not_failsShort_behind (id length : UInt16) : ¬ FailsShort (do
    if length.toNat < headLength then Reader.fail (.invalidSetLength length)
    else
      let body ← Reader.slice "NetFlow flowset" (length.toNat - headLength)
      let (set, _) ← Reader.inside (Reader.mapError Error.inSet (ofBody id)) body
      return set : Reader Error RawSet) IsShort bs := by
  have hbody : ∀ body, FailsOnly (inside (mapError Error.inSet (ofBody id)) body)
      fun e => e.isInsufficient = false := fun body =>
    .inside (.mapError fun _ e _ _ => e.isInsufficient_inSet) body
  intro h
  split_ifs at h
  · cases failsShort_fail_iff.mp h
  rcases failsShort_bind_iff.mp h with hslice | ⟨body, rest, -, hbehind⟩
  · exact not_failsShort_slice (fun _ _ => nofun) _ _ hslice
  rcases failsShort_bind_iff.mp hbehind with ⟨e, he, hshort⟩ | ⟨_, _, -, e, he, -⟩
  · cases hshort.symm.trans (hbody body rest e _ (Prod.ext he rfl))
  · cases he

lemma failsShort_read_iff : FailsShort RawSet.read IsShort tail ↔ tail.length < headLength := by
  unfold RawSet.read
  simp only [failsShort_bind_iff, failsShort_u16_iff admitsShort, run_u16_ok, headLength]
  refine ⟨?_, fun few => ?_⟩
  · rintro (few | ⟨id, mid, rfl, few | ⟨length, rest, -, h⟩⟩)
    · omega
    · rw [List.length_append, Octets.ofUInt16, Octets.length_ofNat]
      omega
    · exact absurd h (not_failsShort_behind id length)
  · rcases Nat.lt_or_ge tail.length 2 with few' | enough
    · exact .inl few'
    · obtain ⟨id, behind, rfl⟩ := Octets.exists_ofUInt16 enough
      rw [List.length_append, Octets.length_ofUInt16] at few
      exact .inr ⟨id, behind, rfl, .inl (by omega)⟩

end RawSet

/-! ### Packets -/

/-- All flowsets in front are there as a whole and bring the templates that they spell, and what
stands behind them is less than the head of a flowset. -/
def EndsInHead (bs : Octets) : Prop :=
  ∃ header sets told tail, header.version = Header.version9 ∧
    bs = packetBytes header sets ++ tail ∧ List.Forall₂ WireSet.Tells sets told ∧
    1 ≤ tail.length ∧ tail.length < RawSet.headLength

/-- A packet is too short where its header is, or the head of a flowset behind others. -/
lemma decode_short_iff (exporter : Ip) (cache : TemplateCache) (bs : Octets) :
    (∃ e, (decode exporter cache bs).answer = .error e ∧ e.isInsufficient = true) ↔
      Header.Unfinished bs ∨ EndsInHead bs := by
  refine ⟨?_, ?_⟩
  · rintro ⟨e, he, hshort⟩
    rcases hheader : Header.read.run bs with ⟨e' | header, rest⟩
    · rw [decode_of_no_header hheader] at he
      cases he
      exact .inl (Header.failsShort_read_iff.mp ⟨e, by rw [hheader], hshort⟩)
    obtain ⟨hversion, rfl⟩ := (Header.read_exact _ _ _).mp hheader
    obtain ⟨sets, raws, tail, rfl, hraws, htail⟩ := RawSet.exists_cut rest
    rcases htail with rfl | ⟨e', left, hbreaks⟩
    · -- the packet is cut to its end, and then only a template can be missing
      rw [List.append_nil] at he
      have hanswer := answer_decode_whole exporter cache hversion hraws
      dsimp only at hanswer
      split at hanswer
      · cases he.symm.trans hanswer
        cases hshort
      · obtain ⟨fs, hfs, -⟩ := hanswer
        cases he.symm.trans hfs
    · rw [← List.append_assoc] at he
      have hfails := (decode_broken exporter cache hversion hraws hbreaks).1
      cases he.symm.trans hfails
      have hread : FailsShort RawSet.read IsShort tail := ⟨e, by rw [hbreaks.2], hshort⟩
      refine .inr ⟨header, sets, _, tail, hversion, by rw [packetBytes, List.append_assoc],
        WireSet.forall₂_tells_iff.mpr ⟨raws, hraws, rfl⟩, List.length_pos_of_ne_nil hbreaks.1,
        RawSet.failsShort_read_iff.mp hread⟩
  · rintro (hheader | ⟨header, sets, told, tail, hversion, rfl, htold, hpos, few⟩)
    · obtain ⟨e, he, hshort⟩ := Header.failsShort_read_iff.mpr hheader
      exact ⟨e, by rw [decode_of_no_header (Prod.ext he rfl)], hshort⟩
    · obtain ⟨e, he, hshort⟩ := RawSet.failsShort_read_iff.mpr few
      obtain ⟨raws, hraws, -⟩ := WireSet.forall₂_tells_iff.mp htold
      have hbreaks : RawSet.Breaks e _ tail := ⟨List.ne_nil_of_length_pos hpos, Prod.ext he rfl⟩
      exact ⟨e, (decode_broken exporter cache hversion hraws hbreaks).1, hshort⟩

lemma WireSet.isInsufficient_of_content {s : WireSet} {e : Error} (h : s.content = .error e) :
    e.isInsufficient = false := by
  have hbody : FailsOnly (mapError Error.inSet (RawSet.ofBody s.id))
      fun e => e.isInsufficient = false := .mapError fun _ e _ _ => e.isInsufficient_inSet
  exact hbody s.body e _ (Prod.ext h rfl)

/-! ### Data -/

namespace TemplateCache

variable {c : TemplateCache}

/-- The records of each template that is found take a byte at least. -/
def Positive (c : TemplateCache) : Prop :=
  ∀ exporter source id t, c.get? exporter source id = some t → 1 ≤ t.recordLength

lemma positive_empty (limit : Nat) : Positive (empty limit) := by
  intro exporter source id t h
  simp [get?, empty] at h

lemma Positive.insertAll (h : Positive c) (exporter : Ip) (source : UInt32) {ts : List Template}
    (hts : ∀ t ∈ ts, 1 ≤ t.recordLength) : Positive (c.insertAll exporter source ts) := by
  intro other otherSource id t hfound
  rcases get?_insertAll_cases hfound with hold | ⟨ht, -⟩
  · exact h other otherSource id t hold
  · exact hts t ht

/-- What a packet brings is usable, so its records take bytes. -/
lemma Positive.decode (h : Positive c) (exporter : Ip) (bs : Octets) :
    Positive (decode exporter c bs).cache := by
  rcases hheader : Header.read.run bs with ⟨e | header, rest⟩
  · rwa [decode_of_no_header hheader]
  · rw [cache_decode_of_header hheader]
    refine h.insertAll exporter header.source fun t ht => ?_
    obtain ⟨set, hset, ht⟩ := List.mem_flatMap.mp ht
    exact (RawSet.usable_of_gather hset ht).recordLength_pos

end TemplateCache

lemma Template.recordLoop_ends {t : Template} (nonempty : 1 ≤ t.recordLength) (body : Octets) :
    (∃ g, t.RecordLoop [] body g) ∧ ∀ g, t.RecordLoop [] body g → g.failure = none := by
  have hloop := recordLoop_records nonempty body
  refine ⟨⟨_, hloop⟩, fun g hg => ?_⟩
  rw [hg.unique hloop]

end Telemetry.Netflow
