import Telemetry.Proofs.Netflow.CacheCounts
import Telemetry.Proofs.Netflow.Flowsets
import Telemetry.Proofs.Netflow.Records

/-!
Templates from packets can be used.

Data records are read as long as the bytes left are enough for one, so a template whose records take
no bytes would keep that loop going for ever. The check that keeps such templates out stands where
templates are read and not where records are; in between lies the cache. So what is shown is an
invariant of the cache over its history: whatever packets have come, also those that failed halfway,
each template that is found is usable.
-/

namespace Telemetry.Netflow

open Wire Reader

variable {bs rest : Octets}

/-! ### Usable templates -/

namespace Template

variable {t u : Template}

/-- Data can refer to the template, and each record of it takes a byte. -/
structure Usable (t : Template) : Prop where
  id : leastId ≤ t.id.toNat
  nonempty : t.scopes ≠ [] ∨ t.fields ≠ []
  scopes : ∀ s ∈ t.scopes, s.length ≠ 0
  fields : ∀ f ∈ t.fields, f.length ≠ 0

lemma Usable.recordLength_pos (h : t.Usable) : 1 ≤ t.recordLength := by
  have hpos {n : UInt16} (hn : n ≠ 0) : 0 < n.toNat :=
    Nat.pos_of_ne_zero fun hzero => hn (UInt16.toNat_inj.mp hzero)
  rw [recordLength_eq_sum, lengths, List.sum_append]
  rcases h.nonempty with hscopes | hfields
  · obtain ⟨s, hs⟩ := List.exists_mem_of_ne_nil _ hscopes
    have := List.le_sum_of_mem (List.mem_map_of_mem (f := (·.length.toNat)) hs)
    have := hpos (h.scopes s hs)
    omega
  · obtain ⟨f, hf⟩ := List.exists_mem_of_ne_nil _ hfields
    have := List.le_sum_of_mem (List.mem_map_of_mem (f := (·.length.toNat)) hf)
    have := hpos (h.fields f hf)
    omega

lemma flaw?_eq_none : t.flaw? = none ↔ t.Usable := by
  unfold flaw?
  split_ifs with hid hempty hnone
  · exact ⟨nofun, fun h => absurd h.id (Nat.not_le_of_lt hid)⟩
  · refine ⟨nofun, fun h => ?_⟩
    simp only [Bool.or_eq_true, List.any_eq_true, beq_iff_eq] at hempty
    rcases hempty with ⟨f, hf, hzero⟩ | ⟨s, hs, hzero⟩
    · exact absurd hzero (h.fields f hf)
    · exact absurd hzero (h.scopes s hs)
  · refine ⟨nofun, fun h => ?_⟩
    have := h.recordLength_pos
    omega
  · refine iff_of_true rfl ⟨Nat.le_of_not_lt hid, ?_, ?_, ?_⟩
    · by_contra hnothing
      rw [not_or, not_not, not_not] at hnothing
      simp [recordLength, lengths, hnothing] at hnone
    · intro s hs hzero
      exact hempty (Bool.or_eq_true_iff.mpr (.inr (List.any_eq_true.mpr ⟨s, hs, by simp [hzero]⟩)))
    · intro f hf hzero
      exact hempty (Bool.or_eq_true_iff.mpr (.inl (List.any_eq_true.mpr ⟨f, hf, by simp [hzero]⟩)))

lemma checked_eq_ok : checked u = .ok t ↔ u = t ∧ u.Usable := by
  rw [← flaw?_eq_none, checked]
  cases u.flaw? <;> simp

lemma usable_of_readPlain (h : readPlain.run bs = (.ok t, rest)) : t.Usable := by
  simp only [readPlain, run_bind_ok, run_ofExcept_ok] at h
  obtain ⟨_, _, -, _, _, -, _, _, -, hchecked, -⟩ := h
  obtain ⟨rfl, husable⟩ := checked_eq_ok.mp hchecked
  exact husable

lemma usable_of_readOptions (h : readOptions.run bs = (.ok t, rest)) : t.Usable := by
  simp only [readOptions, run_bind_ok, run_ofExcept_ok] at h
  obtain ⟨_, _, -, _, _, -, _, _, -, _, _, -, _, _, -, _, _, -, _, _, -, hchecked, -⟩ := h
  obtain ⟨rfl, husable⟩ := checked_eq_ok.mp hchecked
  exact husable

end Template

namespace RawSet

variable {set : RawSet} {t : Template}

lemma usable_of_read (h : RawSet.read.run bs = (.ok set, rest)) (ht : t ∈ set.announced) :
    t.Usable := by
  simp only [RawSet.read, run_bind_ok, run_u16_ok] at h
  obtain ⟨id, _, -, length, _, -, h⟩ := h
  split_ifs at h with hshort
  · exact absurd h (by simp)
  · simp only [run_bind_ok, run_pure_ok] at h
    obtain ⟨body, _, -, ⟨set', left⟩, _, hinside, rfl, -⟩ := h
    obtain ⟨hbody, -⟩ := run_inside_ok.mp hinside
    rw [run_mapError_ok] at hbody
    unfold ofBody at hbody
    split_ifs at hbody
    · obtain ⟨ts, _, hts, hset⟩ := run_bind_ok.mp hbody
      obtain ⟨rfl, -⟩ := run_pure_ok.mp hset
      obtain ⟨front, behind, hread⟩ := mem_of_run_whileLeft hts ht
      exact Template.usable_of_readPlain hread
    · obtain ⟨ts, _, hts, hset⟩ := run_bind_ok.mp hbody
      obtain ⟨rfl, -⟩ := run_pure_ok.mp hset
      obtain ⟨front, behind, hread⟩ := mem_of_run_whileLeft hts ht
      exact Template.usable_of_readOptions hread
    · obtain ⟨rfl, -⟩ := run_pure_ok.mp hbody
      cases ht
    · obtain ⟨_, _, -, hset⟩ := run_bind_ok.mp hbody
      obtain ⟨rfl, -⟩ := run_pure_ok.mp hset
      cases ht

lemma usable_of_gather (hset : set ∈ (gather bs).items) (ht : t ∈ set.announced) : t.Usable := by
  obtain ⟨front, behind, hread⟩ := mem_items_gather hset
  exact usable_of_read hread ht

end RawSet

/-! ### The cache -/

namespace TemplateCache

variable {c : TemplateCache} {exporter : Ip} {source : UInt32} {t : Template}

/-- What is found is usable, and found under its own id. -/
def Sound (c : TemplateCache) : Prop :=
  ∀ exporter source id t, c.get? exporter source id = some t → t.id = id ∧ t.Usable

lemma sound_empty (limit : Nat) : Sound (empty limit) := by
  intro exporter source id t h
  simp [get?, empty] at h

/-- What is found behind offers was found in front of them, or is one of them, under its id. -/
lemma get?_insertAll_cases {other : Ip} {otherSource : UInt32} {id : UInt16} {ts : List Template}
    (h : (c.insertAll exporter source ts).get? other otherSource id = some t) :
    c.get? other otherSource id = some t ∨
      t ∈ ts ∧ other = exporter ∧ otherSource = source ∧ id = t.id := by
  induction ts generalizing c with
  | nil => exact .inl h
  | cons u ts ih =>
    rcases ih h with hinsert | ⟨ht, hkey⟩
    · rw [get?, get?_insert] at hinsert
      split_ifs at hinsert with haccepted
      · obtain ⟨-, hkey⟩ := haccepted
        cases hinsert
        obtain ⟨rfl, rfl, rfl⟩ := TemplateKey.mk.inj hkey
        exact .inr ⟨List.mem_cons_self, rfl, rfl, rfl⟩
      · exact .inl hinsert
    · exact .inr ⟨List.mem_cons_of_mem _ ht, hkey⟩

/-- Refused or kept, usable templates do no harm. -/
lemma Sound.insertAll (h : Sound c) (exporter : Ip) (source : UInt32) {ts : List Template}
    (hts : ∀ t ∈ ts, t.Usable) : Sound (c.insertAll exporter source ts) := by
  intro other otherSource id u hfound
  rcases get?_insertAll_cases hfound with hold | ⟨hu, -, -, rfl⟩
  · exact h other otherSource id u hold
  · exact ⟨rfl, hts u hu⟩

lemma Sound.removeExporter (h : Sound c) (exporter : Ip) : Sound (c.removeExporter exporter) := by
  intro other source id t hfound
  refine h other source id t ?_
  unfold TemplateCache.removeExporter at hfound
  split at hfound
  · exact hfound
  · rw [get?, Table.get?_keep] at hfound
    split_ifs at hfound
    exact hfound

lemma Sound.decode (h : Sound c) (exporter : Ip) (bs : Octets) :
    Sound (decode exporter c bs).cache := by
  rcases hheader : Header.read.run bs with ⟨e | header, rest⟩
  · rwa [decode_of_no_header hheader]
  · rw [cache_decode_of_header hheader]
    refine h.insertAll exporter header.source fun t ht => ?_
    obtain ⟨set, hset, ht⟩ := List.mem_flatMap.mp ht
    exact RawSet.usable_of_gather hset ht

/-! ### Histories -/

/-- What a cache goes through: a packet of an exporter, or that an exporter is forgotten. -/
inductive Feeding where
  | packet (exporter : Ip) (bs : Octets)
  | forget (exporter : Ip)

def feed (c : TemplateCache) : Feeding → TemplateCache
  | .packet exporter bs => (decode exporter c bs).cache
  | .forget exporter => c.removeExporter exporter

def fed (limit : Nat) (feedings : List Feeding) : TemplateCache :=
  feedings.foldl feed (empty limit)

lemma Sound.feed (h : Sound c) (feeding : Feeding) : Sound (c.feed feeding) := by
  cases feeding with
  | packet exporter bs => exact h.decode exporter bs
  | forget exporter => exact h.removeExporter exporter

lemma sound_fed (limit : Nat) (feedings : List Feeding) : Sound (fed limit feedings) := by
  unfold fed
  induction feedings using List.reverseRecOn with
  | nil => exact sound_empty limit
  | append_singleton feedings feeding ih =>
    rw [List.foldl_append]
    exact ih.feed feeding

end TemplateCache

/-! ### The loops of a decoder -/

lemma FieldSpec.takes_read : Takes FieldSpec.read 4 :=
  (takes_code 2).bind fun _ => takes_u16.bind fun _ => takes_pure _

lemma ScopeSpec.takes_read : Takes ScopeSpec.read 4 :=
  (takes_code 2).bind fun _ => takes_u16.bind fun _ => takes_pure _

lemma Template.takes_readPlain : Takes readPlain 4 := by
  have hfields (n : Nat) : Takes (times n FieldSpec.read) 0 :=
    (FieldSpec.takes_read.mono (Nat.zero_le _)).times n
  exact takes_u16.bind fun _ => takes_u16.bind fun _ => (hfields _).bind fun _ => takes_ofExcept _

lemma Template.takes_readOptions : Takes readOptions 6 :=
  takes_u16.bind fun _ => takes_u16.bind fun _ => takes_u16.bind fun _ =>
    ((takes_slice _ _).mono (Nat.zero_le _)).bind fun _ => (takes_inside _ _).bind fun _ =>
      ((takes_slice _ _).mono (Nat.zero_le _)).bind fun _ => (takes_inside _ _).bind fun _ =>
        takes_ofExcept _

lemma RawSet.takes_read : Takes RawSet.read headLength := by
  unfold RawSet.read
  refine Takes.bind (m := 2) (n := 2) takes_u16 fun id => ?_
  refine Takes.bind (m := 2) (n := 0) takes_u16 fun length => ?_
  split_ifs
  · exact takes_fail _ _
  · exact ((takes_slice _ _).mono (Nat.zero_le _)).bind fun _ =>
      (takes_inside _ _).bind fun _ => takes_pure _

/-- All loops of the decoder end, when no round of theirs is counted: that over the flowsets of the
packet, those over the templates of a flowset and over the parts of an options template, whatever
these hold, and that over the records of each data flowset, with the template that is found for it
behind the first pass. -/
structure DecodingEnds (exporter : Ip) (cache : TemplateCache) (bs : Octets) : Prop where
  plain : ∀ body, Loops (Octets.holds 4) Template.readPlain [] body
    (gather (Octets.holds 4) Template.readPlain body)
  options : ∀ body, Loops (Octets.holds 6) Template.readOptions [] body
    (gather (Octets.holds 6) Template.readOptions body)
  scopes : ∀ body, Loops notEnded ScopeSpec.read [] body (gather notEnded ScopeSpec.read body)
  fields : ∀ body, Loops notEnded FieldSpec.read [] body (gather notEnded FieldSpec.read body)
  flowsets : ∀ header rest, Header.read.run bs = (.ok header, rest) →
    Loops notEnded RawSet.read [] rest (RawSet.gather rest)
  records : ∀ header rest, Header.read.run bs = (.ok header, rest) →
    ∀ id body, RawSet.data id body ∈ (RawSet.gather rest).items →
    ∀ t, (decode exporter cache bs).cache.get? exporter header.source id = some t →
      ∃ left, t.RecordLoop [] body ⟨t.records body, none, left⟩

lemma TemplateCache.Sound.decodingEnds {cache : TemplateCache} (h : cache.Sound) (exporter : Ip)
    (bs : Octets) : DecodingEnds exporter cache bs where
  plain := (Template.takes_readPlain.advances (by decide)).loops rfl
  options := (Template.takes_readOptions.advances (by decide)).loops rfl
  scopes := (ScopeSpec.takes_read.advances (by decide)).loops rfl
  fields := (FieldSpec.takes_read.advances (by decide)).loops rfl
  flowsets _ rest _ := (RawSet.takes_read.advances (by decide)).loops rfl rest
  records header _ _ id body _ t ht := by
    obtain ⟨-, husable⟩ := h.decode exporter bs exporter header.source id t ht
    exact ⟨_, t.recordLoop_records husable.recordLength_pos body⟩

/-- Each round of the record loop takes at least one byte. -/
lemma Template.Usable.round {t : Template} (h : t.Usable)
    (goes : Octets.holds t.recordLength bs = true) :
    ∃ r, t.readRecord.run bs = (.ok r, bs.drop t.recordLength) ∧
      (bs.drop t.recordLength).length < bs.length := by
  have henough := Octets.holds_iff.mp goes
  have := h.recordLength_pos
  refine ⟨_, run_readRecord henough, ?_⟩
  rw [List.length_drop]
  omega

/-- **A cache holds usable templates only.** Whatever packets a fresh cache has been through, of
whatever exporters and also such that failed, and whichever exporters were forgotten in between: a
template that it finds has the id it is found under, 256 or more, a scope or a field, and none of no
bytes. Its records take a byte at least, and so does each round of the loop that reads them. Hence
all loops end when the next packet comes, whatever its bytes. -/
theorem TemplateCache.fed_usable (limit : Nat) (feedings : List Feeding) :
    let cache := fed limit feedings
    (∀ exporter source id t, cache.get? exporter source id = some t →
      t.id = id ∧ t.Usable ∧ 1 ≤ t.recordLength ∧
      ∀ bs, Octets.holds t.recordLength bs = true →
        ∃ r, t.readRecord.run bs = (.ok r, bs.drop t.recordLength) ∧
          (bs.drop t.recordLength).length < bs.length) ∧
      ∀ exporter bs, DecodingEnds exporter cache bs := by
  intro cache
  have hsound : cache.Sound := sound_fed limit feedings
  refine ⟨fun exporter source id t hfound => ?_, hsound.decodingEnds⟩
  obtain ⟨hid, husable⟩ := hsound exporter source id t hfound
  exact ⟨hid, husable, husable.recordLength_pos, fun bs goes => husable.round goes⟩

/-- A packet that fails at an empty field leaves the template in front of it, and not that one. -/
example :
    let router := Ip.v4 (Block.ofNat 4 0x0a000001)
    let bytes := packetBytes ⟨9, 2, 0, 0, 0, 7⟩
      [⟨0, [1, 0, 0, 1, 0, 1, 0, 1], by decide⟩, ⟨0, [1, 1, 0, 1, 0, 1, 0, 0], by decide⟩]
    let cache := TemplateCache.fed 8 [.packet router bytes]
    (decode router (.empty 8) bytes).answer = .error (.invalidTemplate 257 .emptyField) ∧
      cache.get? router 7 256 = some ⟨256, [], [⟨.inBytes, 1⟩]⟩ ∧
      cache.get? router 7 257 = none := by
  decide

end Telemetry.Netflow
