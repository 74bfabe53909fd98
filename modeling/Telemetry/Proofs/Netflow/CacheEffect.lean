import Telemetry.Proofs.Netflow.Grammar
import Telemetry.Proofs.Wire.Failing

/-!
What a packet does to the cache.

Templates are kept while the packet is still being cut, so a packet that fails has done something
already. What it has done is settled by its bytes: the templates of the flowsets in front of the
first malformed one are in the cache, in their order, and nothing else of the packet is. A flowset
is read as a whole before its templates are offered, so one bad template in it keeps the others out,
also those in front. The data of the packet are looked at only when it has been cut to its end, and
whether they are decoded makes no difference.
-/

namespace Telemetry.Netflow

open Wire Reader

variable {bs rest tail left : Octets} {header : Header} {sets : List WireSet} {raws : List RawSet}
  {told : List (List Template)}

namespace WireSet

variable {s : WireSet} {ts : List Template} {r : RawSet}

/-- The templates that a flowset brings, going by its bytes: those that it spells, if it is one of
templates or of options templates, and otherwise none. -/
def Tells (s : WireSet) (ts : List Template) : Prop :=
  if s.id = 0 then Template.SpellsPlain s.body ts
  else if s.id = 1 then Template.SpellsOptions s.body ts
  else ts = []

/-- A flowset is read when it brings templates, and what it announces are these. -/
lemma tells_iff : s.Tells ts ↔ ∃ r, s.content = .ok r ∧ r.announced = ts := by
  unfold Tells
  split_ifs with hplain hoptions
  · simp only [content_plain hplain, mapError_eq_ok, map_eq_ok, Template.run_readAllPlain_eq_ok]
    refine ⟨fun h => ⟨_, ⟨ts, h, rfl⟩, rfl⟩, ?_⟩
    rintro ⟨_, ⟨us, h, rfl⟩, rfl⟩
    exact h
  · simp only [content_options hoptions, mapError_eq_ok, map_eq_ok,
      Template.run_readAllOptions_eq_ok]
    refine ⟨fun h => ⟨_, ⟨ts, h, rfl⟩, rfl⟩, ?_⟩
    rintro ⟨_, ⟨us, h, rfl⟩, rfl⟩
    exact h
  · obtain ⟨r, hr, hnone⟩ := content_of_silent (s := s) (by simp [announces, hplain, hoptions])
    refine ⟨?_, ?_⟩
    · rintro rfl
      exact ⟨r, hr, hnone⟩
    · rintro ⟨r', hr', rfl⟩
      cases hr.symm.trans hr'
      exact hnone

lemma forall₂_tells_iff : List.Forall₂ Tells sets told ↔
    ∃ raws, List.Forall₂ (fun s r => WireSet.content s = .ok r) sets raws ∧
      raws.map RawSet.announced = told := by
  induction sets generalizing told with
  | nil => simp
  | cons s sets ih =>
    refine ⟨?_, ?_⟩
    · intro h
      cases h with
      | cons hs hsets =>
        obtain ⟨r, hr, rfl⟩ := tells_iff.mp hs
        obtain ⟨raws, hraws, rfl⟩ := ih.mp hsets
        exact ⟨r :: raws, .cons hr hraws, rfl⟩
    · rintro ⟨_, h, rfl⟩
      cases h with
      | cons hr hraws => exact .cons (tells_iff.mpr ⟨_, hr, rfl⟩) (ih.mpr ⟨_, hraws, rfl⟩)

def isData (s : WireSet) : Bool := Template.leastId ≤ s.id.toNat

lemma content_of_data (h : s.isData = true) : s.content = .ok (.data s.id s.body) := by
  simp only [isData, decide_eq_true_eq] at h
  have hzero : s.id ≠ 0 := by rintro hid; simp [hid, Template.leastId] at h
  have hone : s.id ≠ 1 := by rintro hid; simp [hid, Template.leastId] at h
  rw [content, RawSet.ofBody, if_neg hzero, if_neg hone, if_neg (by omega)]
  rfl

lemma resolve_of_not_data (h : s.isData = false) (hr : s.content = .ok r)
    (find? : UInt16 → Except Error Template) : ∃ o, r.resolve find? = .ok o := by
  simp only [isData, decide_eq_false_iff_not, Nat.not_le] at h
  by_cases hplain : s.id = 0
  · simp only [content_plain hplain, mapError_eq_ok, map_eq_ok] at hr
    obtain ⟨ts, -, rfl⟩ := hr
    exact ⟨_, rfl⟩
  · by_cases hoptions : s.id = 1
    · simp only [content_options hoptions, mapError_eq_ok, map_eq_ok] at hr
      obtain ⟨ts, -, rfl⟩ := hr
      exact ⟨_, rfl⟩
    · rw [content, RawSet.ofBody, if_neg hplain, if_neg hoptions, if_pos h] at hr
      cases hr
      exact ⟨_, rfl⟩

end WireSet

/-! ### What can fail -/

def Error.isMissingTemplate : Error → Bool
  | missingTemplate .. => true
  | _ => false

/-- An error of the first pass, which looks up nothing. -/
def Error.IsEarly (e : Error) : Prop := e.isMissingTemplate = false

@[simp] lemma Error.isEarly_wire : AdmitsFaults Error.IsEarly := fun _ => rfl

@[simp] lemma Error.isEarly_inSet (e : Error) : Error.IsEarly e.inSet ↔ Error.IsEarly e := by
  cases e <;> rfl

open Error (IsEarly)

@[simp] lemma Template.failsOnly_checked (t : Template) :
    FailsOnly (ofExcept t.checked) IsEarly := by
  refine failsOnly_ofExcept fun e he => ?_
  unfold Template.checked at he
  split at he
  · cases he
  · cases he
    rfl

@[simp] lemma FieldSpec.failsOnly_read : FailsOnly FieldSpec.read IsEarly :=
  .bind (by simp) fun _ => .bind (by simp) (by simp)

@[simp] lemma ScopeSpec.failsOnly_read : FailsOnly ScopeSpec.read IsEarly :=
  .bind (by simp) fun _ => .bind (by simp) (by simp)

lemma Template.failsOnly_readPlain : FailsOnly Template.readPlain IsEarly := by
  unfold Template.readPlain
  repeat' with_reducible refine .bind ?_ fun _ => ?_
  all_goals simp

lemma Template.failsOnly_readOptions : FailsOnly Template.readOptions IsEarly := by
  unfold Template.readOptions
  repeat' with_reducible refine .bind ?_ fun _ => ?_
  all_goals simp [untilEnd]

lemma RawSet.failsOnly_ofBody (id : UInt16) : FailsOnly (RawSet.ofBody id) IsEarly := by
  unfold RawSet.ofBody
  split_ifs
  · exact .bind (Template.failsOnly_readPlain.whileLeft _) (by simp)
  · exact .bind (Template.failsOnly_readOptions.whileLeft _) (by simp)
  · simp
  · exact .bind (by simp) (by simp)

lemma RawSet.failsOnly_read : FailsOnly RawSet.read IsEarly := by
  unfold RawSet.read
  refine .bind (by simp) fun id => .bind (by simp) fun length => ?_
  split_ifs
  · exact failsOnly_fail rfl
  · exact .bind (by simp) fun body =>
      .bind (.inside (.mapError (by simpa using RawSet.failsOnly_ofBody id)) _) (by simp)

/-- The first id among those of data for which the cache has no template. -/
def missing? (c : TemplateCache) (exporter : Ip) (source : UInt32) (sets : List WireSet) :
    Option UInt16 :=
  ((sets.filter WireSet.isData).map (·.id)).find? fun id => (c.get? exporter source id).isNone

lemma missing?_cons (c : TemplateCache) (exporter : Ip) (source : UInt32) (s : WireSet)
    (sets : List WireSet) : missing? c exporter source (s :: sets) =
      if s.isData = true ∧ c.get? exporter source s.id = none then some s.id
      else missing? c exporter source sets := by
  cases hdata : s.isData with
  | false => simp [missing?, hdata]
  | true => cases hget : c.get? exporter source s.id <;> simp [missing?, hdata, hget]

lemma RawSet.resolveAll_cons_of_error {find? : UInt16 → Except Error Template} {r : RawSet}
    {e : Error} (h : r.resolve find? = .error e) (rs : List RawSet) :
    resolveAll find? (r :: rs) = .error e := by
  rw [resolveAll_cons_eq, h]
  rfl

lemma RawSet.resolveAll_cons_of_ok {find? : UInt16 → Except Error Template} {r : RawSet}
    {o : Option FlowSet} (h : r.resolve find? = .ok o) (rs : List RawSet) :
    resolveAll find? (r :: rs) = (resolveAll find? rs).map (o.toList ++ ·) := by
  rw [resolveAll_cons_eq, h]
  rfl

/-- The second pass fails with the first data that have no template, and with nothing else. -/
lemma resolveAll_of_missing (c : TemplateCache) (exporter : Ip) (source : UInt32)
    (h : List.Forall₂ (fun s r => WireSet.content s = .ok r) sets raws) :
    match missing? c exporter source sets with
    | some id => RawSet.resolveAll (c.require exporter source) raws =
        .error (.missingTemplate exporter source id)
    | none => ∃ fs, RawSet.resolveAll (c.require exporter source) raws = .ok fs := by
  induction h with
  | nil => exact ⟨[], rfl⟩
  | @cons s r sets raws hs _ ih =>
    rw [missing?_cons]
    split_ifs with hmissing
    · cases hs.symm.trans (WireSet.content_of_data hmissing.1)
      refine RawSet.resolveAll_cons_of_error ?_ raws
      rw [RawSet.resolve, TemplateCache.require, hmissing.2]
      rfl
    · obtain ⟨o, ho⟩ : ∃ o, r.resolve (c.require exporter source) = .ok o := by
        cases hdata : s.isData with
        | false => exact WireSet.resolve_of_not_data hdata hs _
        | true =>
          cases hs.symm.trans (WireSet.content_of_data hdata)
          obtain ⟨t, ht⟩ := Option.ne_none_iff_exists'.mp fun hnone => hmissing ⟨hdata, hnone⟩
          exact ⟨_, by rw [RawSet.resolve, TemplateCache.require, ht]; rfl⟩
      rw [RawSet.resolveAll_cons_of_ok ho]
      cases hlater : missing? c exporter source sets with
      | some id =>
        simp only [hlater] at ih
        rw [ih]
        rfl
      | none =>
        simp only [hlater] at ih
        obtain ⟨fs, hfs⟩ := ih
        exact ⟨o.toList ++ fs, by rw [hfs]; rfl⟩

/-! ### Packets taken apart -/

/-- A packet taken apart, going by its bytes: a header of this version, flowsets with the templates
that they bring, and a rest, empty or not, that does not begin with such a flowset. -/
structure Parted (bs : Octets) (header : Header) (sets : List WireSet)
    (told : List (List Template)) (tail : Octets) : Prop where
  version : header.version = Header.version9
  bytes : bs = packetBytes header sets ++ tail
  told : List.Forall₂ WireSet.Tells sets told
  stops : ∀ (s : WireSet) rest ts, tail = s.encode ++ rest → ¬ s.Tells ts

lemma exists_parted (hversion : header.version = Header.version9) (rest : Octets) :
    ∃ sets told tail, Parted (header.encode ++ rest) header sets told tail := by
  obtain ⟨sets, raws, tail, rfl, hraws, htail⟩ := RawSet.exists_cut rest
  refine ⟨sets, _, tail, hversion, by rw [packetBytes, List.append_assoc],
    WireSet.forall₂_tells_iff.mpr ⟨raws, hraws, rfl⟩, fun s rest ts hs htells => ?_⟩
  rcases htail with rfl | ⟨e, left, hbreaks⟩
  · exact WireSet.cuts.nonempty s (List.append_eq_nil_iff.mp hs.symm).1
  · obtain ⟨r, hr, -⟩ := WireSet.tells_iff.mp htells
    have hrun := hbreaks.2
    rw [hs, WireSet.read_encode, hr] at hrun
    cases hrun

/-- The rest of a packet is empty, or the first pass fails with it. -/
lemma Parted.breaks (h : Parted bs header sets told tail) (hrest : tail ≠ []) :
    ∃ e left, RawSet.Breaks e left tail := by
  rcases hrun : RawSet.read.run tail with ⟨e | r, left⟩
  · exact ⟨e, left, hrest, hrun⟩
  · obtain ⟨s, hs, hr⟩ := WireSet.of_read hrun
    exact absurd (WireSet.tells_iff.mpr ⟨r, hr, rfl⟩) (h.stops s left _ hs)

/-- A packet that can be cut to its end keeps all its templates, and is decoded where its data have
templates then. -/
lemma decode_whole (exporter : Ip) (cache : TemplateCache)
    (hversion : header.version = Header.version9)
    (h : List.Forall₂ (fun s r => WireSet.content s = .ok r) sets raws) :
    let d := decode exporter cache (packetBytes header sets)
    d.cache = cache.insertAll exporter header.source (raws.flatMap RawSet.announced) ∧
      d.answer = do
        return ⟨header, ← RawSet.resolveAll (d.cache.require exporter header.source) raws⟩ := by
  have hheader : Header.read.run (packetBytes header sets) =
      (.ok header, sets.flatMap WireSet.encode) := run_header hversion
  refine ⟨?_, ?_⟩
  · rw [cache_decode_of_header hheader, RawSet.gather_whole h]
  · rw [answer_decode_of_header hheader, RawSet.gather_whole h]

lemma answer_decode_whole (exporter : Ip) (cache : TemplateCache)
    (hversion : header.version = Header.version9)
    (h : List.Forall₂ (fun s r => WireSet.content s = .ok r) sets raws) :
    let d := decode exporter cache (packetBytes header sets)
    match missing? d.cache exporter header.source sets with
    | some id => d.answer = .error (.missingTemplate exporter header.source id)
    | none => ∃ fs, d.answer = .ok ⟨header, fs⟩ ∧
      List.Forall₂ (fun s f => s.decoded (d.cache.require exporter header.source) = .ok (some f))
        (WireSet.meaningful sets) fs := by
  intro d
  have hanswer : d.answer = do
      return ⟨header, ← RawSet.resolveAll (d.cache.require exporter header.source) raws⟩ :=
    (decode_whole exporter cache hversion h).2
  have hresolve := resolveAll_of_missing d.cache exporter header.source h
  rw [hanswer]
  cases hmissing : missing? d.cache exporter header.source sets with
  | some id =>
    simp only [hmissing] at hresolve
    simp only [hresolve]
    rfl
  | none =>
    simp only [hmissing] at hresolve
    obtain ⟨fs, hfs⟩ := hresolve
    simp only [hfs]
    exact ⟨fs, rfl, (resolveAll_eq_ok h).mp hfs⟩

/-- **What a packet does to the cache, also when it fails.** Without a header it does nothing. Any
packet with a header is flowsets with the templates that they bring, and a rest that does not begin
with such a flowset. The cache is then as if these templates had been inserted, in the order of the
packet, and so as if the packet had ended in front of the rest. If there is a rest the packet fails
with it, and its data are not looked at. If there is none the packet fails with the first data for
which the cache now has no template, or is decoded, and the cache is the same. -/
theorem decode_effect (exporter : Ip) (cache : TemplateCache) (bs : Octets) :
    let d := decode exporter cache bs
    ((∀ (header : Header) (rest : Octets), header.version = Header.version9 →
        bs ≠ header.encode ++ rest) →
      d.cache = cache ∧ ∃ e, d.answer = .error e) ∧
    (∀ (header : Header) (rest : Octets), header.version = Header.version9 →
      bs = header.encode ++ rest → ∃ sets told tail, Parted bs header sets told tail) ∧
    ∀ header sets told tail, Parted bs header sets told tail →
      d.cache = cache.insertAll exporter header.source told.flatten ∧
      d.cache = (decode exporter cache (packetBytes header sets)).cache ∧
      (tail ≠ [] → ∃ e, d.answer = .error e ∧ e.isMissingTemplate = false) ∧
      (tail = [] → match missing? d.cache exporter header.source sets with
        | some id => d.answer = .error (.missingTemplate exporter header.source id)
        | none => ∃ fs, d.answer = .ok ⟨header, fs⟩ ∧
          List.Forall₂ (fun s f => s.decoded (d.cache.require exporter header.source) =
            .ok (some f)) (WireSet.meaningful sets) fs) := by
  intro d
  refine ⟨fun hnone => ?_, fun header rest hversion hbytes => ?_,
    fun header sets told tail hparted => ?_⟩
  · rcases hheader : Header.read.run bs with ⟨e | header, rest⟩
    · have hd : d = ⟨.error e, rest, cache, []⟩ := decode_of_no_header hheader
      rw [hd]
      exact ⟨rfl, e, rfl⟩
    · obtain ⟨hversion, hbytes⟩ := (Header.read_exact _ _ _).mp hheader
      exact absurd hbytes (hnone header rest hversion)
  · exact hbytes ▸ exists_parted hversion rest
  · obtain ⟨raws, hraws, rfl⟩ := WireSet.forall₂_tells_iff.mp hparted.told
    have hfront := (decode_whole exporter cache hparted.version hraws).1
    rw [← List.flatMap_def]
    by_cases hrest : tail = []
    · -- the packet is its flowsets, so only the second pass can still fail
      have hd : d = decode exporter cache (packetBytes header sets) := by
        rw [← List.append_nil (packetBytes header sets), ← hrest, ← hparted.bytes]
      rw [hd]
      exact ⟨hfront, rfl, fun hne => absurd hrest hne,
        fun _ => answer_decode_whole exporter cache hparted.version hraws⟩
    · obtain ⟨e, left, hbreaks⟩ := hparted.breaks hrest
      obtain ⟨hfails, hcache⟩ := decode_broken exporter cache hparted.version hraws hbreaks
      rw [← hparted.bytes] at hfails hcache
      refine ⟨hcache, hcache.trans hfront.symm, fun _ => ⟨e, hfails, ?_⟩, fun h => absurd h hrest⟩
      exact RawSet.failsOnly_read tail e left hbreaks.2

end Telemetry.Netflow
