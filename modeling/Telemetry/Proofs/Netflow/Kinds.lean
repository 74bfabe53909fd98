import Telemetry.Proofs.Netflow.CacheEffect

/-!
What a template tells of the flowset it came in.

The kind of a template is not kept. A template with scopes is taken for one of options, and how many
scopes there are goes by a length that the exporter chooses. What a usable template must have is a
field or a scope, so an options template that declares no bytes of scopes is read all the same, and
cannot be told from a plain one any more. That is the only way in which the kind gets lost.
-/

namespace Telemetry.Netflow

open Wire Reader Template

variable {exporter : Ip} {cache : TemplateCache} {bs : Octets} {p : Packet} {t : Template}
  {ts : List Template} {raws : List RawSet} {find? : UInt16 → Except Error Template}

/-! ### What an options template declares -/

namespace Template

/-- How many bytes of scopes an options template declares: the number behind its id. -/
def declaredScopes (written : Octets) : Nat := Octets.value (written.slice 2 2)

lemma IsOptional.declaredScopes_eq (h : t.IsOptional) :
    declaredScopes t.encodeOptions = 4 * t.scopes.length := by
  have hslice : t.encodeOptions.slice 2 2 = Octets.ofNat 2 (4 * t.scopes.length) := by
    simp [encodeOptions, Octets.slice, Octets.ofUInt16]
  rw [declaredScopes, hslice, Octets.value_ofNat_of_lt h.scopes]

/-- The template is taken for one of options when it declares scopes. -/
lemma IsOptional.isOptions_iff (h : t.IsOptional) :
    t.isOptions = true ↔ declaredScopes t.encodeOptions ≠ 0 := by
  rw [h.declaredScopes_eq, isOptions]
  cases t.scopes <;> simp

lemma IsPlain.isOptions_eq (h : t.IsPlain) : t.isOptions = false := by
  rw [isOptions, h.scopes]
  rfl

lemma Spells.isInfix {valid : Template → Prop} {write : Template → Octets} {most : Nat}
    {body : Octets} (h : Spells valid write most body ts) (ht : t ∈ ts) : write t <:+: body := by
  obtain ⟨-, filling, -, rfl⟩ := h
  obtain ⟨front, behind, rfl⟩ := List.append_of_mem ht
  exact ⟨front.flatMap write, behind.flatMap write ++ filling, by simp⟩

end Template

/-! ### Flowsets of templates -/

namespace RawSet

/-- The flowset is what a body of templates spells, where it is one of templates. -/
def Spelled (body : Octets) : RawSet → Prop
  | templates ts => SpellsPlain body ts
  | optionsTemplates ts => SpellsOptions body ts
  | data .. | reserved _ => True

/-- The second pass leaves templates as they are, and brings no others. -/
lemma mem_resolveAll {fs : List FlowSet} (h : resolveAll find? raws = .ok fs) :
    (∀ ts, FlowSet.templates ts ∈ fs ↔ templates ts ∈ raws) ∧
      ∀ ts, FlowSet.optionsTemplates ts ∈ fs ↔ optionsTemplates ts ∈ raws := by
  induction raws generalizing fs with
  | nil =>
    cases h
    simp
  | cons r raws ih =>
    obtain ⟨o, gs, ho, hgs, rfl⟩ := resolveAll_cons.mp h
    obtain ⟨hplain, hoptions⟩ := ih hgs
    cases r with
    | templates ts | optionsTemplates ts | reserved id =>
      cases ho
      simp [hplain, hoptions]
    | data id body =>
      obtain ⟨t, -, hf⟩ := bind_eq_ok.mp ho
      cases hf
      simp [hplain, hoptions]

end RawSet

namespace WireSet

variable {s : WireSet} {r : RawSet}

lemma spelled_of_content (h : s.content = .ok r) : r.Spelled s.body := by
  have hbody : ((RawSet.ofBody s.id).run s.body).1 = .ok r := by
    rwa [content, run_mapError_fst, mapError_eq_ok] at h
  unfold RawSet.ofBody at hbody
  split_ifs at hbody
  · rw [run_wrap_fst, map_eq_ok] at hbody
    obtain ⟨ts, hts, rfl⟩ := hbody
    exact run_readAllPlain_eq_ok.mp hts
  · rw [run_wrap_fst, map_eq_ok] at hbody
    obtain ⟨ts, hts, rfl⟩ := hbody
    exact run_readAllOptions_eq_ok.mp hts
  · cases hbody
    trivial
  · rw [run_wrap_fst, map_eq_ok] at hbody
    obtain ⟨_, -, rfl⟩ := hbody
    trivial

lemma body_isInfix (s : WireSet) : s.body <:+: s.encode :=
  (List.suffix_append _ _).isInfix

end WireSet

lemma exists_spelled {sets : List WireSet} {r : RawSet}
    (h : List.Forall₂ (fun s r => WireSet.content s = .ok r) sets raws) (hr : r ∈ raws) :
    ∃ body, body <:+: sets.flatMap WireSet.encode ∧ r.Spelled body := by
  induction h with
  | nil => cases hr
  | @cons s q sets raws hs _ ih =>
    rw [List.flatMap_cons]
    rcases List.mem_cons.mp hr with rfl | hr
    · exact ⟨s.body, s.body_isInfix.trans (List.prefix_append _ _).isInfix,
        WireSet.spelled_of_content hs⟩
    · obtain ⟨body, hbody, hspelled⟩ := ih hr
      exact ⟨body, hbody.trans (List.suffix_append _ _).isInfix, hspelled⟩

/-- A packet that is decoded is flowsets that can all be read, and decoded with what the cache knows
behind it. -/
lemma exists_sets (h : (decode exporter cache bs).answer = .ok p) :
    ∃ sets raws, bs = packetBytes p.header sets ∧
      (decode exporter cache bs).cache =
        cache.insertAll exporter p.header.source (raws.flatMap RawSet.announced) ∧
      List.Forall₂ (fun s r => WireSet.content s = .ok r) sets raws ∧
      RawSet.resolveAll ((decode exporter cache bs).cache.require exporter p.header.source) raws =
        .ok p.flowSets := by
  rcases hheader : Header.read.run bs with ⟨e | header, rest⟩
  · rw [decode_of_no_header hheader] at h
    cases h
  · obtain ⟨hversion, rfl⟩ := (Header.read_exact _ _ _).mp hheader
    obtain ⟨sets, raws, tail, rfl, hraws, htail⟩ := RawSet.exists_cut rest
    rcases htail with rfl | ⟨e, left, hbreaks⟩
    · rw [List.append_nil] at h ⊢
      obtain ⟨hcache, hanswer⟩ := decode_whole exporter cache hversion hraws
      obtain ⟨fs, hfs, hp⟩ := bind_eq_ok.mp (hanswer.symm.trans h)
      cases hp
      exact ⟨sets, raws, rfl, hcache, hraws, hfs⟩
    · rw [← List.append_assoc] at h
      cases h.symm.trans (decode_broken exporter cache hversion hraws hbreaks).1

def Packet.HasPlain (p : Packet) (t : Template) : Prop :=
  ∃ ts, FlowSet.templates ts ∈ p.flowSets ∧ t ∈ ts

def Packet.HasOptions (p : Packet) (t : Template) : Prop :=
  ∃ ts, FlowSet.optionsTemplates ts ∈ p.flowSets ∧ t ∈ ts

/-- **The kind of a template is that of its flowset, where scopes are declared.** In a packet that
is decoded no template of a flowset of templates has scopes. One of a flowset of options templates
stands in the packet as it is written, and has scopes exactly when it declares some there. What the
cache finds then it found before, or it is a template of the packet, kept for its exporter and
source under its own id. So a new template with scopes came in a flowset of options templates, and
one without came in a flowset of templates, or among options templates and declares no scopes. -/
theorem decode_kinds (exporter : Ip) (cache : TemplateCache) (bs : Octets) (p : Packet)
    (h : (decode exporter cache bs).answer = .ok p) :
    (∀ t, p.HasPlain t → t.isOptions = false) ∧
    (∀ t, p.HasOptions t → t.encodeOptions <:+: bs ∧
      (t.isOptions = true ↔ declaredScopes t.encodeOptions ≠ 0)) ∧
    ∀ other source id t, (decode exporter cache bs).cache.get? other source id = some t →
      cache.get? other source id = some t ∨
        other = exporter ∧ source = p.header.source ∧ id = t.id ∧
          (t.isOptions = true → p.HasOptions t) ∧
          (t.isOptions = false →
            p.HasPlain t ∨ p.HasOptions t ∧ declaredScopes t.encodeOptions = 0) := by
  obtain ⟨sets, raws, rfl, hcache, hraws, hresolve⟩ := exists_sets h
  obtain ⟨hplain, hoptions⟩ := RawSet.mem_resolveAll hresolve
  have hpacket : sets.flatMap WireSet.encode <:+: packetBytes p.header sets :=
    (List.suffix_append _ _).isInfix
  have plain : ∀ t, p.HasPlain t → t.isOptions = false := by
    rintro t ⟨ts, hts, ht⟩
    obtain ⟨body, -, hspelled⟩ := exists_spelled hraws ((hplain ts).mp hts)
    exact (hspelled.1 t ht).isOptions_eq
  have optional : ∀ t, p.HasOptions t → t.encodeOptions <:+: packetBytes p.header sets ∧
      (t.isOptions = true ↔ declaredScopes t.encodeOptions ≠ 0) := by
    rintro t ⟨ts, hts, ht⟩
    obtain ⟨body, hbody, hspelled⟩ := exists_spelled hraws ((hoptions ts).mp hts)
    exact ⟨(hspelled.isInfix ht).trans (hbody.trans hpacket), (hspelled.1 t ht).isOptions_iff⟩
  refine ⟨plain, optional, fun other source id t hfound => ?_⟩
  rw [hcache] at hfound
  refine (TemplateCache.get?_insertAll_cases hfound).imp_right ?_
  rintro ⟨hannounced, rfl, rfl, rfl⟩
  have hkinds : p.HasPlain t ∨ p.HasOptions t := by
    obtain ⟨r, hr, ht⟩ := List.mem_flatMap.mp hannounced
    cases r with
    | templates ts => exact .inl ⟨ts, (hplain ts).mpr hr, ht⟩
    | optionsTemplates ts => exact .inr ⟨ts, (hoptions ts).mpr hr, ht⟩
    | data | reserved => cases ht
  refine ⟨rfl, rfl, rfl, fun hscopes => ?_, fun hnone => hkinds.imp_right fun ht => ⟨ht, ?_⟩⟩
  · refine hkinds.resolve_left fun ht => ?_
    cases hscopes.symm.trans (plain t ht)
  · by_contra hdeclared
    cases hnone.symm.trans ((optional t ht).2.mpr hdeclared)

/-- Flows, and sampling options for the system and without a scope. -/
theorem decode_kinds_mixed :
    let router := Ip.v4 (Block.ofNat 4 0x0a000001)
    let flows : Template := ⟨256, [], [⟨.inBytes, 4⟩]⟩
    let system : Template := ⟨257, [⟨.system, 4⟩], [⟨.samplingInterval, 4⟩]⟩
    let unscoped : Template := ⟨258, [], [⟨.samplingInterval, 4⟩]⟩
    let sets : List FlowSet := [.templates [flows], .optionsTemplates [system, unscoped]]
    let header : Header := ⟨9, 3, 0, 0, 0, 7⟩
    let bytes := packetBytes header [⟨0, flows.encodePlain, by decide⟩,
      ⟨1, system.encodeOptions ++ unscoped.encodeOptions, by decide⟩]
    let d := decode router (.empty 8) bytes
    d.answer = .ok ⟨header, sets⟩ ∧ flows.isOptions = false ∧
      (system.isOptions = true ↔ declaredScopes system.encodeOptions ≠ 0) ∧
      (unscoped.isOptions = true ↔ declaredScopes unscoped.encodeOptions ≠ 0) ∧
      (∀ t, d.cache.get? router 7 257 = some t → t.isOptions = true →
        Packet.HasOptions ⟨header, sets⟩ t) := by
  intro router flows system unscoped sets header bytes d
  have haccepted : d.answer = .ok ⟨header, sets⟩ := by decide
  obtain ⟨plain, options, found⟩ := decode_kinds router (.empty 8) bytes ⟨header, sets⟩ haccepted
  have hfirst : FlowSet.templates [flows] ∈ sets := List.mem_cons_self
  have hsecond : FlowSet.optionsTemplates [system, unscoped] ∈ sets := by simp [sets]
  refine ⟨haccepted, plain flows ⟨_, hfirst, by simp⟩, (options system ⟨_, hsecond, by simp⟩).2,
    (options unscoped ⟨_, hsecond, by simp⟩).2, fun t ht hscopes => ?_⟩
  have hnew : (TemplateCache.empty 8).get? router 7 257 = none := rfl
  rcases found router 7 257 t ht with hold | ⟨-, -, -, hoptions, -⟩
  · cases hnew.symm.trans hold
  · exact hoptions hscopes

/-- An options template that declares no scopes is accepted, and is taken for a plain one. -/
theorem decode_kinds_fails_unscoped :
    ¬ ∀ (exporter : Ip) (cache : TemplateCache) (bs : Octets) (p : Packet),
      (decode exporter cache bs).answer = .ok p →
        (∀ t, p.HasOptions t → t.isOptions = true) ∧ ∀ t, p.HasPlain t → t.isOptions = false := by
  intro h
  let router := Ip.v4 (Block.ofNat 4 0xc000020a)
  let t : Template := ⟨256, [], [⟨.samplingInterval, 4⟩]⟩
  let p : Packet := ⟨⟨9, 1, 0, 0, 0, 7⟩, [.optionsTemplates [t]]⟩
  let bytes : Octets := [0, 9, 0, 1, 0, 0, 0, 0, 0, 0, 0, 0, 0, 0, 0, 0, 0, 0, 0, 7,
    0, 1, 0, 14, 1, 0, 0, 0, 0, 4, 0, 34, 0, 4]
  have haccepted : (decode router (.empty 4096) bytes).answer = .ok p := by decide
  have hoptions : p.HasOptions t := ⟨[t], List.mem_cons_self, List.mem_cons_self⟩
  have hnone : t.isOptions = false := rfl
  cases hnone.symm.trans ((h router (.empty 4096) bytes p haccepted).1 t hoptions)

end Telemetry.Netflow
