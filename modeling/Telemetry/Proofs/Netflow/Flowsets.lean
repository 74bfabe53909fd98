import Telemetry.Netflow.Packet
import Telemetry.Proofs.Wire.Pieces

/-!
Packets as flowsets.

A flowset as bytes is an id and a body, and what the body holds does not move the flowsets behind
it. So a packet that is a header and flowsets is decoded flowset by flowset: the templates of those
up to the first that fails go to the cache, in their order, and if none fails the others are decoded
with what the cache then knows.
-/

namespace Telemetry.Netflow

open Wire Reader

variable {bs rest : Octets}

namespace Header

def encode (h : Header) : Octets :=
  Octets.ofUInt16 h.version ++ Octets.ofUInt16 h.count ++ Octets.ofUInt32 h.uptime ++
    Octets.ofUInt32 h.seconds ++ Octets.ofUInt32 h.sequence ++ Octets.ofUInt32 h.source

lemma read_exact : Exact read (·.version = version9) encode := by
  intro bs h rest
  simp only [read, run_bind_ok, run_u16_ok]
  refine ⟨?_, ?_⟩
  · rintro ⟨version, mid, rfl, hread⟩
    split_ifs at hread with hversion
    · simp at hread
    · simp only [run_bind_ok, run_need_ok, run_u16_ok, run_u32_ok, run_pure_ok] at hread
      obtain ⟨_, _, ⟨-, rfl⟩, count, _, rfl, uptime, _, rfl, seconds, _, rfl, sequence, _, rfl,
        source, _, rfl, rfl, rfl⟩ := hread
      exact ⟨not_not.mp hversion, by simp only [encode, List.append_assoc]⟩
  · rintro ⟨hversion, rfl⟩
    simp only [encode, List.append_assoc]
    refine ⟨h.version, _, rfl, ?_⟩
    rw [if_neg (not_not.mpr hversion)]
    simp only [run_bind_ok, run_need_ok, run_u16_ok, run_u32_ok, run_pure_ok]
    refine ⟨(), _, ⟨?_, rfl⟩, h.count, _, rfl, h.uptime, _, rfl, h.seconds, _, rfl, h.sequence, _,
      rfl, h.source, _, rfl, rfl, rfl⟩
    simp [Octets.ofUInt16, Octets.ofUInt32]
    omega

end Header

/-- A flowset as bytes: an id, and a body whose length the flowset can say. -/
structure WireSet where
  id : UInt16
  body : Octets
  fits : RawSet.headLength + body.length ≤ 65535
deriving DecidableEq

namespace WireSet

def encode (s : WireSet) : Octets :=
  Octets.ofUInt16 s.id ++ Octets.ofNat 2 (RawSet.headLength + s.body.length) ++ s.body

/-- What the first pass makes of the flowset. -/
def content (s : WireSet) : Except Error RawSet :=
  ((mapError Error.inSet (RawSet.ofBody s.id)).run s.body).1

/-- The id has no meaning. -/
def isReserved (s : WireSet) : Bool := 2 ≤ s.id.toNat ∧ s.id.toNat < Template.leastId

def announces (s : WireSet) : Bool := s.id = 0 ∨ s.id = 1

lemma isReserved_of_announces {s : WireSet} (h : s.announces = true) : s.isReserved = false := by
  simp only [announces, decide_eq_true_eq] at h
  rcases h with h | h <;> simp [isReserved, h]

lemma read_encode (s : WireSet) (rest : Octets) :
    RawSet.read.run (s.encode ++ rest) = (s.content, rest) := by
  have hlength : (UInt16.ofNat (RawSet.headLength + s.body.length)).toNat =
      RawSet.headLength + s.body.length := UInt16.toNat_ofNat_of_lt' (Nat.lt_succ_of_le s.fits)
  have hwritten : s.encode ++ rest = Octets.ofUInt16 s.id ++
      (Octets.ofUInt16 (UInt16.ofNat (RawSet.headLength + s.body.length)) ++ (s.body ++ rest)) := by
    simp only [encode, Octets.ofUInt16, hlength, List.append_assoc]
  rw [hwritten, RawSet.read, run_bind_u16, run_bind_u16, hlength, if_neg (by omega),
    run_bind_of_ok (run_slice_ok.mpr ⟨by omega, rfl⟩)]
  exact run_inside_fst _ _

lemma cuts : Cuts notEnded RawSet.read encode content where
  nonempty s := by
    intro h
    have := congrArg List.length h
    simp [encode, Octets.ofUInt16] at this
  more_write s rest := by simp [encode, notEnded, Octets.ofUInt16, Octets.ofNat]
  run_write := read_encode

/-! ### The three kinds -/

lemma content_of_reserved {s : WireSet} (h : s.isReserved = true) :
    s.content = .ok (.reserved s.id) := by
  simp only [isReserved, decide_eq_true_eq] at h
  have hzero : s.id ≠ 0 := by rintro hid; simp [hid] at h
  have hone : s.id ≠ 1 := by rintro hid; simp [hid] at h
  rw [content, RawSet.ofBody, if_neg hzero, if_neg hone, if_pos h.2]
  rfl

/-- What is announced depends on the flowsets of templates alone. -/
lemma content_of_silent {s : WireSet} (h : s.announces = false) :
    ∃ r, s.content = .ok r ∧ r.announced = [] := by
  simp only [announces, decide_eq_false_iff_not, not_or] at h
  rw [content, RawSet.ofBody, if_neg h.1, if_neg h.2]
  split_ifs
  · exact ⟨.reserved s.id, rfl, rfl⟩
  · exact ⟨.data s.id s.body, rfl, rfl⟩

lemma content_ne_reserved {s : WireSet} (h : s.isReserved = false) (id : UInt16) :
    s.content ≠ .ok (.reserved id) := by
  intro hcontent
  have hrun : (RawSet.ofBody s.id).run s.body =
      (.ok (.reserved id), ((mapError Error.inSet (RawSet.ofBody s.id)).run s.body).2) :=
    run_mapError_ok.mp (Prod.ext hcontent rfl)
  unfold RawSet.ofBody at hrun
  split_ifs at hrun with hzero hone hleast
  · simp at hrun
  · simp at hrun
  · have : 2 ≤ s.id.toNat := by
      have hzero' : s.id.toNat ≠ 0 := fun h => hzero (UInt16.toNat_inj.mp h)
      have hone' : s.id.toNat ≠ 1 := fun h => hone (UInt16.toNat_inj.mp h)
      omega
    simp [isReserved, this, hleast] at h
  · simp at hrun

/-- The flowset decoded with the templates that `find?` knows. -/
def decoded (find? : UInt16 → Except Error Template) (s : WireSet) :
    Except Error (Option FlowSet) := do
  (← s.content).resolve find?

lemma decoded_of_reserved {s : WireSet} (h : s.isReserved = true)
    (find? : UInt16 → Except Error Template) : s.decoded find? = .ok none := by
  rw [decoded, content_of_reserved h]
  rfl

lemma isSome_of_decoded {s : WireSet} (h : s.isReserved = false)
    {find? : UInt16 → Except Error Template} {o : Option FlowSet}
    (hdecoded : s.decoded find? = .ok o) : o.isSome := by
  obtain ⟨r, hr, hresolve⟩ := bind_eq_ok.mp hdecoded
  cases r with
  | templates ts => cases hresolve; rfl
  | optionsTemplates ts => cases hresolve; rfl
  | data id body =>
    obtain ⟨t, -, ho⟩ := bind_eq_ok.mp hresolve
    cases ho
    rfl
  | reserved id => exact absurd hr (content_ne_reserved h id)

/-- The flowsets that are not skipped. -/
def meaningful (sets : List WireSet) : List WireSet := sets.filter fun s => !s.isReserved

/-- Where all flowsets are decoded none fails the first pass: one that is skipped cannot. -/
lemma content_of_decoded {find? : UInt16 → Except Error Template} {sets : List WireSet}
    {fs : List FlowSet}
    (h : List.Forall₂ (fun s f => s.decoded find? = .ok (some f)) (meaningful sets) fs) :
    ∀ s ∈ sets, ∃ r, s.content = .ok r := by
  intro s hs
  cases hreserved : s.isReserved with
  | true => exact ⟨_, content_of_reserved hreserved⟩
  | false =>
    have hcontent : ∀ s ∈ meaningful sets, ∃ r, s.content = .ok r :=
      ((List.forall₂_and_left _ _).mp (h.imp fun s f hf => by
        obtain ⟨r, hr, -⟩ := bind_eq_ok.mp hf
        exact ⟨⟨r, hr⟩, hf⟩)).1
    exact hcontent s (List.mem_filter.mpr ⟨hs, by simp [hreserved]⟩)

end WireSet

/-! ### The passes -/

lemma RawSet.resolveAll_cons_eq (find? : UInt16 → Except Error Template) (set : RawSet)
    (sets : List RawSet) : RawSet.resolveAll find? (set :: sets) = do
      let o ← set.resolve find?
      return o.toList ++ (← RawSet.resolveAll find? sets) := by
  rw [resolveAll, List.mapM_cons, resolveAll]
  cases set.resolve find? with
  | error e => rfl
  | ok o =>
    cases sets.mapM (resolve find?) with
    | error e => rfl
    | ok os => cases o <;> rfl

lemma RawSet.resolveAll_cons {find? : UInt16 → Except Error Template} {r : RawSet}
    {rs : List RawSet} {fs : List FlowSet} : RawSet.resolveAll find? (r :: rs) = .ok fs ↔
      ∃ o gs, r.resolve find? = .ok o ∧ RawSet.resolveAll find? rs = .ok gs ∧
        fs = o.toList ++ gs := by
  rw [resolveAll_cons_eq]
  simp only [bind_eq_ok, pure_eq_ok]
  refine ⟨?_, ?_⟩
  · rintro ⟨o, ho, gs, hgs, rfl⟩
    exact ⟨o, gs, ho, hgs, rfl⟩
  · rintro ⟨o, gs, ho, hgs, rfl⟩
    exact ⟨o, ho, gs, hgs, rfl⟩

lemma resolveAll_eq_ok {find? : UInt16 → Except Error Template} {sets : List WireSet}
    {rs : List RawSet} {fs : List FlowSet}
    (h : List.Forall₂ (fun s r => s.content = .ok r) sets rs) :
    RawSet.resolveAll find? rs = .ok fs ↔
      List.Forall₂ (fun s f => s.decoded find? = .ok (some f)) (WireSet.meaningful sets) fs := by
  induction h generalizing fs with
  | nil =>
    have : RawSet.resolveAll find? [] = .ok [] := rfl
    simp [this, WireSet.meaningful, eq_comm]
  | @cons s r sets rs hs _ ih =>
    have hdecoded : s.decoded find? = r.resolve find? := by rw [WireSet.decoded, hs]; rfl
    rw [RawSet.resolveAll_cons]
    cases hreserved : s.isReserved with
    | true =>
      have hnone := hdecoded.symm.trans (WireSet.decoded_of_reserved hreserved find?)
      simp only [WireSet.meaningful, List.filter_cons, hreserved, hnone, Except.ok.injEq] at ih ⊢
      simp [ih]
    | false =>
      have hsome : ∀ o, r.resolve find? = .ok o → o.isSome := fun o ho =>
        WireSet.isSome_of_decoded hreserved (hdecoded.trans ho)
      simp only [WireSet.meaningful, List.filter_cons, hreserved, Bool.not_false, if_true,
        List.forall₂_cons_left_iff] at ih ⊢
      refine ⟨?_, ?_⟩
      · rintro ⟨o, gs, ho, hgs, rfl⟩
        obtain ⟨f, rfl⟩ := Option.isSome_iff_exists.mp (hsome o ho)
        exact ⟨f, gs, hdecoded.trans ho, ih.mp hgs, rfl⟩
      · rintro ⟨f, gs, hf, hgs, rfl⟩
        exact ⟨some f, gs, hdecoded.symm.trans hf, ih.mpr hgs, rfl⟩

namespace TemplateCache

def insertAll (c : TemplateCache) (exporter : Ip) (source : UInt32) (ts : List Template) :
    TemplateCache :=
  ts.foldl (fun c t => (c.insert exporter source t).2) c

lemma insertAll_append (c : TemplateCache) (exporter : Ip) (source : UInt32)
    (ts us : List Template) : c.insertAll exporter source (ts ++ us) =
      (c.insertAll exporter source ts).insertAll exporter source us :=
  List.foldl_append ..

end TemplateCache

namespace Keeping

variable {exporter : Ip} {source : UInt32}

lemma cache_register (k : Keeping) (t : Template) :
    (k.register exporter source t).cache = (k.cache.insert exporter source t).2 := by
  unfold register
  dsimp only
  split_ifs <;> rfl

lemma cache_foldl {step : Keeping → Template → Keeping}
    (hstep : ∀ k t, (step k t).cache = (k.cache.insert exporter source t).2) (ts : List Template)
    (k : Keeping) : (ts.foldl step k).cache = k.cache.insertAll exporter source ts := by
  induction ts generalizing k with
  | nil => rfl
  | cons t ts ih =>
    rw [List.foldl_cons, ih, hstep]
    rfl

lemma cache_add (k : Keeping) (set : RawSet) :
    (k.add exporter source set).cache = k.cache.insertAll exporter source set.announced := by
  cases set with
  | templates ts =>
    refine cache_foldl (fun k t => ?_) ts k
    exact cache_register _ t
  | optionsTemplates ts => exact cache_foldl cache_register ts k
  | data id body => rfl
  | reserved id => rfl

/-- The first pass offers the templates of the flowsets, in the order of the packet. -/
lemma cache_foldl_add (sets : List RawSet) (k : Keeping) :
    (sets.foldl (add exporter source) k).cache =
      k.cache.insertAll exporter source (sets.flatMap RawSet.announced) := by
  induction sets generalizing k with
  | nil => rfl
  | cons set sets ih =>
    rw [List.foldl_cons, ih, cache_add, List.flatMap_cons, TemplateCache.insertAll_append]

end Keeping

/-! ### Packets -/

section Decoding

variable {exporter : Ip} {cache : TemplateCache} {header : Header}

lemma decode_of_no_header {e : Error} (h : Header.read.run bs = (.error e, rest)) :
    decode exporter cache bs = ⟨.error e, rest, cache, []⟩ := by
  rw [decode, h]

/-- What a packet leaves in the cache, also one that fails behind its header. -/
lemma cache_decode_of_header (h : Header.read.run bs = (.ok header, rest)) :
    (decode exporter cache bs).cache = cache.insertAll exporter header.source
      ((RawSet.gather rest).items.flatMap RawSet.announced) := by
  rw [decode, h]
  exact Keeping.cache_foldl_add _ _

lemma answer_decode_of_header (h : Header.read.run bs = (.ok header, rest)) :
    (decode exporter cache bs).answer = match (RawSet.gather rest).failure with
      | some e => .error e
      | none => do
        let find? := (decode exporter cache bs).cache.require exporter header.source
        return ⟨header, ← RawSet.resolveAll find? (RawSet.gather rest).items⟩ := by
  unfold decode
  generalize Header.read.run bs = r at h ⊢
  subst h
  rfl

end Decoding

def packetBytes (header : Header) (sets : List WireSet) : Octets :=
  header.encode ++ sets.flatMap WireSet.encode

variable {exporter : Ip} {cache : TemplateCache} {header : Header} {sets : List WireSet}

/-- The templates of the flowsets in front of the first that fails. -/
def announcedBy (sets : List WireSet) : List Template :=
  (upToFailure WireSet.content sets).1.flatMap RawSet.announced

lemma run_header (hversion : header.version = Header.version9) :
    Header.read.run (packetBytes header sets) = (.ok header, sets.flatMap WireSet.encode) :=
  (Header.read_exact _ _ _).mpr ⟨hversion, rfl⟩

lemma decode_of_version (hversion : header.version ≠ Header.version9) :
    (decode exporter cache (packetBytes header sets)).answer =
        .error (.unsupportedVersion header.version) ∧
      (decode exporter cache (packetBytes header sets)).cache = cache := by
  have hwritten : packetBytes header sets = Octets.ofUInt16 header.version ++
      (packetBytes header sets).drop 2 := by
    simp [packetBytes, Header.encode, Octets.ofUInt16]
  have hrun : Header.read.run (packetBytes header sets) =
      (.error (.unsupportedVersion header.version), (packetBytes header sets).drop 2) := by
    rw [hwritten, Header.read, run_bind_u16, if_pos hversion, ← hwritten]
    rfl
  rw [decode, hrun]
  exact ⟨rfl, rfl⟩

lemma cache_decode (hversion : header.version = Header.version9) :
    (decode exporter cache (packetBytes header sets)).cache =
      cache.insertAll exporter header.source (announcedBy sets) := by
  have ended : notEnded [] = false := rfl
  obtain ⟨hitems, -, -⟩ := WireSet.cuts.gather ended sets
  rw [List.append_nil] at hitems
  rw [cache_decode_of_header (run_header hversion), RawSet.gather, hitems]
  rfl

/-- A packet is decoded when each of its flowsets that is not skipped is, with what the cache knows
after the packet. -/
lemma answer_decode (hversion : header.version = Header.version9) {p : Packet} :
    let d := decode exporter cache (packetBytes header sets)
    d.answer = .ok p ↔ p.header = header ∧
      List.Forall₂ (fun s f => s.decoded (d.cache.require exporter header.source) = .ok (some f))
        (WireSet.meaningful sets) p.flowSets := by
  have ended : notEnded [] = false := rfl
  obtain ⟨hitems, hfailure, -⟩ := WireSet.cuts.gather ended sets
  rw [List.append_nil] at hitems hfailure
  obtain ⟨h, fs⟩ := p
  intro d
  rw [answer_decode_of_header (run_header hversion), RawSet.gather, hitems, hfailure]
  generalize d.cache.require exporter header.source = find?
  cases hf : (upToFailure WireSet.content sets).2 with
  | none =>
    simp only [bind_eq_ok, pure_eq_ok, resolveAll_eq_ok (forall₂_upToFailure hf), Packet.mk.injEq]
    refine ⟨?_, ?_⟩
    · rintro ⟨_, hall, rfl, rfl⟩
      exact ⟨rfl, hall⟩
    · rintro ⟨rfl, hall⟩
      exact ⟨fs, hall, rfl, rfl⟩
  | some e =>
    simp only [reduceCtorEq, false_iff, not_and]
    intro _ hall
    rw [upToFailure_eq_none (WireSet.content_of_decoded hall)] at hf
    cases hf

end Telemetry.Netflow
