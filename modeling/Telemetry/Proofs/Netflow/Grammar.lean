import Telemetry.Proofs.Netflow.Cutting

/-!
How templates are written.

A flowset of templates is templates in a row, and behind them fewer bytes than the head of another
one has. So the parser may go on as long as such a head is left, and nothing that it reads is
filling. Both flowsets are described here by what they are written as, and the parser is shown to
accept what is written so and nothing else: a count that leads out of the flowset, a length that is
no multiple of four, an unknown code or a template that nobody can use make all of it an error.
-/

namespace Telemetry.Netflow

open Wire Reader

variable {bs rest : Octets} {ts : List Template}

/-! ### Fields and scopes -/

def FieldSpec.encode (f : FieldSpec) : Octets :=
  Octets.ofNat 2 (Code.number f.field) ++ Octets.ofUInt16 f.length

def ScopeSpec.encode (s : ScopeSpec) : Octets :=
  Octets.ofNat 2 (Code.number s.scope) ++ Octets.ofUInt16 s.length

@[simp] lemma FieldSpec.length_encode (f : FieldSpec) : f.encode.length = 4 := by
  simp [encode, Octets.ofUInt16]

@[simp] lemma ScopeSpec.length_encode (s : ScopeSpec) : s.encode.length = 4 := by
  simp [encode, Octets.ofUInt16]

lemma FieldSpec.read_exact : Exact read (fun _ => True) encode := by
  have small : ∀ a : FlowField, Code.number a < 256 ^ 2 := Code.number_lt (by decide)
  intro bs f rest
  simp only [read, run_bind_ok, run_code_ok, run_u16_ok, run_pure_ok, encode, true_and]
  refine ⟨?_, ?_⟩
  · rintro ⟨field, _, ⟨-, rfl⟩, length, _, rfl, rfl, rfl⟩
    rw [List.append_assoc]
  · rintro rfl
    exact ⟨f.field, _, ⟨small _, List.append_assoc ..⟩, f.length, rest, rfl, rfl, rfl⟩

lemma ScopeSpec.read_exact : Exact read (fun _ => True) encode := by
  have small : ∀ a : ScopeType, Code.number a < 256 ^ 2 := Code.number_lt (by decide)
  intro bs s rest
  simp only [read, run_bind_ok, run_code_ok, run_u16_ok, run_pure_ok, encode, true_and]
  refine ⟨?_, ?_⟩
  · rintro ⟨scope, _, ⟨-, rfl⟩, length, _, rfl, rfl, rfl⟩
    rw [List.append_assoc]
  · rintro rfl
    exact ⟨s.scope, _, ⟨small _, List.append_assoc ..⟩, s.length, rest, rfl, rfl, rfl⟩

namespace Template

/-! ### Templates -/

/-- A plain template as bytes: its id, how many fields it has, and these. -/
def encodePlain (t : Template) : Octets :=
  Octets.ofUInt16 t.id ++ Octets.ofNat 2 t.fields.length ++ t.fields.flatMap FieldSpec.encode

/-- An options template as bytes: its id, how many bytes its scopes and its fields take, and
these. -/
def encodeOptions (t : Template) : Octets :=
  Octets.ofUInt16 t.id ++ Octets.ofNat 2 (4 * t.scopes.length) ++
    Octets.ofNat 2 (4 * t.fields.length) ++ t.scopes.flatMap ScopeSpec.encode ++
    t.fields.flatMap FieldSpec.encode

/-- The template is usable, it has no scopes, and its count can be written. -/
structure IsPlain (t : Template) : Prop where
  usable : t.Usable
  scopes : t.scopes = []
  count : t.fields.length < 2 ^ 16

/-- The template is usable, and its lengths can be written. -/
structure IsOptional (t : Template) : Prop where
  usable : t.Usable
  scopes : 4 * t.scopes.length < 2 ^ 16
  fields : 4 * t.fields.length < 2 ^ 16

lemma length_encodePlain (t : Template) : 4 ≤ t.encodePlain.length := by
  simp [encodePlain, Octets.ofUInt16]
  omega

lemma length_encodeOptions (t : Template) : 6 ≤ t.encodeOptions.length := by
  simp [encodeOptions, Octets.ofUInt16]
  omega

lemma readPlain_exact : Exact readPlain IsPlain encodePlain := by
  intro bs t rest
  simp only [readPlain, run_bind_ok, run_u16_ok, FieldSpec.read_exact.run_times, run_ofExcept_ok,
    checked_eq_ok]
  refine ⟨?_, ?_⟩
  · rintro ⟨id, _, rfl, count, _, rfl, fields, _, ⟨hcount, -, rfl⟩, ⟨rfl, husable⟩, rfl⟩
    refine ⟨⟨husable, rfl, hcount ▸ count.toNat_lt⟩, ?_⟩
    simp only [encodePlain, Octets.ofUInt16, hcount, List.append_assoc]
  · rintro ⟨⟨husable, hscopes, hcount⟩, rfl⟩
    obtain ⟨id, scopes, fields⟩ := t
    obtain rfl : scopes = [] := hscopes
    have hlength : (UInt16.ofNat fields.length).toNat = fields.length :=
      UInt16.toNat_ofNat_of_lt' hcount
    refine ⟨id, _, by simp only [encodePlain, List.append_assoc]; rfl, UInt16.ofNat fields.length,
      _, ?_, fields, rest, ⟨hlength.symm, by simp, rfl⟩, ⟨rfl, husable⟩, rfl⟩
    simp only [Octets.ofUInt16, hlength]

/-- A slice is items of four bytes each when it is read as such to its end. -/
lemma run_inside_items {α : Type} {item : Reader Error α} {write : α → Octets}
    (exact : Exact item (fun _ => True) write) (four : ∀ a, (write a).length = 4)
    {slice left : Octets} {items : List α} :
    (inside (untilEnd item) slice).run bs = (.ok (items, left), rest) ↔
      left = [] ∧ slice = items.flatMap write ∧ bs = rest := by
  have nonempty : ∀ a, write a ≠ [] := fun a => List.ne_nil_of_length_pos (by rw [four]; decide)
  rw [run_inside_ok, exact.run_untilEnd nonempty]
  simp [and_assoc]

lemma length_items {α : Type} {write : α → Octets} (four : ∀ a, (write a).length = 4)
    (items : List α) : (items.flatMap write).length = 4 * items.length := by
  simp [List.length_flatMap, four, Nat.mul_comm]

lemma readOptions_exact : Exact readOptions IsOptional encodeOptions := by
  have hscopeBytes := length_items ScopeSpec.length_encode
  have hfieldBytes := length_items FieldSpec.length_encode
  intro bs t rest
  simp only [readOptions, run_bind_ok, run_u16_ok, run_slice_ok, Prod.exists,
    run_inside_items ScopeSpec.read_exact ScopeSpec.length_encode,
    run_inside_items FieldSpec.read_exact FieldSpec.length_encode, run_ofExcept_ok, checked_eq_ok]
  refine ⟨?_, ?_⟩
  · rintro ⟨id, _, rfl, scopeLength, _, rfl, fieldLength, _, rfl, _, _, ⟨hscopes, rfl⟩, scopes, _,
      _, ⟨-, rfl, rfl⟩, _, _, ⟨hfields, rfl⟩, fields, _, _, ⟨-, rfl, rfl⟩, ⟨rfl, husable⟩, rfl⟩
    rw [hscopeBytes] at hscopes
    rw [hfieldBytes] at hfields
    refine ⟨⟨husable, hscopes ▸ scopeLength.toNat_lt, hfields ▸ fieldLength.toNat_lt⟩, ?_⟩
    simp only [encodeOptions, Octets.ofUInt16, hscopes, hfields, List.append_assoc]
  · rintro ⟨⟨husable, hscopes, hfields⟩, rfl⟩
    obtain ⟨id, scopes, fields⟩ := t
    have hscopeLength : (UInt16.ofNat (4 * scopes.length)).toNat = 4 * scopes.length :=
      UInt16.toNat_ofNat_of_lt' hscopes
    have hfieldLength : (UInt16.ofNat (4 * fields.length)).toNat = 4 * fields.length :=
      UInt16.toNat_ofNat_of_lt' hfields
    refine ⟨id, _, by simp only [encodeOptions, List.append_assoc]; rfl,
      UInt16.ofNat (4 * scopes.length), _, by rw [Octets.ofUInt16, hscopeLength],
      UInt16.ofNat (4 * fields.length), _, by rw [Octets.ofUInt16, hfieldLength],
      _, _, ⟨by rw [hscopeBytes, hscopeLength], rfl⟩, scopes, [], _, ⟨rfl, rfl, rfl⟩,
      _, rest, ⟨by rw [hfieldBytes, hfieldLength], rfl⟩, fields, [], _, ⟨rfl, rfl, rfl⟩,
      ⟨rfl, husable⟩, rfl⟩

/-! ### Flowsets of templates -/

/-- The body is written forms of these templates, in a row, and at most so many bytes of filling. -/
def Spells (valid : Template → Prop) (write : Template → Octets) (most : Nat) (body : Octets)
    (ts : List Template) : Prop :=
  (∀ t ∈ ts, valid t) ∧
    ∃ filling : Octets, filling.length ≤ most ∧ body = ts.flatMap write ++ filling

/-- The body of a flowset of templates: less behind them than an id and a count. -/
def SpellsPlain : Octets → List Template → Prop := Spells IsPlain encodePlain 3

def SpellsOptions : Octets → List Template → Prop := Spells IsOptional encodeOptions 5

lemma run_whileLeft_eq_ok {item : Reader Error Template} {valid : Template → Prop}
    {write : Template → Octets} (exact : Exact item valid write) {most : Nat}
    (long : ∀ t, most + 1 ≤ (write t).length) {body : Octets} :
    ((whileLeft (Octets.holds (most + 1)) item).run body).1 = .ok ts ↔
      Spells valid write most body ts := by
  have goes : ∀ t rest, Octets.holds (most + 1) (write t ++ rest) = true := by
    intro t rest
    have := long t
    rw [Octets.holds_iff, List.length_append]
    omega
  have ended : ∀ rest, Octets.holds (most + 1) rest = false ↔ rest.length ≤ most := by
    intro rest
    rw [Bool.eq_false_iff, ne_eq, Octets.holds_iff]
    omega
  have hnone : Octets.holds (most + 1) [] = false := (ended []).mpr (Nat.zero_le most)
  simp only [← exists_run_eq_ok, exact.run_whileLeft goes hnone, ended]
  refine ⟨?_, ?_⟩
  · rintro ⟨filling, hmost, hvalid, hbody⟩
    exact ⟨hvalid, filling, hmost, hbody⟩
  · rintro ⟨hvalid, filling, hmost, hbody⟩
    exact ⟨filling, hmost, hvalid, hbody⟩

lemma run_readAllPlain_eq_ok {body : Octets} :
    (readAllPlain.run body).1 = .ok ts ↔ SpellsPlain body ts :=
  run_whileLeft_eq_ok readPlain_exact length_encodePlain

lemma run_readAllOptions_eq_ok {body : Octets} :
    (readAllOptions.run body).1 = .ok ts ↔ SpellsOptions body ts :=
  run_whileLeft_eq_ok readOptions_exact length_encodeOptions

end Template

open Template

namespace WireSet

variable {s : WireSet}

lemma content_plain (h : s.id = 0) :
    s.content = ((readAllPlain.run s.body).1.map RawSet.templates).mapError Error.inSet := by
  rw [content, run_mapError_fst, RawSet.ofBody, if_pos h, run_wrap_fst]

lemma content_options (h : s.id = 1) :
    s.content =
      ((readAllOptions.run s.body).1.map RawSet.optionsTemplates).mapError Error.inSet := by
  rw [content, run_mapError_fst, RawSet.ofBody, if_neg (by rw [h]; decide), if_pos h, run_wrap_fst]

end WireSet

namespace RawSet

/-- Whatever packet holds a flowset of this id and body, behind flowsets that can be read and in
front of any bytes, fails with the error. -/
def FailsPackets (id : UInt16) (body : Octets) (e : Error) : Prop :=
  ∀ (exporter : Ip) (cache : TemplateCache) (header : Header) (sets : List WireSet) (s : WireSet)
    (rest : Octets), header.version = Header.version9 → (∀ s ∈ sets, ∃ raw, s.content = .ok raw) →
    s.id = id → s.body = body →
    (decode exporter cache (packetBytes header sets ++ (s.encode ++ rest))).answer = .error e

lemma failsPackets {id : UInt16} {body : Octets} {e : Error}
    (h : ∀ s : WireSet, s.id = id → s.body = body → s.content = .error e) :
    FailsPackets id body e := by
  intro exporter cache header sets s rest hversion hsets hid hbody
  have hraws := forall₂_upToFailure (upToFailure_eq_none hsets)
  exact (decode_broken exporter cache hversion hraws (WireSet.breaks (h s hid hbody) rest)).1

end RawSet

lemma Error.isInsufficient_inSet (e : Error) : e.inSet.isInsufficient = false := by
  cases e with
  | wire f => exact Fault.isInsufficient_inSlice _ f
  | _ => rfl

lemma exists_error {α : Type} {answer : Except Error α} {accepts : α → Prop}
    (only : ∀ a, answer = .ok a ↔ accepts a) (h : ∀ a, ¬ accepts a) : ∃ e, answer = .error e := by
  cases answer with
  | error e => exact ⟨e, rfl⟩
  | ok a => exact absurd ((only a).mp rfl) (h a)

/-- **Templates are read from what they are written as, and from nothing else.** The body of a
flowset is read as these templates exactly when it is their written forms in a row and at most three
bytes of filling, or five behind options templates, and each of them is usable and of its kind. Any
other body is an error, of the parser and of every packet in which a flowset holds that body, and it
never says that the packet has not come in full. -/
theorem Template.readAll_grammar (body : Octets) :
    (∀ ts, (readAllPlain.run body).1 = .ok ts ↔ SpellsPlain body ts) ∧
    (∀ ts, (readAllOptions.run body).1 = .ok ts ↔ SpellsOptions body ts) ∧
    ((∀ ts, ¬ SpellsPlain body ts) → ∃ e, (readAllPlain.run body).1 = .error e ∧
      RawSet.FailsPackets 0 body e.inSet ∧ e.inSet.isInsufficient = false) ∧
    ((∀ ts, ¬ SpellsOptions body ts) → ∃ e, (readAllOptions.run body).1 = .error e ∧
      RawSet.FailsPackets 1 body e.inSet ∧ e.inSet.isInsufficient = false) := by
  refine ⟨fun ts => run_readAllPlain_eq_ok, fun ts => run_readAllOptions_eq_ok, fun h => ?_,
    fun h => ?_⟩
  · obtain ⟨e, he⟩ := exists_error (fun _ => run_readAllPlain_eq_ok) h
    refine ⟨e, he, RawSet.failsPackets ?_, e.isInsufficient_inSet⟩
    rintro s hid rfl
    rw [WireSet.content_plain hid, he]
    rfl
  · obtain ⟨e, he⟩ := exists_error (fun _ => run_readAllOptions_eq_ok) h
    refine ⟨e, he, RawSet.failsPackets ?_, e.isInsufficient_inSet⟩
    rintro s hid rfl
    rw [WireSet.content_options hid, he]
    rfl

/-- Three zeros behind a template are filling, and four are the head of a template that has a
reserved id. -/
example :
    let written := Template.encodePlain ⟨256, [], [⟨.inBytes, 4⟩]⟩
    (readAllPlain.run (written ++ Octets.zeros 3)).1 = .ok [⟨256, [], [⟨.inBytes, 4⟩]⟩] ∧
      (readAllPlain.run (written ++ Octets.zeros 4)).1 =
        .error (.invalidTemplate 0 .reservedId) := by
  decide

end Telemetry.Netflow
