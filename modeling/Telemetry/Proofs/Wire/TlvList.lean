import Telemetry.Proofs.Wire.Reading

/-!
What lists of TLVs are read.

A list is read when it is the written forms of entries whose values fit the length field, up to the
end. A list of typed entries is read back when each entry is; an entry that does not fit is written
with its length reduced, and whoever reads it meets only the beginning of its value.
-/

namespace Telemetry.Wire.Tlv

open Reader

variable {ε α β γ : Type} {bs rest : Octets}

def Fits (t : Tlv) : Prop := t.value.length ≤ 65535

lemma encode_ne_nil (t : Tlv) : t.encode ≠ [] := by
  intro h
  have := congrArg List.length h
  simp [encode, Octets.ofUInt16] at this

lemma read_exact [HasFault ε] (message : String) :
    Exact (read message : Reader ε Tlv) Fits encode := by
  intro bs t rest
  simp only [read, run_bind_ok, run_rest_ok]
  refine ⟨?_, ?_⟩
  · rintro ⟨_, _, ⟨rfl, rfl⟩, h⟩
    split_ifs at h
    · simp at h
    · simp only [run_bind_ok, run_u16_ok, run_slice_ok, run_pure_ok] at h
      obtain ⟨type, _, rfl, length, _, rfl, value, _, ⟨hlen, rfl⟩, rfl, rfl⟩ := h
      have := length.toNat_lt
      refine ⟨by simp only [Fits]; omega, ?_⟩
      simp [encode, Octets.ofUInt16, hlen]
  · rintro ⟨hfits, rfl⟩
    have henough : Octets.holds 4 (t.encode ++ rest) = true := by
      rw [Octets.holds_iff]
      simp [encode, Octets.ofUInt16]
      omega
    have hlength : (UInt16.ofNat t.value.length).toNat = t.value.length :=
      UInt16.toNat_ofNat_of_lt' (Nat.lt_succ_of_le hfits)
    have hwritten : t.encode ++ rest = Octets.ofUInt16 t.type ++
        (Octets.ofUInt16 (UInt16.ofNat t.value.length) ++ (t.value ++ rest)) := by
      simp [encode, Octets.ofUInt16, hlength]
    refine ⟨_, _, ⟨rfl, rfl⟩, ?_⟩
    simp only [henough, Bool.not_true, Bool.false_eq_true, if_false, run_bind_ok, run_u16_ok,
      run_slice_ok, run_pure_ok]
    exact ⟨_, _, hwritten, _, _, rfl, _, _, ⟨hlength.symm, rfl⟩, rfl, rfl⟩

lemma run_readAll [HasFault ε] {message : String} {ts : List Tlv} :
    (readAll message : Reader ε (List Tlv)).run bs = (.ok ts, rest) ↔
      rest = [] ∧ (∀ t ∈ ts, t.Fits) ∧ bs = ts.flatMap encode :=
  (read_exact message).run_untilEnd encode_ne_nil

/-! ### Typed entries -/

lemma ofNat_two_mod {m n : Nat} (h : Octets.ofNat 2 m = Octets.ofNat 2 n) :
    m % 65536 = n % 65536 := by
  have := congrArg Octets.value h
  rwa [Octets.value_ofNat, Octets.value_ofNat] at this

/-- Behind an entry that does not fit there is another reading, of the beginning of its value. -/
lemma encode_append_cases {t u : Tlv} {a b : Octets} (hu : u.Fits)
    (h : t.encode ++ a = u.encode ++ b) :
    u.type = t.type ∧ u.value = t.value.take (t.value.length % 65536) ∧
      (t.Fits → u = t ∧ a = b) := by
  have hfits : u.value.length ≤ 65535 := hu
  simp only [encode, List.append_assoc, Octets.ofUInt16] at h
  obtain ⟨htype, h⟩ := List.append_inj h (by simp)
  obtain ⟨hlength, hvalue⟩ := List.append_inj h (by simp)
  have htype : u.type = t.type := by
    have hmod := ofNat_two_mod htype
    rw [Nat.mod_eq_of_lt t.type.toNat_lt, Nat.mod_eq_of_lt u.type.toNat_lt] at hmod
    exact UInt16.toNat_inj.mp hmod.symm
  have hlen : u.value.length = t.value.length % 65536 := by
    rw [ofNat_two_mod hlength]
    omega
  have htake : u.value = t.value.take (t.value.length % 65536) := by
    have hfront : (t.value ++ a).take (t.value.length % 65536) =
        t.value.take (t.value.length % 65536) :=
      List.take_append_of_le_length (Nat.mod_le ..)
    rw [← hfront, hvalue, ← hlen, List.take_left']
    rfl
  refine ⟨htype, htake, fun ht => ?_⟩
  have ht' : t.value.length ≤ 65535 := ht
  have hsame : u.value = t.value := by
    rw [htake, Nat.mod_eq_of_lt (by omega), List.take_length]
  rw [hsame] at hvalue
  refine ⟨?_, List.append_cancel_left hvalue⟩
  calc u = ⟨u.type, u.value⟩ := rfl
    _ = t := by rw [htype, hsame]

lemma mapM_cons_ok {f : α → Except ε β} {a : α} {as : List α} {bs : List β} :
    (a :: as).mapM f = .ok bs ↔
      ∃ b cs, f a = .ok b ∧ as.mapM f = .ok cs ∧ bs = b :: cs := by
  simp only [List.mapM_cons, bind_eq_ok, pure_eq_ok]
  refine ⟨?_, ?_⟩
  · rintro ⟨b, hb, cs, hcs, rfl⟩
    exact ⟨b, cs, hb, hcs, rfl⟩
  · rintro ⟨b, cs, hb, hcs, rfl⟩
    exact ⟨b, hb, cs, hcs, rfl⟩

lemma map_eq_of_mapM {f : α → Except ε β} {g : β → γ} {h : α → γ}
    (each : ∀ a b, f a = .ok b → g b = h a) {as : List α} {bs : List β}
    (hread : as.mapM f = .ok bs) : bs.map g = as.map h := by
  induction as generalizing bs with
  | nil => cases hread; rfl
  | cons a as ih =>
    obtain ⟨b, bs, hb, hbs, rfl⟩ := mapM_cons_ok.mp hread
    rw [List.map_cons, List.map_cons, each a b hb, ih hbs]

/-- Entries that are written again in another form, and begin with what they were, are what they
were, if a form that only begins with the same value is the same. -/
lemma map_eq_self_of_encode {f : Tlv → Tlv}
    (same : ∀ t, t.value = (f t).value.take ((f t).value.length % 65536) → f t = t)
    {ts : List Tlv} (hfits : ∀ t ∈ ts, t.Fits) {suffix : Octets}
    (h : (ts.map f).flatMap encode = ts.flatMap encode ++ suffix) :
    ts.map f = ts ∧ suffix = [] := by
  induction ts with
  | nil => exact ⟨rfl, by simpa using h.symm⟩
  | cons t ts ih =>
    simp only [List.map_cons, List.flatMap_cons, List.append_assoc] at h
    have ht := hfits t (by simp)
    obtain ⟨-, hvalue, hrest⟩ := encode_append_cases ht h
    have hself := same t hvalue
    obtain ⟨hts, hsuffix⟩ := ih (fun u hu => hfits u (by simp [hu])) (hrest (hself.symm ▸ ht)).2
    exact ⟨by rw [List.map_cons, hself, hts], hsuffix⟩

variable {toTlv : α → Tlv} {ofTlv : Tlv → Except ε α} {good : α → Prop} {xs : List α}

lemma mapM_toTlv (back : ∀ x, good x → (toTlv x).Fits ∧ ofTlv (toTlv x) = .ok x)
    (h : ∀ x ∈ xs, good x) : (xs.map toTlv).mapM ofTlv = .ok xs := by
  induction xs with
  | nil => rfl
  | cons x xs ih =>
    rw [List.map_cons, mapM_cons_ok]
    exact ⟨x, xs, (back x (h x (by simp))).2, ih fun y hy => h y (by simp [hy]), rfl⟩

/-- A list that is read back has good entries only, where the beginning of a value that does not
fit gives another entry. -/
lemma good_of_mapM (back : ∀ x, good x → (toTlv x).Fits ∧ ofTlv (toTlv x) = .ok x)
    (only : ∀ x, ofTlv ⟨(toTlv x).type, (toTlv x).value.take ((toTlv x).value.length % 65536)⟩ =
      .ok x → good x) {ts : List Tlv} (hfits : ∀ t ∈ ts, t.Fits)
    (hsame : (xs.flatMap fun x => (toTlv x).encode) = ts.flatMap encode)
    (hread : ts.mapM ofTlv = .ok xs) : ∀ x ∈ xs, good x := by
  induction ts generalizing xs with
  | nil => cases hread; simp
  | cons t ts ih =>
    obtain ⟨x, ys, hx, hys, rfl⟩ := mapM_cons_ok.mp hread
    simp only [List.flatMap_cons] at hsame
    obtain ⟨htype, hvalue, hrest⟩ := encode_append_cases (hfits t (by simp)) hsame
    have ht : t = ⟨(toTlv x).type, (toTlv x).value.take ((toTlv x).value.length % 65536)⟩ :=
      calc t = ⟨t.type, t.value⟩ := rfl
        _ = _ := by rw [htype, hvalue]
    have hgood : good x := only x (ht ▸ hx)
    -- only now that the first entry is known to fit do the others begin where they were written
    have htail := (hrest (back x hgood).1).2
    intro y hy
    rcases List.mem_cons.mp hy with rfl | hy
    · exact hgood
    · exact ih (fun u hu => hfits u (by simp [hu])) htail hys y hy

lemma run_typed [HasFault ε] {message : String} :
    (do let ts ← readAll message; ofExcept (ts.mapM ofTlv) : Reader ε (List α)).run bs =
        (.ok xs, rest) ↔
      rest = [] ∧ ∃ ts : List Tlv, (∀ t ∈ ts, t.Fits) ∧ bs = ts.flatMap encode ∧
        ts.mapM ofTlv = .ok xs := by
  simp only [run_bind_ok, run_readAll, run_ofExcept_ok]
  refine ⟨?_, ?_⟩
  · rintro ⟨ts, _, ⟨rfl, hfits, hbs⟩, hread, rfl⟩
    exact ⟨rfl, ts, hfits, hbs, hread⟩
  · rintro ⟨rfl, ts, hfits, hbs, hread⟩
    exact ⟨ts, [], ⟨rfl, hfits, hbs⟩, hread, rfl⟩

/-- **A list of typed entries is read back exactly when every entry is good.** -/
lemma run_typed_write [HasFault ε] {message : String}
    (back : ∀ x, good x → (toTlv x).Fits ∧ ofTlv (toTlv x) = .ok x)
    (only : ∀ x, ofTlv ⟨(toTlv x).type, (toTlv x).value.take ((toTlv x).value.length % 65536)⟩ =
      .ok x → good x) :
    (do let ts ← readAll message; ofExcept (ts.mapM ofTlv) : Reader ε (List α)).run
        (xs.flatMap fun x => (toTlv x).encode) = (.ok xs, rest) ↔
      rest = [] ∧ ∀ x ∈ xs, good x := by
  rw [run_typed]
  refine and_congr_right fun _ => ⟨?_, fun h => ?_⟩
  · rintro ⟨ts, hfits, hsame, hread⟩
    exact good_of_mapM back only hfits hsame hread
  · refine ⟨xs.map toTlv, fun t ht => ?_, by rw [List.flatMap_map], mapM_toTlv back h⟩
    obtain ⟨x, hx, rfl⟩ := List.mem_map.mp ht
    exact (back x (h x hx)).1

end Telemetry.Wire.Tlv
