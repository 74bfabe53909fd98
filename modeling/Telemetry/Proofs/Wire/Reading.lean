import Telemetry.Octets.Value
import Telemetry.Wire.Tlv

/-!
What a reader accepts.

A reader is `Exact` when it accepts the written forms of the valid values, in front of any bytes,
and nothing else: so it undoes the writer, and the writer undoes it. The fields are exact, and
what is put together from exact readers is taken apart by `run_bind_ok`: a composed reader accepts
what its parts accept one after the other.
-/

namespace Telemetry

namespace Octets

lemma value_lt (bs : Octets) : value bs < 256 ^ bs.length := by
  induction bs using List.reverseRecOn with
  | nil => simp [value]
  | append_singleton bs b ih =>
    have hb : b.toNat < 256 := b.toNat_lt
    rw [value_append_singleton, List.length_append, List.length_singleton, Nat.pow_succ]
    omega

/-- Bytes are what writing their number in their width gives. -/
lemma ofNat_value (bs : Octets) : ofNat bs.length (value bs) = bs := by
  induction bs using List.reverseRecOn with
  | nil => rfl
  | append_singleton bs b ih =>
    have hb : b.toNat < 256 := b.toNat_lt
    have hdiv : (value bs * 256 + b.toNat) / 256 = value bs := by omega
    have hmod : UInt8.ofNat (value bs * 256 + b.toNat) = b := by
      rw [← UInt8.toNat_inj]
      simp
    rw [value_append_singleton, List.length_append, List.length_singleton, ofNat, hdiv, ih, hmod]

/-- Of a number only so much is written as the width holds. -/
lemma ofNat_mod (w n : Nat) : ofNat w (n % 256 ^ w) = ofNat w n := by
  have h := ofNat_value (ofNat w n)
  rwa [length_ofNat, value_ofNat] at h

lemma ofNat_one (b : UInt8) : ofNat 1 b.toNat = [b] := by
  simp [ofNat]

lemma length_ofUInt16 (n : UInt16) : (ofUInt16 n).length = 2 := length_ofNat 2 n.toNat

lemma value_ofUInt16 (n : UInt16) : value (ofUInt16 n) = n.toNat :=
  value_ofNat_of_lt n.toNat_lt

lemma value_ofUInt32 (n : UInt32) : value (ofUInt32 n) = n.toNat :=
  value_ofNat_of_lt n.toNat_lt

lemma value_ofUInt64 (n : UInt64) : value (ofUInt64 n) = n.toNat :=
  value_ofNat_of_lt n.toNat_lt

/-- A type that holds all numbers of a width holds what so many bytes say. -/
lemma ofNat_of_length {α : Type} {w : Nat} {make : Nat → α} {toNat : α → Nat}
    (toNat_make : ∀ n, n < 256 ^ w → toNat (make n) = n) {bs : Octets} (h : bs.length = w) :
    ofNat w (toNat (make (value bs))) = bs := by
  subst h
  rw [toNat_make _ (value_lt bs), ofNat_value]

lemma ofUInt16_value {bs : Octets} (h : bs.length = 2) :
    ofUInt16 (UInt16.ofNat (value bs)) = bs :=
  ofNat_of_length (fun _ => UInt16.toNat_ofNat_of_lt') h

lemma ofUInt32_value {bs : Octets} (h : bs.length = 4) :
    ofUInt32 (UInt32.ofNat (value bs)) = bs :=
  ofNat_of_length (fun _ => UInt32.toNat_ofNat_of_lt') h

lemma ofUInt64_value {bs : Octets} (h : bs.length = 8) :
    ofUInt64 (UInt64.ofNat (value bs)) = bs :=
  ofNat_of_length (fun _ => UInt64.toNat_ofNat_of_lt') h

lemma exists_ofUInt16 {bs : Octets} (h : 2 ≤ bs.length) : ∃ n rest, bs = ofUInt16 n ++ rest := by
  have hfront : (bs.take 2).length = 2 := List.length_take_of_le h
  refine ⟨UInt16.ofNat (value (bs.take 2)), bs.drop 2, ?_⟩
  rw [ofUInt16_value hfront, List.take_append_drop]

end Octets

namespace Wire

lemma bind_eq_ok {ε α β : Type} {x : Except ε α} {f : α → Except ε β} {c : β} :
    (x >>= f) = .ok c ↔ ∃ a, x = .ok a ∧ f a = .ok c := by
  cases x <;> simp [bind, Except.bind]

lemma pure_eq_ok {ε α : Type} {a c : α} : (pure a : Except ε α) = .ok c ↔ a = c := by
  simp [pure, Except.pure]

lemma map_eq_ok {ε α β : Type} {x : Except ε α} {f : α → β} {b : β} :
    x.map f = .ok b ↔ ∃ a, x = .ok a ∧ f a = b := by
  cases x <;> simp [Except.map]

lemma mapError_eq_ok {ε δ α : Type} {x : Except ε α} {f : ε → δ} {a : α} :
    x.mapError f = .ok a ↔ x = .ok a := by
  cases x <;> simp [Except.mapError]

lemma throw_ne_ok {ε α : Type} {e : ε} {a : α} : (throw e : Except ε α) ≠ .ok a := by
  simp [throw, throwThe, MonadExceptOf.throw]

namespace Code

variable {α : Type} [Code α]

lemma mem_members (a : α) : a ∈ (members : List α) :=
  List.mem_of_find?_eq_some (find_number a)

/-- Whether numbers fit a field is seen from the list of members. -/
lemma number_lt {n : Nat} (small : ∀ a ∈ (members : List α), number a < n) (a : α) :
    number a < n :=
  small a (mem_members a)

end Code

lemma member_eq_ok {ε α : Type} [HasFault ε] [Code α] {n : Nat} {a : α} :
    (member α n : Except ε α) = .ok a ↔ Code.number a = n := by
  unfold member
  refine ⟨?_, ?_⟩
  · intro h
    split at h
    · next b hb => cases h; exact Code.number_of_ofNumber? hb
    · simp at h
  · rintro rfl
    rw [Code.ofNumber?_number]

namespace Reader

variable {ε α β γ : Type} {bs rest : Octets}

/-- The reader accepts the written forms of the valid values, whatever follows them, and nothing
else. -/
def Exact (r : Reader ε α) (valid : α → Prop) (write : α → Octets) : Prop :=
  ∀ bs a rest, r.run bs = (.ok a, rest) ↔ valid a ∧ bs = write a ++ rest

/-! ### Composition -/

@[simp] lemma run_pure_ok {a c : α} :
    (pure a : Reader ε α).run bs = (.ok c, rest) ↔ a = c ∧ bs = rest := by
  show ((Except.ok a : Except ε α), bs) = (.ok c, rest) ↔ _
  simp

@[simp] lemma run_bind_ok {r : Reader ε α} {f : α → Reader ε β} {c : β} :
    (r >>= f).run bs = (.ok c, rest) ↔
      ∃ a mid, r.run bs = (.ok a, mid) ∧ (f a).run mid = (.ok c, rest) := by
  show Reader.bind r f bs = _ ↔ _
  simp only [Reader.bind, run]
  rcases r bs with ⟨_ | _, mid⟩ <;> simp

/-- What a constructor wraps is read when the value itself is. -/
lemma run_wrap_ok {r : Reader ε α} {f : α → β} (inj : Function.Injective f) {a : α} :
    (do return f (← r) : Reader ε β).run bs = (.ok (f a), rest) ↔ r.run bs = (.ok a, rest) := by
  simp only [run_bind_ok, run_pure_ok]
  refine ⟨?_, ?_⟩
  · rintro ⟨b, _, h, hb, rfl⟩
    rwa [← inj hb]
  · intro h
    exact ⟨a, rest, h, rfl, rfl⟩

lemma exists_of_run_wrap {r : Reader ε α} {f : α → β} {b : β}
    (h : (do return f (← r) : Reader ε β).run bs = (.ok b, rest)) : ∃ a, b = f a := by
  simp only [run_bind_ok, run_pure_ok] at h
  obtain ⟨a, _, -, hb, -⟩ := h
  exact ⟨a, hb.symm⟩

@[simp] lemma run_fail_ok {e : ε} {c : α} :
    (fail e : Reader ε α).run bs = (.ok c, rest) ↔ False := by
  simp [run, fail]

@[simp] lemma run_fault_ok [HasFault ε] {f : Fault} {c : α} :
    (fault f : Reader ε α).run bs = (.ok c, rest) ↔ False := by
  simp [fault]

@[simp] lemma run_ofExcept_ok {answer : Except ε α} {c : α} :
    (ofExcept answer).run bs = (.ok c, rest) ↔ answer = .ok c ∧ bs = rest := by
  simp [run, ofExcept]

@[simp] lemma run_rest_ok {c : Octets} :
    (Reader.rest : Reader ε Octets).run bs = (.ok c, rest) ↔ bs = c ∧ bs = rest := by
  simp [run, Reader.rest]

@[simp] lemma run_all_ok {c : Octets} :
    (all : Reader ε Octets).run bs = (.ok c, rest) ↔ bs = c ∧ rest = [] := by
  simp [run, all, eq_comm]

@[simp] lemma run_mapError_ok {δ : Type} {f : ε → δ} {r : Reader ε α} {c : α} :
    (mapError f r).run bs = (.ok c, rest) ↔ r.run bs = (.ok c, rest) := by
  simp only [mapError, run]
  rcases r bs with ⟨_ | _, mid⟩ <;> simp

@[simp] lemma run_inside_ok {r : Reader ε α} {slice left : Octets} {c : α} :
    (inside r slice).run bs = (.ok (c, left), rest) ↔
      r.run slice = (.ok c, left) ∧ bs = rest := by
  simp only [inside, run]
  rcases r slice with ⟨_ | _, mid⟩ <;> simp

/-! ### Fields -/

section Fields

variable [HasFault ε]

@[simp] lemma run_need_ok {n : Nat} {u : Unit} :
    (need n : Reader ε Unit).run bs = (.ok u, rest) ↔ n ≤ bs.length ∧ bs = rest := by
  unfold need run
  by_cases h : Octets.holds n bs
  · simp [h, Octets.holds_iff.mp h]
  · simp [h, mt Octets.holds_iff.mpr h]

lemma cut?_eq_some_iff {n : Nat} {front : Octets} :
    Octets.cut? n bs = some (front, rest) ↔ front.length = n ∧ bs = front ++ rest := by
  refine ⟨?_, ?_⟩
  · intro h
    rcases Nat.lt_or_ge bs.length n with few | enough
    · simp [Octets.cut?_eq_none few] at h
    · rw [Octets.cut?_eq_some enough] at h
      cases h
      simp [enough]
  · rintro ⟨rfl, rfl⟩
    rw [Octets.cut?_eq_some (by simp)]
    simp

@[simp] lemma run_take_ok {n : Nat} {front : Octets} :
    (take n : Reader ε Octets).run bs = (.ok front, rest) ↔
      front.length = n ∧ bs = front ++ rest := by
  rw [← cut?_eq_some_iff]
  simp only [take, run]
  rcases Octets.cut? n bs with _ | ⟨a, b⟩ <;> simp

@[simp] lemma run_slice_ok {part : String} {n : Nat} {front : Octets} :
    (slice part n : Reader ε Octets).run bs = (.ok front, rest) ↔
      front.length = n ∧ bs = front ++ rest := by
  rw [← cut?_eq_some_iff]
  simp only [slice, run]
  rcases Octets.cut? n bs with _ | ⟨a, b⟩ <;> simp

@[simp] lemma run_block_ok {n : Nat} {a : Block n} :
    (block n : Reader ε (Block n)).run bs = (.ok a, rest) ↔ bs = a.octets ++ rest := by
  simp only [block, run]
  refine ⟨?_, ?_⟩
  · intro h
    split_ifs at h with hlen
    · cases h
      exact (List.take_append_drop n bs).symm
    · simp at h
  · rintro rfl
    have hlen := a.length_octets
    have htake : (a.octets ++ rest).take n = a.octets := by simp [← hlen]
    have hdrop : (a.octets ++ rest).drop n = rest := by simp [← hlen]
    simp [htake, hdrop, hlen]

@[simp] lemma run_nat_ok {w n : Nat} :
    (nat w : Reader ε Nat).run bs = (.ok n, rest) ↔
      n < 256 ^ w ∧ bs = Octets.ofNat w n ++ rest := by
  simp only [nat, run_bind_ok, run_take_ok, run_pure_ok]
  refine ⟨?_, ?_⟩
  · rintro ⟨front, mid, ⟨rfl, rfl⟩, rfl, rfl⟩
    exact ⟨Octets.value_lt front, by rw [Octets.ofNat_value]⟩
  · rintro ⟨hn, rfl⟩
    exact ⟨_, _, ⟨Octets.length_ofNat w n, rfl⟩, Octets.value_ofNat_of_lt hn, rfl⟩

/-- A number is read by its written form into any type that holds the numbers of the width. -/
lemma run_make_nat_ok {w : Nat} {make : Nat → α} {toNat : α → Nat}
    (lt : ∀ a, toNat a < 256 ^ w) (make_toNat : ∀ a, make (toNat a) = a)
    (toNat_make : ∀ n, n < 256 ^ w → toNat (make n) = n) {a : α} :
    (do return make (← nat w) : Reader ε α).run bs = (.ok a, rest) ↔
      bs = Octets.ofNat w (toNat a) ++ rest := by
  simp only [run_bind_ok, run_nat_ok, run_pure_ok]
  refine ⟨?_, ?_⟩
  · rintro ⟨n, _, ⟨hn, rfl⟩, rfl, rfl⟩
    rw [toNat_make n hn]
  · rintro rfl
    exact ⟨toNat a, rest, ⟨lt a, rfl⟩, make_toNat a, rfl⟩

@[simp] lemma run_u8_ok {n : UInt8} :
    (u8 : Reader ε UInt8).run bs = (.ok n, rest) ↔ bs = n :: rest := by
  have h : (u8 : Reader ε UInt8).run bs = (.ok n, rest) ↔ bs = Octets.ofNat 1 n.toNat ++ rest :=
    run_make_nat_ok UInt8.toNat_lt (fun _ => UInt8.ofNat_toNat) fun _ => UInt8.toNat_ofNat_of_lt'
  rwa [Octets.ofNat_one] at h

@[simp] lemma run_u16_ok {n : UInt16} :
    (u16 : Reader ε UInt16).run bs = (.ok n, rest) ↔ bs = Octets.ofUInt16 n ++ rest :=
  run_make_nat_ok UInt16.toNat_lt (fun _ => UInt16.ofNat_toNat) fun _ => UInt16.toNat_ofNat_of_lt'

@[simp] lemma run_u32_ok {n : UInt32} :
    (u32 : Reader ε UInt32).run bs = (.ok n, rest) ↔ bs = Octets.ofUInt32 n ++ rest :=
  run_make_nat_ok UInt32.toNat_lt (fun _ => UInt32.ofNat_toNat) fun _ => UInt32.toNat_ofNat_of_lt'

@[simp] lemma run_u64_ok {n : UInt64} :
    (u64 : Reader ε UInt64).run bs = (.ok n, rest) ↔ bs = Octets.ofUInt64 n ++ rest :=
  run_make_nat_ok UInt64.toNat_lt (fun _ => UInt64.ofNat_toNat) fun _ => UInt64.toNat_ofNat_of_lt'

@[simp] lemma run_code_ok [Code α] {w : Nat} {a : α} :
    (code α w : Reader ε α).run bs = (.ok a, rest) ↔
      Code.number a < 256 ^ w ∧ bs = Octets.ofNat w (Code.number a) ++ rest := by
  simp only [code, run_bind_ok, run_nat_ok, run_ofExcept_ok, member_eq_ok]
  refine ⟨?_, ?_⟩
  · rintro ⟨_, _, h, rfl, rfl⟩
    exact h
  · intro h
    exact ⟨_, _, h, rfl, rfl⟩

end Fields

/-! ### Repetition -/

variable {item : Reader ε α} {valid : α → Prop} {write : α → Octets} {items found : List α}

lemma Exact.run_write (exact : Exact item valid write) {a : α} (ha : valid a) (rest : Octets) :
    item (write a ++ rest) = (.ok a, rest) :=
  (exact _ a rest).mpr ⟨ha, rfl⟩

lemma Exact.of_run (exact : Exact item valid write) {a : α} (h : item bs = (.ok a, rest)) :
    valid a ∧ bs = write a ++ rest :=
  (exact bs a rest).mp h

lemma Exact.run_self (exact : Exact item valid write) {a : α} :
    item.run (write a) = (.ok a, rest) ↔ rest = [] ∧ valid a := by
  rw [exact, and_comm, List.self_eq_append_right]

/-- The reader accepts the written forms of pieces, in front of any bytes, for what the pieces mean,
and nothing else. -/
def Accepts (r : Reader ε α) (means : γ → α → Prop) (write : γ → Octets) : Prop :=
  ∀ bs a rest, r.run bs = (.ok a, rest) ↔ ∃ p, means p a ∧ bs = write p ++ rest

lemma Exact.accepts (exact : Exact item valid write) :
    Accepts item (fun p a => valid p ∧ p = a) write := by
  intro bs a rest
  rw [exact]
  simp

lemma Accepts.timesInto_ok {means : γ → α → Prop} {write : γ → Octets}
    (accepts : Accepts item means write) {n : Nat} :
    timesInto item n found bs = (.ok items, rest) ↔
      ∃ ps more, items = found.reverse ++ more ∧ ps.length = n ∧ List.Forall₂ means ps more ∧
        bs = ps.flatMap write ++ rest := by
  induction n generalizing found bs with
  | zero =>
    refine ⟨?_, ?_⟩
    · intro h
      cases h
      exact ⟨[], [], by simp, rfl, .nil, by simp⟩
    · rintro ⟨ps, more, rfl, hlen, hall, rfl⟩
      obtain rfl := List.eq_nil_of_length_eq_zero hlen
      cases hall
      simp [timesInto]
  | succ n ih =>
    unfold timesInto
    refine ⟨?_, ?_⟩
    · intro h
      split at h
      · next a mid hrun =>
        obtain ⟨p, hp, rfl⟩ := (accepts _ _ _).mp hrun
        obtain ⟨ps, more, rfl, rfl, hall, rfl⟩ := ih.mp h
        exact ⟨p :: ps, a :: more, by simp, rfl, .cons hp hall, by simp⟩
      · simp at h
    · rintro ⟨ps, more, rfl, hlen, hall, rfl⟩
      cases hall with
      | nil => simp at hlen
      | @cons p a ps more hp hall =>
        have hrun : item ((p :: ps).flatMap write ++ rest) = (.ok a, ps.flatMap write ++ rest) :=
          (accepts _ _ _).mpr ⟨p, hp, by simp⟩
        rw [hrun]
        exact ih.mpr ⟨ps, more, by simp, by simpa using hlen, hall, rfl⟩

lemma Accepts.run_times {means : γ → α → Prop} {write : γ → Octets}
    (accepts : Accepts item means write) {n : Nat} :
    (times n item).run bs = (.ok items, rest) ↔
      ∃ ps, ps.length = n ∧ List.Forall₂ means ps items ∧ bs = ps.flatMap write ++ rest := by
  refine accepts.timesInto_ok.trans ?_
  simp

/-- A count of items is read as so many written forms in a row. -/
lemma Exact.run_times (exact : Exact item valid write) {n : Nat} :
    (times n item).run bs = (.ok items, rest) ↔
      items.length = n ∧ (∀ a ∈ items, valid a) ∧ bs = items.flatMap write ++ rest := by
  rw [exact.accepts.run_times]
  simp only [List.forall₂_and_left, List.forall₂_eq_eq_eq]
  refine ⟨?_, ?_⟩
  · rintro ⟨_, hlen, ⟨hvalid, rfl⟩, hbs⟩
    exact ⟨hlen, hvalid, hbs⟩
  · rintro ⟨hlen, hvalid, hbs⟩
    exact ⟨items, hlen, ⟨hvalid, rfl⟩, hbs⟩

variable {more : Octets → Bool}

/-- A loop that goes on at the written forms and can end has none that is empty. -/
lemma ne_nil_of_goes (goes : ∀ a rest, more (write a ++ rest) = true) (ended : more rest = false)
    (a : α) : write a ≠ [] := by
  intro hnil
  have := goes a rest
  simp [hnil, ended] at this

lemma rounds_write (exact : Exact item valid write) (goes : ∀ a rest, more (write a ++ rest) = true)
    (ended : more rest = false) (hvalid : ∀ a ∈ items, valid a) (n : Nat)
    (hn : (items.flatMap write ++ rest).length ≤ n) (found : List α) :
    rounds more item n found (items.flatMap write ++ rest) =
      ⟨found.reverse ++ items, none, rest⟩ := by
  induction items generalizing n found with
  | nil => cases n <;> simp [rounds, ended]
  | cons a items ih =>
    have ha := exact.run_write (hvalid a (by simp)) (items.flatMap write ++ rest)
    have hpos := List.length_pos_of_ne_nil (ne_nil_of_goes goes ended a)
    simp only [List.flatMap_cons, List.append_assoc, List.length_append] at hn ih
    obtain ⟨n, rfl⟩ : ∃ k, n = k + 1 := ⟨n - 1, by omega⟩
    have hlater := ih (fun b hb => hvalid b (by simp [hb])) n (by omega) (a :: found)
    simp [rounds, goes, ha, hlater]

lemma of_rounds (exact : Exact item valid write) (goes : ∀ a rest, more (write a ++ rest) = true)
    (ended : more [] = false) {n : Nat} (hn : bs.length ≤ n)
    (h : (rounds more item n found bs).failure = none) :
    ∃ read, (rounds more item n found bs).items = found.reverse ++ read ∧
      more (rounds more item n found bs).rest = false ∧ (∀ a ∈ read, valid a) ∧
      bs = read.flatMap write ++ (rounds more item n found bs).rest := by
  induction n generalizing found bs with
  | zero =>
    obtain rfl := List.eq_nil_of_length_eq_zero (Nat.le_zero.mp hn)
    exact ⟨[], by simp [rounds], ended, by simp, rfl⟩
  | succ n ih =>
    unfold rounds at h ⊢
    cases hmore : more bs with
    | false => exact ⟨[], by simp, by simpa using hmore, by simp, by simp⟩
    | true =>
      simp only [hmore, if_true] at h ⊢
      rcases hrun : item bs with ⟨e | a, mid⟩
      · simp [hrun] at h
      · obtain ⟨ha, hbs⟩ := exact.of_run hrun
        have hpos := List.length_pos_of_ne_nil (ne_nil_of_goes goes ended a)
        have hlen := congrArg List.length hbs
        simp only [List.length_append] at hlen
        simp only [hrun] at h ⊢
        obtain ⟨read, hitems, hrest, hvalid, hmid⟩ := ih (by omega) h
        refine ⟨a :: read, by simp [hitems], hrest, by simpa [ha] using hvalid, ?_⟩
        rw [List.flatMap_cons, List.append_assoc, ← hmid, hbs]

/-- Items as long as the bytes ask for one are read as written forms in a row, in front of bytes
that do not. -/
lemma Exact.run_whileLeft (exact : Exact item valid write)
    (goes : ∀ a rest, more (write a ++ rest) = true) (ended : more [] = false) :
    (whileLeft more item).run bs = (.ok items, rest) ↔
      more rest = false ∧ (∀ a ∈ items, valid a) ∧ bs = items.flatMap write ++ rest := by
  refine ⟨?_, ?_⟩
  · intro h
    simp only [whileLeft, gather, run] at h
    split at h
    · next hf =>
      obtain ⟨read, hitems, hrest, hvalid, hbs⟩ := of_rounds exact goes ended (Nat.le_refl _) hf
      rw [hitems] at h
      cases h
      exact ⟨hrest, hvalid, hbs⟩
    · simp at h
  · rintro ⟨hrest, hvalid, rfl⟩
    simp only [whileLeft, gather, run]
    rw [rounds_write exact goes hrest hvalid _ (Nat.le_refl _) []]
    simp

lemma Exact.run_untilEnd (exact : Exact item valid write) (nonempty : ∀ a, write a ≠ []) :
    (untilEnd item).run bs = (.ok items, rest) ↔
      rest = [] ∧ (∀ a ∈ items, valid a) ∧ bs = items.flatMap write := by
  have goes : ∀ a rest, notEnded (write a ++ rest) = true := by simp [notEnded, nonempty]
  rw [untilEnd, exact.run_whileLeft goes rfl]
  refine ⟨?_, ?_⟩
  · rintro ⟨hended, hvalid, rfl⟩
    obtain rfl : rest = [] := by simpa [notEnded] using hended
    exact ⟨rfl, hvalid, List.append_nil _⟩
  · rintro ⟨rfl, hvalid, rfl⟩
    exact ⟨rfl, hvalid, (List.append_nil _).symm⟩

end Reader

end Wire

end Telemetry
