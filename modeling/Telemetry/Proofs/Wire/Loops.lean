import Telemetry.Proofs.Wire.Pieces

/-!
Loops that come to an end.

The loops of a parser go on as long as their input asks for it, and nothing counts their rounds. A
loop whose rounds each take a byte ends all the same, and what it has gathered then is what counting
the rounds by the length of the input gives. How many bytes a reader takes is seen from its parts.

A loop up to the end of its input takes it for pieces in a row. Any input is pieces that can be read
and behind them an end, where the loop has gathered them all, or a break, where it fails.
-/

namespace Telemetry.Wire.Reader

variable {ε α β : Type} {more : Octets → Bool} {item : Reader ε α} {bs rest : Octets}

/-! ### How much a reader takes -/

def Takes (r : Reader ε α) (n : Nat) : Prop :=
  ∀ bs a rest, r.run bs = (.ok a, rest) → rest.length + n ≤ bs.length

lemma Takes.bind {r : Reader ε α} {f : α → Reader ε β} {m n : Nat} (hr : Takes r m)
    (hf : ∀ a, Takes (f a) n) : Takes (r >>= f) (m + n) := by
  intro bs b rest h
  obtain ⟨a, mid, hfirst, hsecond⟩ := run_bind_ok.mp h
  have := hr _ _ _ hfirst
  have := hf a _ _ _ hsecond
  omega

lemma Takes.mono {r : Reader ε α} {m n : Nat} (h : Takes r n) (le : m ≤ n) : Takes r m := by
  intro bs a rest hrun
  have := h _ _ _ hrun
  omega

lemma takes_pure (a : α) : Takes (pure a : Reader ε α) 0 := by
  intro bs b rest h
  rw [(run_pure_ok.mp h).2]
  exact Nat.le_refl _

lemma takes_fail (e : ε) (n : Nat) : Takes (fail e : Reader ε α) n :=
  fun _ _ _ h => (run_fail_ok.mp h).elim

lemma takes_ofExcept (answer : Except ε α) : Takes (ofExcept answer) 0 := by
  intro bs a rest h
  rw [(run_ofExcept_ok.mp h).2]
  exact Nat.le_refl _

lemma takes_inside (r : Reader ε α) (slice : Octets) : Takes (inside r slice) 0 := by
  intro bs a rest h
  rw [(run_inside_ok.mp h).2]
  exact Nat.le_refl _

section Fields

variable [HasFault ε]

lemma takes_take (n : Nat) : Takes (take n : Reader ε Octets) n := by
  intro bs front rest h
  obtain ⟨hfront, rfl⟩ := run_take_ok.mp h
  simp [hfront, Nat.add_comm]

lemma takes_slice (part : String) (n : Nat) : Takes (slice part n : Reader ε Octets) n := by
  intro bs front rest h
  obtain ⟨hfront, rfl⟩ := run_slice_ok.mp h
  simp [hfront, Nat.add_comm]

lemma takes_nat (w : Nat) : Takes (nat w : Reader ε Nat) w :=
  (takes_take w).bind fun _ => takes_pure _

lemma takes_u16 : Takes (u16 : Reader ε UInt16) 2 := (takes_nat 2).bind fun _ => takes_pure _

lemma takes_code [Code α] (w : Nat) : Takes (code α w : Reader ε α) w :=
  (takes_nat w).bind fun _ => takes_ofExcept _

end Fields

lemma Takes.timesInto (h : Takes item 0) {n : Nat} {found items : List α}
    (hrun : timesInto item n found bs = (.ok items, rest)) : rest.length ≤ bs.length := by
  induction n generalizing found bs with
  | zero =>
    cases hrun
    exact Nat.le_refl _
  | succ n ih =>
    unfold Reader.timesInto at hrun
    split at hrun
    · next a mid hitem =>
      have := h _ _ _ hitem
      have := ih hrun
      omega
    · cases hrun

lemma Takes.times (h : Takes item 0) (n : Nat) : Takes (times n item) 0 :=
  fun _ _ _ hrun => h.timesInto hrun

/-! ### Loops -/

/-- A loop run to its end, in however many rounds: from the items found so far, last first, and the
bytes left, to what it has gathered. -/
inductive Loops (more : Octets → Bool) (item : Reader ε α) :
    List α → Octets → Gathered ε α → Prop where
  | ended {found : List α} {bs : Octets} (last : more bs = false) :
    Loops more item found bs ⟨found.reverse, none, bs⟩
  | failed {found : List α} {bs rest : Octets} {e : ε} (goes : more bs = true)
    (fails : item.run bs = (.error e, rest)) :
    Loops more item found bs ⟨found.reverse, some e, rest⟩
  | round {found : List α} {bs rest : Octets} {a : α} {g : Gathered ε α} (goes : more bs = true)
    (reads : item.run bs = (.ok a, rest)) (later : Loops more item (a :: found) rest g) :
    Loops more item found bs g

lemma Loops.unique {found : List α} {g g' : Gathered ε α} (h : Loops more item found bs g)
    (h' : Loops more item found bs g') : g = g' := by
  induction h with
  | ended last =>
    cases h' with
    | ended _ => rfl
    | failed goes _ => simp [last] at goes
    | round goes _ _ => simp [last] at goes
  | failed goes fails =>
    cases h' with
    | ended last => simp [goes] at last
    | failed _ fails' =>
      cases fails.symm.trans fails'
      rfl
    | round _ reads' _ => cases fails.symm.trans reads'
  | round goes reads _ ih =>
    cases h' with
    | ended last => simp [goes] at last
    | failed _ fails' => cases reads.symm.trans fails'
    | round _ reads' later' =>
      cases reads.symm.trans reads'
      exact ih later'

def Advances (more : Octets → Bool) (item : Reader ε α) : Prop :=
  ∀ bs a rest, more bs = true → item.run bs = (.ok a, rest) → rest.length < bs.length

lemma Takes.advances {n : Nat} (h : Takes item n) (pos : 0 < n) : Advances more item := by
  intro bs a rest _ hrun
  have := h _ _ _ hrun
  omega

lemma Advances.loops_rounds (h : Advances more item) (ended : more [] = false) {n : Nat}
    (hn : bs.length ≤ n) (found : List α) :
    Loops more item found bs (rounds more item n found bs) := by
  induction n generalizing bs found with
  | zero =>
    obtain rfl := List.eq_nil_of_length_eq_zero (Nat.le_zero.mp hn)
    exact .ended ended
  | succ n ih =>
    unfold rounds
    cases hmore : more bs with
    | false => exact .ended hmore
    | true =>
      rw [if_pos rfl]
      rcases hrun : item bs with ⟨e | a, mid⟩
      · exact .failed hmore hrun
      · have := h _ _ _ hmore hrun
        exact .round hmore hrun (ih (by omega) _)

/-- Counting the rounds by the length of the input cuts no loop short whose rounds take a byte. -/
lemma Advances.loops (h : Advances more item) (ended : more [] = false) (bs : Octets) :
    Loops more item [] bs (gather more item bs) :=
  h.loops_rounds ended (Nat.le_refl _) []

/-- What a loop has gathered is what it gathers when its rounds are not counted. -/
lemma Advances.gather_eq (h : Advances more item) (ended : more [] = false) {g : Gathered ε α}
    (loops : Loops more item [] bs g) : gather more item bs = g :=
  (h.loops ended bs).unique loops

lemma not_loops_of_still (goes : more bs = true) {a : α} (still : item.run bs = (.ok a, bs))
    (found : List α) (g : Gathered ε α) : ¬ Loops more item found bs g := by
  intro h
  generalize hrest : bs = left at h
  induction h with
  | ended last => simp [← hrest, goes] at last
  | failed _ fails => simp [← hrest, still] at fails
  | round _ reads _ ih =>
    subst hrest
    rw [still] at reads
    exact ih (Prod.mk.inj reads).2

/-! ### Where a loop stops -/

/-- The bytes are not at their end, and what begins there cannot be read. -/
def Breaks (item : Reader ε α) (e : ε) (left bs : Octets) : Prop :=
  bs ≠ [] ∧ item.run bs = (.error e, left)

section Pieces

variable {γ : Type} {means : γ → α → Prop} {write : γ → Octets} {ps : List γ} {items : List α}
  {e : ε} {tail left : Octets}

/-- Any bytes are pieces that can be read, and then an end or one that cannot. -/
lemma Accepts.exists_cut (accepts : Accepts item means write)
    (nonempty : ∀ p, write p ≠ []) (bs : Octets) :
    ∃ ps items tail, bs = List.flatMap write ps ++ tail ∧ List.Forall₂ means ps items ∧
      (tail = [] ∨ ∃ e left, Breaks item e left tail) := by
  -- on the length of the bytes: no piece is empty, so what is behind the first is shorter
  induction hn : bs.length using Nat.strong_induction_on generalizing bs with
  | _ n ih =>
    subst hn
    rcases hread : item.run bs with ⟨e | a, rest⟩
    · by_cases hnil : bs = []
      · exact ⟨[], [], bs, rfl, .nil, .inl hnil⟩
      · exact ⟨[], [], bs, rfl, .nil, .inr ⟨e, rest, hnil, hread⟩⟩
    · obtain ⟨p, hp, rfl⟩ := (accepts _ _ _).mp hread
      have hpos := List.length_pos_of_ne_nil (nonempty p)
      obtain ⟨ps, items, tail, rfl, hall, htail⟩ :=
        ih rest.length (by rw [List.length_append]; omega) rest rfl
      exact ⟨p :: ps, a :: items, tail, by simp, .cons hp hall, htail⟩

/-- Pieces that can be read are rounds of a loop, whatever it meets behind them. -/
lemma Accepts.loops (accepts : Accepts item means write)
    (goes : ∀ p rest, more (write p ++ rest) = true) (h : List.Forall₂ means ps items)
    {found : List α} {g : Gathered ε α}
    (behind : Loops more item (items.reverse ++ found) rest g) :
    Loops more item found (ps.flatMap write ++ rest) g := by
  induction h generalizing found with
  | nil => simpa using behind
  | @cons p a ps items hp _ ih =>
    have hread : item.run (write p ++ (ps.flatMap write ++ rest)) =
        (.ok a, ps.flatMap write ++ rest) := (accepts _ _ _).mpr ⟨p, hp, rfl⟩
    rw [List.flatMap_cons, List.append_assoc]
    exact .round (goes p _) hread (ih (by simpa using behind))

lemma Accepts.advances (accepts : Accepts item means write)
    (nonempty : ∀ p, write p ≠ []) : Advances more item := by
  intro bs a rest _ hrun
  obtain ⟨p, -, rfl⟩ := (accepts _ _ _).mp hrun
  have hpos := List.length_pos_of_ne_nil (nonempty p)
  rw [List.length_append]
  omega

lemma Accepts.gather_eq (accepts : Accepts item means write)
    (nonempty : ∀ p, write p ≠ []) (h : List.Forall₂ means ps items) {g : Gathered ε α}
    (behind : Loops notEnded item items.reverse tail g) :
    gather notEnded item (ps.flatMap write ++ tail) = g := by
  have goes : ∀ p rest, notEnded (write p ++ rest) = true := by simp [notEnded, nonempty]
  refine (accepts.advances nonempty).gather_eq rfl (accepts.loops goes h ?_)
  rwa [List.append_nil]

lemma Accepts.gather_whole (accepts : Accepts item means write)
    (nonempty : ∀ p, write p ≠ []) (h : List.Forall₂ means ps items) :
    gather notEnded item (ps.flatMap write) = ⟨items, none, []⟩ := by
  have hended : Loops notEnded item items.reverse [] ⟨items.reverse.reverse, none, []⟩ :=
    .ended rfl
  rw [List.reverse_reverse] at hended
  simpa using accepts.gather_eq nonempty h hended

lemma Accepts.gather_broken (accepts : Accepts item means write)
    (nonempty : ∀ p, write p ≠ []) (h : List.Forall₂ means ps items)
    (breaks : Breaks item e left tail) :
    gather notEnded item (ps.flatMap write ++ tail) = ⟨items, some e, left⟩ := by
  have goes : notEnded tail = true := by simp [notEnded, breaks.1]
  have hfailed : Loops notEnded item items.reverse tail ⟨items.reverse.reverse, some e, left⟩ :=
    .failed goes breaks.2
  rw [List.reverse_reverse] at hfailed
  exact accepts.gather_eq nonempty h hfailed

end Pieces

section Items

variable {valid : α → Prop} {write : α → Octets} {items : List α} {e : ε} {tail left : Octets}

/-- Any bytes are written forms, and then an end or something that is none. -/
lemma Exact.exists_cut (exact : Exact item valid write)
    (nonempty : ∀ a, write a ≠ []) (bs : Octets) :
    ∃ items tail, (∀ a ∈ items, valid a) ∧ bs = List.flatMap write items ++ tail ∧
      (tail = [] ∨ ∃ e left, Breaks item e left tail) := by
  obtain ⟨ps, items, tail, rfl, hall, htail⟩ := exact.accepts.exists_cut nonempty bs
  rw [List.forall₂_and_left, List.forall₂_eq_eq_eq] at hall
  obtain ⟨hvalid, rfl⟩ := hall
  exact ⟨ps, tail, hvalid, rfl, htail⟩

/-- Behind written forms a loop up to the end fails with what is none. -/
lemma Exact.run_untilEnd_broken (exact : Exact item valid write)
    (nonempty : ∀ a, write a ≠ []) (hvalid : ∀ a ∈ items, valid a)
    (breaks : Breaks item e left tail) :
    (untilEnd item).run (items.flatMap write ++ tail) = (.error e, left) := by
  have hpieces : List.Forall₂ (fun p a => valid p ∧ p = a) items items := by
    rw [List.forall₂_and_left, List.forall₂_eq_eq_eq]
    exact ⟨hvalid, rfl⟩
  simp only [run, untilEnd, whileLeft, exact.accepts.gather_broken nonempty hpieces breaks]

end Items

/-! ### What a loop finds -/

lemma mem_items_rounds {a : α} {n : Nat} {found : List α}
    (h : a ∈ (rounds more item n found bs).items) :
    a ∈ found ∨ ∃ front rest, item.run front = (.ok a, rest) := by
  induction n generalizing found bs with
  | zero => exact .inl (List.mem_reverse.mp h)
  | succ n ih =>
    unfold rounds at h
    split_ifs at h
    · split at h
      · next b mid hrun =>
        rcases ih h with hfound | hlater
        · rcases List.mem_cons.mp hfound with rfl | hfound
          · exact .inr ⟨bs, mid, hrun⟩
          · exact .inl hfound
        · exact .inr hlater
      · exact .inl (List.mem_reverse.mp h)
    · exact .inl (List.mem_reverse.mp h)

lemma mem_items_gather {a : α} (h : a ∈ (gather more item bs).items) :
    ∃ front rest, item.run front = (.ok a, rest) :=
  (mem_items_rounds h).resolve_left List.not_mem_nil

lemma mem_of_run_whileLeft {a : α} {items : List α}
    (h : (whileLeft more item).run bs = (.ok items, rest)) (ha : a ∈ items) :
    ∃ front rest, item.run front = (.ok a, rest) := by
  simp only [run, whileLeft] at h
  split at h
  · cases h
    exact mem_items_gather ha
  · cases h

end Telemetry.Wire.Reader
