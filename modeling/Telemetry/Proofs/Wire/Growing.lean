import Telemetry.Proofs.Wire.Failing
import Telemetry.Proofs.Wire.Pieces

/-!
What more input changes.

A reader is steady when more bytes behind its input can only mend a shortage: whatever else it has
found, it finds again, and the new bytes are left. The fields are steady, and so is what is put
together from steady readers. A slice that has been cut off before is read for itself: its answer is
settled, and no byte behind it is touched.
-/

namespace Telemetry.Wire.Reader

variable {ε α β : Type} {short : ε → Prop}

def FailsShort (r : Reader ε α) (short : ε → Prop) (bs : Octets) : Prop :=
  ∃ e, (r.run bs).1 = .error e ∧ short e

/-- Unless the reader fails for want of bytes, more of them change nothing and are left. -/
def Steady (r : Reader ε α) (short : ε → Prop) : Prop :=
  ∀ bs more, FailsShort r short bs ∨ r.run (bs ++ more) = ((r.run bs).1, (r.run bs).2 ++ more)

lemma steady_pure (a : α) : Steady (pure a : Reader ε α) short := fun _ _ => .inr rfl

lemma steady_fail (e : ε) : Steady (fail e : Reader ε α) short := fun _ _ => .inr rfl

lemma steady_ofExcept (answer : Except ε α) : Steady (ofExcept answer) short :=
  fun _ _ => .inr rfl

lemma FailsShort.bind {r : Reader ε α} {bs : Octets} (h : FailsShort r short bs)
    (f : α → Reader ε β) : FailsShort (r >>= f) short bs := by
  obtain ⟨e, he, hshort⟩ := h
  have hrun : r.run bs = (.error e, (r.run bs).2) := by rw [← he]
  refine ⟨e, ?_, hshort⟩
  rw [run_bind_of_error hrun]

lemma failsShort_bind_of_ok {r : Reader ε α} {f : α → Reader ε β} {a : α} {bs mid : Octets}
    (h : r.run bs = (.ok a, mid)) :
    FailsShort (r >>= f) short bs ↔ FailsShort (f a) short mid := by
  rw [FailsShort, run_bind_of_ok h, FailsShort]

lemma failsShort_bind_iff {r : Reader ε α} {f : α → Reader ε β} {bs : Octets} :
    FailsShort (r >>= f) short bs ↔
      FailsShort r short bs ∨ ∃ a mid, r.run bs = (.ok a, mid) ∧ FailsShort (f a) short mid := by
  rcases h : r.run bs with ⟨e | a, mid⟩
  · simp [FailsShort, run_bind_of_error h, h]
  · rw [failsShort_bind_of_ok h]
    simp [FailsShort, h]

lemma failsShort_wrap_iff {r : Reader ε α} {f : α → β} {bs : Octets} :
    FailsShort (do return f (← r)) short bs ↔ FailsShort r short bs := by
  refine ⟨?_, fun h => h.bind _⟩
  rcases h : r.run bs with ⟨e | a, mid⟩
  · rw [FailsShort, run_bind_of_error h, FailsShort, h]
    rintro ⟨_, he, hshort⟩
    cases he
    exact ⟨e, rfl, hshort⟩
  · rw [failsShort_bind_of_ok h]
    rintro ⟨e, he, -⟩
    cases he

lemma failsShort_fail_iff {e : ε} {bs : Octets} :
    FailsShort (fail e : Reader ε α) short bs ↔ short e := by
  refine ⟨?_, fun h => ⟨e, rfl, h⟩⟩
  rintro ⟨e', he, h⟩
  cases he
  exact h

lemma Steady.bind {r : Reader ε α} {f : α → Reader ε β} (hr : Steady r short)
    (hf : ∀ a, Steady (f a) short) : Steady (r >>= f) short := by
  intro bs more
  rcases hr bs more with hshort | hmore
  · exact .inl (hshort.bind f)
  · rcases hrun : r.run bs with ⟨e | a, mid⟩
    · rw [hrun] at hmore
      rw [run_bind_of_error hrun, run_bind_of_error hmore]
      exact .inr rfl
    · rw [hrun] at hmore
      rw [FailsShort, run_bind_of_ok hrun, run_bind_of_ok hmore]
      exact hf a mid more

/-! ### Answers that need no input -/

/-- The answer is found without reading, and is not that bytes are wanting. -/
def Settled (r : Reader ε α) (short : ε → Prop) : Prop :=
  ∃ answer, (∀ e, answer = .error e → ¬ short e) ∧ ∀ bs, r.run bs = (answer, bs)

lemma settled_pure (a : α) : Settled (pure a : Reader ε α) short :=
  ⟨.ok a, nofun, fun _ => rfl⟩

lemma settled_fail {e : ε} (h : ¬ short e) : Settled (fail e : Reader ε α) short := by
  refine ⟨.error e, fun e' he => ?_, fun _ => rfl⟩
  cases he
  exact h

lemma settled_inside {r : Reader ε α} {slice : Octets}
    (h : ∀ e, (r.run slice).1 = .error e → ¬ short e) : Settled (r.inside slice) short := by
  rcases hrun : r slice with ⟨e | a, left⟩
  · refine ⟨.error e, fun e' he => ?_, fun bs => by simp [run, inside, hrun]⟩
    cases he
    exact h e (by rw [run, hrun])
  · refine ⟨.ok (a, left), fun e he => ?_, fun bs => by simp [run, inside, hrun]⟩
    cases he

lemma Settled.bind {r : Reader ε α} {f : α → Reader ε β} (hr : Settled r short)
    (hf : ∀ a, Settled (f a) short) : Settled (r >>= f) short := by
  obtain ⟨e | a, hshort, hrun⟩ := hr
  · refine ⟨.error e, fun e' he => ?_, fun bs => run_bind_of_error (hrun bs)⟩
    cases he
    exact hshort e rfl
  · obtain ⟨answer, hshort, hrun'⟩ := hf a
    exact ⟨answer, hshort, fun bs => (run_bind_of_ok (hrun bs)).trans (hrun' bs)⟩

lemma Settled.steady {r : Reader ε α} (h : Settled r short) : Steady r short := by
  obtain ⟨answer, -, hrun⟩ := h
  intro bs more
  rw [hrun, hrun]
  exact .inr rfl

lemma Settled.not_failsShort {r : Reader ε α} (h : Settled r short) (bs : Octets) :
    ¬ FailsShort r short bs := by
  obtain ⟨answer, hshort, hrun⟩ := h
  rintro ⟨e, he, hs⟩
  rw [hrun] at he
  exact hshort e he hs

lemma Settled.run_snd {r : Reader ε α} (h : Settled r short) (bs : Octets) :
    (r.run bs).2 = bs := by
  obtain ⟨answer, -, hrun⟩ := h
  rw [hrun]

/-! ### Readers of a known number of bytes -/

/-- The reader wants so many bytes and nothing else. Where they are there it takes them, and makes
of them what it does whatever follows; where they are not it fails for want of bytes. -/
structure Wants (r : Reader ε α) (short : ε → Prop) (n : Nat) : Prop where
  few : ∀ bs, bs.length < n → FailsShort r short bs
  enough : ∀ bs, bs.length = n → ∃ a, ∀ more, r.run (bs ++ more) = (.ok a, more)

namespace Wants

variable {r : Reader ε α} {f : α → Reader ε β} {m n : Nat} {bs : Octets}

/-- The first bytes are taken, with any bytes behind the others. -/
lemma run_append (h : Wants r short n) (enough : n ≤ bs.length) :
    ∃ a, ∀ more, r.run (bs ++ more) = (.ok a, bs.drop n ++ more) := by
  obtain ⟨a, ha⟩ := h.enough (bs.take n) (List.length_take_of_le enough)
  refine ⟨a, fun more => ?_⟩
  have hrun := ha (bs.drop n ++ more)
  rwa [← List.append_assoc, List.take_append_drop] at hrun

lemma run_eq_ok (h : Wants r short n) (enough : n ≤ bs.length) :
    ∃ a, r.run bs = (.ok a, bs.drop n) := by
  obtain ⟨a, ha⟩ := h.run_append enough
  exact ⟨a, by simpa using ha []⟩

lemma failsShort_iff (h : Wants r short n) : FailsShort r short bs ↔ bs.length < n := by
  refine ⟨?_, h.few bs⟩
  rintro ⟨e, he, -⟩
  by_contra enough
  obtain ⟨a, ha⟩ := h.run_eq_ok (Nat.not_lt.mp enough)
  rw [ha] at he
  cases he

lemma steady (h : Wants r short n) : Steady r short := by
  intro bs more
  rcases Nat.lt_or_ge bs.length n with few | enough
  · exact .inl (h.few bs few)
  · obtain ⟨a, ha⟩ := h.run_append enough
    have hrun : r.run bs = (.ok a, bs.drop n) := by simpa using ha []
    rw [ha, hrun]
    exact .inr rfl

lemma bind (hr : Wants r short m) (hf : ∀ a, Wants (f a) short n) :
    Wants (r >>= f) short (m + n) where
  few bs few := by
    rcases Nat.lt_or_ge bs.length m with few' | enough
    · exact (hr.few bs few').bind f
    · obtain ⟨a, ha⟩ := hr.run_eq_ok enough
      refine (failsShort_bind_of_ok ha).mpr ((hf a).few _ ?_)
      rw [List.length_drop]
      omega
  enough bs hlength := by
    have hm : m ≤ bs.length := by omega
    obtain ⟨a, ha⟩ := hr.run_append hm
    obtain ⟨b, hb⟩ := (hf a).enough (bs.drop m) (by rw [List.length_drop]; omega)
    exact ⟨b, fun more => (run_bind_of_ok (ha more)).trans (hb more)⟩

end Wants

lemma wants_pure (a : α) : Wants (pure a : Reader ε α) short 0 where
  few _ := nofun
  enough bs hnil := by
    obtain rfl := List.eq_nil_of_length_eq_zero hnil
    exact ⟨a, fun _ => rfl⟩

/-! ### Fields -/

section Fields

variable [HasFault ε]

lemma run_take_short {n : Nat} {bs : Octets} (few : bs.length < n) :
    (take n : Reader ε Octets).run bs = (.error (HasFault.ofFault (.short n bs.length)), bs) := by
  simp [run, take, Octets.cut?_eq_none few]

lemma wants_take (h : AdmitsShort short) (n : Nat) : Wants (take n : Reader ε Octets) short n where
  few bs few := ⟨_, by rw [run_take_short few], h n bs.length⟩
  enough bs hlength := ⟨bs, fun _ => run_take_ok.mpr ⟨hlength, rfl⟩⟩

lemma wants_block (h : AdmitsShort short) (n : Nat) :
    Wants (block n : Reader ε (Block n)) short n where
  few bs few := by
    have hnot : (bs.take n).length ≠ n := by
      rw [List.length_take]
      omega
    exact ⟨_, by rw [run, block, dif_neg hnot], h n bs.length⟩
  enough bs hlength := ⟨⟨bs, hlength⟩, fun _ => run_block_ok.mpr rfl⟩

lemma wants_nat (h : AdmitsShort short) (w : Nat) : Wants (nat w : Reader ε Nat) short w :=
  (wants_take h w).bind fun _ => wants_pure _

lemma wants_u8 (h : AdmitsShort short) : Wants (u8 : Reader ε UInt8) short 1 :=
  (wants_nat h 1).bind fun _ => wants_pure _

lemma wants_u16 (h : AdmitsShort short) : Wants (u16 : Reader ε UInt16) short 2 :=
  (wants_nat h 2).bind fun _ => wants_pure _

lemma wants_u32 (h : AdmitsShort short) : Wants (u32 : Reader ε UInt32) short 4 :=
  (wants_nat h 4).bind fun _ => wants_pure _

/-- To make sure of the bytes in advance changes nothing but when they are found wanting. -/
lemma Wants.needed {r : Reader ε α} {n : Nat} (hr : Wants r short n) (h : AdmitsShort short) :
    Wants (do need n; r) short n where
  few bs few := by
    have hneed : FailsShort (need n : Reader ε Unit) short bs := by
      refine ⟨_, ?_, h n bs.length⟩
      rw [run, need, if_neg (mt Octets.holds_iff.mp (Nat.not_le_of_lt few))]
    exact hneed.bind _
  enough bs hlength := by
    obtain ⟨a, ha⟩ := hr.enough bs hlength
    refine ⟨a, fun more => ?_⟩
    have hneed : (need n : Reader ε Unit).run (bs ++ more) = (.ok (), bs ++ more) :=
      run_need_ok.mpr ⟨by rw [List.length_append]; omega, rfl⟩
    exact (run_bind_of_ok hneed).trans (ha more)

lemma steady_take (h : AdmitsShort short) (n : Nat) : Steady (take n : Reader ε Octets) short :=
  (wants_take h n).steady

lemma steady_u8 (h : AdmitsShort short) : Steady (u8 : Reader ε UInt8) short :=
  (wants_u8 h).steady

lemma steady_u32 (h : AdmitsShort short) : Steady (u32 : Reader ε UInt32) short :=
  (wants_u32 h).steady

lemma steady_code [Code α] (h : AdmitsShort short) (w : Nat) :
    Steady (code α w : Reader ε α) short :=
  (wants_nat h w).steady.bind fun _ => steady_ofExcept _

lemma steady_block (h : AdmitsShort short) (n : Nat) :
    Steady (block n : Reader ε (Block n)) short :=
  (wants_block h n).steady

lemma failsShort_take_iff (h : AdmitsShort short) {n : Nat} {bs : Octets} :
    FailsShort (take n : Reader ε Octets) short bs ↔ bs.length < n :=
  (wants_take h n).failsShort_iff

lemma failsShort_u8_iff (h : AdmitsShort short) {bs : Octets} :
    FailsShort (u8 : Reader ε UInt8) short bs ↔ bs.length < 1 :=
  (wants_u8 h).failsShort_iff

lemma failsShort_u16_iff (h : AdmitsShort short) {bs : Octets} :
    FailsShort (u16 : Reader ε UInt16) short bs ↔ bs.length < 2 :=
  (wants_u16 h).failsShort_iff

lemma failsShort_u32_iff (h : AdmitsShort short) {bs : Octets} :
    FailsShort (u32 : Reader ε UInt32) short bs ↔ bs.length < 4 :=
  (wants_u32 h).failsShort_iff

/-- A code that is there may be unknown, but it is not short. -/
lemma failsShort_code_iff [Code α] (h : AdmitsShort short)
    (known : ∀ n, ¬ short (HasFault.ofFault (.unrecognized (Code.title α) n))) {w : Nat}
    {bs : Octets} : FailsShort (code α w : Reader ε α) short bs ↔ bs.length < w := by
  rw [code, failsShort_bind_iff, (wants_nat h w).failsShort_iff, or_iff_left_iff_imp]
  rintro ⟨n, mid, -, e, he, hshort⟩
  rw [error_of_member he] at hshort
  exact absurd hshort (known n)

lemma not_failsShort_slice {part : String}
    (h : ∀ declared left, ¬ short (HasFault.ofFault (.overrun part declared left))) (n : Nat)
    (bs : Octets) : ¬ FailsShort (slice part n : Reader ε Octets) short bs := by
  rintro ⟨e, he, hshort⟩
  simp only [run, slice] at he
  split at he
  · cases he
  · cases he
    exact h _ _ hshort

end Fields

end Telemetry.Wire.Reader
