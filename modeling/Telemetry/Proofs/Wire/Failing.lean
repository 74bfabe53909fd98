import Mathlib
import Telemetry.Wire.Reader

/-!
The errors that a reader can fail with.

A composed reader fails with nothing that its parts do not fail with, and the fields fail with the
faults that all protocols share. So which errors come out of a parser is read off the way it is put
together.
-/

namespace Telemetry.Wire.Reader

variable {ε δ α β : Type} {P : ε → Prop}

def FailsOnly (r : Reader ε α) (P : ε → Prop) : Prop :=
  ∀ bs e rest, r.run bs = (.error e, rest) → P e

@[simp] lemma failsOnly_pure (a : α) : FailsOnly (pure a : Reader ε α) P := by
  intro bs e rest h
  cases h

lemma FailsOnly.bind {r : Reader ε α} {f : α → Reader ε β} (hr : FailsOnly r P)
    (hf : ∀ a, FailsOnly (f a) P) : FailsOnly (r >>= f) P := by
  intro bs e rest h
  replace h : Reader.bind r f bs = (.error e, rest) := h
  unfold Reader.bind at h
  split at h
  · next a mid _ => exact hf a mid e rest h
  · next e' mid hrun =>
    cases h
    exact hr bs e rest hrun

@[simp] lemma failsOnly_fail {e : ε} (h : P e) : FailsOnly (fail e : Reader ε α) P := by
  intro bs e' rest hrun
  cases hrun
  exact h

@[simp] lemma failsOnly_ofExcept {answer : Except ε α} (h : ∀ e, answer = .error e → P e) :
    FailsOnly (ofExcept answer) P := by
  intro bs e rest hrun
  exact h e (Prod.mk.inj hrun).1

@[simp] lemma failsOnly_rest : FailsOnly (Reader.rest : Reader ε Octets) P := by
  intro bs e rest h
  cases h

@[simp] lemma failsOnly_all : FailsOnly (Reader.all : Reader ε Octets) P := by
  intro bs e rest h
  cases h

@[simp] lemma FailsOnly.mapError {f : δ → ε} {r : Reader δ α} (h : FailsOnly r fun e => P (f e)) :
    FailsOnly (r.mapError f) P := by
  intro bs e rest hrun
  replace hrun : Reader.mapError f r bs = (.error e, rest) := hrun
  unfold Reader.mapError at hrun
  split at hrun
  · cases hrun
  · next e' mid hr =>
    cases hrun
    exact h bs e' rest hr

@[simp] lemma FailsOnly.inside {r : Reader ε α} (h : FailsOnly r P) (slice : Octets) :
    FailsOnly (r.inside slice) P := by
  intro bs e rest hrun
  replace hrun : Reader.inside r slice bs = (.error e, rest) := hrun
  unfold Reader.inside at hrun
  split at hrun
  · cases hrun
  · next e' mid hr =>
    cases hrun
    exact h slice e mid hr

/-! ### Fields -/

section Fields

variable [HasFault ε]

/-- A shortage is among the errors. -/
def AdmitsShort (P : ε → Prop) : Prop :=
  ∀ needed left, P (HasFault.ofFault (.short needed left))

def AdmitsFaults (P : ε → Prop) : Prop := ∀ f : Fault, P (HasFault.ofFault f)

@[simp] lemma AdmitsFaults.short (h : AdmitsFaults P) : AdmitsShort P := fun _ _ => h _

@[simp] lemma failsOnly_need (h : AdmitsShort P) (n : Nat) :
    FailsOnly (need n : Reader ε Unit) P := by
  intro bs e rest hrun
  simp only [run, need] at hrun
  split_ifs at hrun
  · cases hrun
  · cases hrun
    exact h _ _

@[simp] lemma failsOnly_take (h : AdmitsShort P) (n : Nat) :
    FailsOnly (take n : Reader ε Octets) P := by
  intro bs e rest hrun
  simp only [run, take] at hrun
  split at hrun
  · cases hrun
  · cases hrun
    exact h _ _

lemma failsOnly_slice_of {part : String}
    (h : ∀ declared left, P (HasFault.ofFault (.overrun part declared left))) (n : Nat) :
    FailsOnly (slice part n : Reader ε Octets) P := by
  intro bs e rest hrun
  simp only [run, slice] at hrun
  split at hrun
  · cases hrun
  · cases hrun
    exact h _ _

@[simp] lemma failsOnly_slice (h : AdmitsFaults P) (part : String) (n : Nat) :
    FailsOnly (slice part n : Reader ε Octets) P :=
  failsOnly_slice_of (fun _ _ => h _) n

@[simp] lemma failsOnly_block (h : AdmitsShort P) (n : Nat) :
    FailsOnly (block n : Reader ε (Block n)) P := by
  intro bs e rest hrun
  simp only [run, block] at hrun
  split_ifs at hrun
  · cases hrun
  · cases hrun
    exact h _ _

@[simp] lemma failsOnly_nat (h : AdmitsShort P) (w : Nat) : FailsOnly (nat w : Reader ε Nat) P :=
  (failsOnly_take h w).bind fun _ => failsOnly_pure _

@[simp] lemma failsOnly_u8 (h : AdmitsShort P) : FailsOnly (u8 : Reader ε UInt8) P :=
  (failsOnly_nat h 1).bind fun _ => failsOnly_pure _

@[simp] lemma failsOnly_u16 (h : AdmitsShort P) : FailsOnly (u16 : Reader ε UInt16) P :=
  (failsOnly_nat h 2).bind fun _ => failsOnly_pure _

@[simp] lemma failsOnly_u32 (h : AdmitsShort P) : FailsOnly (u32 : Reader ε UInt32) P :=
  (failsOnly_nat h 4).bind fun _ => failsOnly_pure _

@[simp] lemma failsOnly_u64 (h : AdmitsShort P) : FailsOnly (u64 : Reader ε UInt64) P :=
  (failsOnly_nat h 8).bind fun _ => failsOnly_pure _

lemma error_of_member [Code α] {n : Nat} {e : ε} (h : (member α n : Except ε α) = .error e) :
    e = HasFault.ofFault (.unrecognized (Code.title α) n) := by
  unfold member at h
  split at h
  · cases h
  · cases h
    rfl

lemma failsOnly_code_of [Code α] (h : AdmitsShort P)
    (unknown : ∀ n, P (HasFault.ofFault (.unrecognized (Code.title α) n))) (w : Nat) :
    FailsOnly (code α w : Reader ε α) P := by
  refine (failsOnly_nat h w).bind fun n => failsOnly_ofExcept fun e he => ?_
  rw [error_of_member he]
  exact unknown n

@[simp] lemma failsOnly_code [Code α] (h : AdmitsFaults P) (w : Nat) :
    FailsOnly (code α w : Reader ε α) P :=
  failsOnly_code_of h.short (fun _ => h _) w

end Fields

/-! ### Repetition -/

lemma FailsOnly.timesInto {item : Reader ε α} (h : FailsOnly item P) {n : Nat} {found : List α}
    {bs rest : Octets} {e : ε} (hrun : Reader.timesInto item n found bs = (.error e, rest)) :
    P e := by
  induction n generalizing found bs with
  | zero => cases hrun
  | succ n ih =>
    unfold Reader.timesInto at hrun
    split at hrun
    · exact ih hrun
    · next e' mid hitem =>
      cases hrun
      exact h bs e rest hitem

@[simp] lemma FailsOnly.times {item : Reader ε α} (h : FailsOnly item P) (n : Nat) :
    FailsOnly (times n item) P :=
  fun _ _ _ hrun => h.timesInto hrun

/-- A loop fails with what an item fails with where it goes on. -/
lemma failure_of_rounds {item : Reader ε α} {more : Octets → Bool}
    (h : ∀ bs e rest, more bs = true → item.run bs = (.error e, rest) → P e) {n : Nat}
    {found : List α} {bs : Octets} {e : ε}
    (hfailure : (Reader.rounds more item n found bs).failure = some e) : P e := by
  induction n generalizing found bs with
  | zero => cases hfailure
  | succ n ih =>
    unfold Reader.rounds at hfailure
    split_ifs at hfailure with hmore
    · split at hfailure
      · exact ih hfailure
      · next e' mid hitem =>
        cases hfailure
        exact h bs e mid hmore hitem

lemma failsOnly_whileLeft {item : Reader ε α} {more : Octets → Bool}
    (h : ∀ bs e rest, more bs = true → item.run bs = (.error e, rest) → P e) :
    FailsOnly (whileLeft more item) P := by
  intro bs e rest hrun
  simp only [run, Reader.whileLeft] at hrun
  split at hrun
  · cases hrun
  · next e' hfailure =>
    cases hrun
    exact failure_of_rounds h hfailure

@[simp] lemma FailsOnly.whileLeft {item : Reader ε α} (h : FailsOnly item P)
    (more : Octets → Bool) : FailsOnly (whileLeft more item) P :=
  failsOnly_whileLeft fun bs e rest _ => h bs e rest

/-! ### Answers -/

lemma bind_eq_error {x : Except ε α} {f : α → Except ε β} {e : ε} :
    (x >>= f) = .error e ↔ x = .error e ∨ ∃ a, x = .ok a ∧ f a = .error e := by
  cases x <;> simp [bind, Except.bind]

lemma failsOnly_mapM {f : β → Except ε α} (h : ∀ b e, f b = .error e → P e) (bs : List β) :
    FailsOnly (ofExcept (bs.mapM f)) P := by
  refine failsOnly_ofExcept ?_
  induction bs with
  | nil =>
    intro e he
    cases he
  | cons b bs ih =>
    intro e he
    rw [List.mapM_cons] at he
    rcases bind_eq_error.mp he with hb | ⟨a, -, hbs⟩
    · exact h b e hb
    rcases bind_eq_error.mp hbs with hbs | ⟨as, -, hpure⟩
    · exact ih e hbs
    · cases hpure

end Telemetry.Wire.Reader
