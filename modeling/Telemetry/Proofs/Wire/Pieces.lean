import Telemetry.Proofs.Wire.Reading

/-!
Loops over pieces that say their own length.

The length in front of a piece settles where the next one begins, whatever is in it. So reading such
pieces in a row gives the value of each, as if each had been read alone, up to the first that has
none: that one fails the loop.
-/

namespace Telemetry.Wire.Reader

variable {ε α β γ : Type} {bs mid rest : Octets}

/-! ### A read and what follows it -/

lemma run_bind_of_ok {r : Reader ε α} {f : α → Reader ε β} {a : α}
    (h : r.run bs = (.ok a, mid)) : (r >>= f).run bs = (f a).run mid := by
  show Reader.bind r f bs = _
  rw [run] at h
  simp [Reader.bind, h, run]

lemma run_bind_of_error {r : Reader ε α} {f : α → Reader ε β} {e : ε}
    (h : r.run bs = (.error e, mid)) : (r >>= f).run bs = (.error e, mid) := by
  show Reader.bind r f bs = _
  rw [run] at h
  simp [Reader.bind, h]

section Fields

variable [HasFault ε]

lemma run_bind_u16 {f : UInt16 → Reader ε β} (n : UInt16) :
    (u16 >>= f).run (Octets.ofUInt16 n ++ rest) = (f n).run rest :=
  run_bind_of_ok (run_u16_ok.mpr rfl)

lemma run_bind_u32 {f : UInt32 → Reader ε β} (n : UInt32) :
    (u32 >>= f).run (Octets.ofUInt32 n ++ rest) = (f n).run rest :=
  run_bind_of_ok (run_u32_ok.mpr rfl)

lemma run_bind_u64 {f : UInt64 → Reader ε β} (n : UInt64) :
    (u64 >>= f).run (Octets.ofUInt64 n ++ rest) = (f n).run rest :=
  run_bind_of_ok (run_u64_ok.mpr rfl)

end Fields

lemma exists_run_eq_ok {r : Reader ε α} {a : α} :
    (∃ left, r.run bs = (.ok a, left)) ↔ (r.run bs).1 = .ok a := by
  rcases r.run bs with ⟨answer, left⟩
  simp

lemma run_wrap_fst (r : Reader ε α) (f : α → β) (bs : Octets) :
    ((do return f (← r) : Reader ε β).run bs).1 = (r.run bs).1.map f := by
  rcases h : r.run bs with ⟨e | a, left⟩
  · rw [run_bind_of_error h]
    rfl
  · rw [run_bind_of_ok h]
    rfl

lemma run_mapError_fst {δ : Type} (f : ε → δ) (r : Reader ε α) (bs : Octets) :
    ((mapError f r).run bs).1 = (r.run bs).1.mapError f := by
  simp only [mapError, run]
  rcases r bs with ⟨_ | _, left⟩ <;> rfl

lemma run_inside_fst (r : Reader ε α) (slice : Octets) :
    (do let (a, _) ← inside r slice; return a : Reader ε α).run bs = ((r.run slice).1, bs) := by
  rcases h : r.run slice with ⟨e | a, left⟩
  · have hinside : (inside r slice).run bs = (.error e, bs) := by
      rw [run] at h ⊢
      simp [inside, h]
    rw [run_bind_of_error hinside]
  · rw [run_bind_of_ok (run_inside_ok.mpr ⟨h, rfl⟩)]
    rfl

/-! ### Pieces in a row -/

/-- The values of pieces up to the first that has none, and what is wrong with that one. -/
def upToFailure (value : γ → Except ε α) : List γ → List α × Option ε
  | [] => ([], none)
  | a :: as =>
    match value a with
    | .ok x => (x :: (upToFailure value as).1, (upToFailure value as).2)
    | .error e => ([], some e)

/-- If none of the pieces fails, each has its value. -/
lemma forall₂_upToFailure {value : γ → Except ε α} {as : List γ}
    (h : (upToFailure value as).2 = none) :
    List.Forall₂ (fun a x => value a = .ok x) as (upToFailure value as).1 := by
  induction as with
  | nil => exact .nil
  | cons a as ih =>
    unfold upToFailure at h ⊢
    cases ha : value a with
    | error e => simp [ha] at h
    | ok x =>
      simp only [ha] at h ⊢
      exact .cons ha (ih h)

lemma upToFailure_eq {value : γ → Except ε α} {as : List γ} {xs : List α}
    (h : List.Forall₂ (fun a x => value a = .ok x) as xs) : upToFailure value as = (xs, none) := by
  induction h with
  | nil => rfl
  | cons ha _ ih => simp [upToFailure, ha, ih]

lemma upToFailure_eq_none {value : γ → Except ε α} {as : List γ}
    (h : ∀ a ∈ as, ∃ x, value a = .ok x) : (upToFailure value as).2 = none := by
  induction as with
  | nil => rfl
  | cons a as ih =>
    obtain ⟨x, hx⟩ := h a (by simp)
    simp [upToFailure, hx, ih fun b hb => h b (by simp [hb])]

/-- A loop goes on where a piece begins, and a round reads the piece for its value and leaves what
is behind it. -/
structure Cuts (more : Octets → Bool) (item : Reader ε α) (write : γ → Octets)
    (value : γ → Except ε α) : Prop where
  nonempty : ∀ a, write a ≠ []
  more_write : ∀ a rest, more (write a ++ rest) = true
  run_write : ∀ a rest, item.run (write a ++ rest) = (value a, rest)

namespace Cuts

variable {more : Octets → Bool} {item : Reader ε α} {write : γ → Octets}
  {value : γ → Except ε α}

lemma rounds (cuts : Cuts more item write value) (ended : more rest = false) (as : List γ) (n : Nat)
    (hn : (as.flatMap write ++ rest).length ≤ n) (found : List α) :
    let g := Reader.rounds more item n found (as.flatMap write ++ rest)
    g.items = found.reverse ++ (upToFailure value as).1 ∧ g.failure = (upToFailure value as).2 ∧
      (g.failure = none → g.rest = rest) := by
  induction as generalizing n found with
  | nil => cases n <;> simp [Reader.rounds, ended, upToFailure]
  | cons a as ih =>
    have hpos := List.length_pos_of_ne_nil (cuts.nonempty a)
    simp only [List.flatMap_cons, List.append_assoc, List.length_append] at hn ih
    obtain ⟨n, rfl⟩ : ∃ k, n = k + 1 := ⟨n - 1, by omega⟩
    have hrun : item (write a ++ (as.flatMap write ++ rest)) =
        (value a, as.flatMap write ++ rest) := cuts.run_write a _
    simp only [List.flatMap_cons, List.append_assoc, Reader.rounds, cuts.more_write, if_true, hrun,
      upToFailure]
    cases value a with
    | error e => simp
    | ok x => simpa using ih n (by omega) (x :: found)

/-- What a loop makes of pieces in a row. -/
lemma gather (cuts : Cuts more item write value) (ended : more rest = false) (as : List γ) :
    let g := Reader.gather more item (as.flatMap write ++ rest)
    g.items = (upToFailure value as).1 ∧ g.failure = (upToFailure value as).2 ∧
      (g.failure = none → g.rest = rest) :=
  cuts.rounds ended as _ (Nat.le_refl _) []

lemma run_whileLeft (cuts : Cuts more item write value) (ended : more rest = false)
    (as : List γ) (xs : List α) (left : Octets) :
    (whileLeft more item).run (as.flatMap write ++ rest) = (.ok xs, left) ↔
      List.Forall₂ (fun a x => value a = .ok x) as xs ∧ left = rest := by
  obtain ⟨hitems, hfailure, hrest⟩ := cuts.gather ended as
  simp only [run, whileLeft]
  cases hf : (upToFailure value as).2 with
  | none =>
    have hall := forall₂_upToFailure hf
    rw [hf] at hfailure
    simp only [hfailure, hitems, hrest hfailure, Prod.mk.injEq, Except.ok.injEq]
    refine ⟨?_, ?_⟩
    · rintro ⟨rfl, rfl⟩
      exact ⟨hall, rfl⟩
    · rintro ⟨h, rfl⟩
      rw [upToFailure_eq h]
      exact ⟨rfl, rfl⟩
  | some e =>
    rw [hf] at hfailure
    simp only [hfailure, Prod.mk.injEq, reduceCtorEq, false_and, false_iff]
    rintro ⟨h, -⟩
    rw [upToFailure_eq h] at hf
    cases hf

end Cuts

/-- Where a loop goes on only at pieces, its input is pieces, and an end at which it stops. -/
lemma exists_pieces {more : Octets → Bool} {write : γ → Octets} (nonempty : ∀ a, write a ≠ [])
    (only : ∀ bs, more bs = true → ∃ a rest, bs = write a ++ rest) (bs : Octets) :
    ∃ as rest, bs = List.flatMap write as ++ rest ∧ more rest = false := by
  induction hn : bs.length using Nat.strong_induction_on generalizing bs with
  | _ n ih =>
    subst hn
    cases hmore : more bs with
    | false => exact ⟨[], bs, by simp, hmore⟩
    | true =>
      obtain ⟨a, mid, rfl⟩ := only bs hmore
      have hpos := List.length_pos_of_ne_nil (nonempty a)
      obtain ⟨as, rest, rfl, hrest⟩ := ih mid.length (by simp; omega) mid rfl
      exact ⟨a :: as, rest, by simp, hrest⟩

end Telemetry.Wire.Reader
