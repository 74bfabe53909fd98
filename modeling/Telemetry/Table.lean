/-!
Finite maps: rows of a key and its value, no key twice.
-/

namespace Telemetry

structure Table (κ α : Type) where
  rows : List (κ × α)
  distinct : (rows.map Prod.fst).Nodup

namespace Table

variable {κ α : Type} [DecidableEq κ]

def empty : Table κ α := ⟨[], by simp⟩

/-- How many keys there are. -/
def size (t : Table κ α) : Nat := t.rows.length

/-- The value of a key. -/
def get? (t : Table κ α) (key : κ) : Option α := (t.rows.find? fun r => r.1 == key).map (·.2)

/-- The rows whose keys are wanted. -/
def keep (t : Table κ α) (wanted : κ → Bool) : Table κ α :=
  ⟨t.rows.filter fun r => wanted r.1, t.distinct.sublist (List.filter_sublist.map Prod.fst)⟩

/-- A value for a key, in the place of the one that it may have. -/
def set (t : Table κ α) (key : κ) (a : α) : Table κ α :=
  let others := t.keep (· != key)
  ⟨(key, a) :: others.rows, by
    refine List.nodup_cons.mpr ⟨?_, others.distinct⟩
    simp [others, keep]⟩

omit [DecidableEq κ] in
/-- Two rows with one key are one row. -/
theorem value_eq {t : Table κ α} {key : κ} {a b : α} (ha : (key, a) ∈ t.rows)
    (hb : (key, b) ∈ t.rows) : a = b := by
  obtain ⟨rows, distinct⟩ := t
  induction rows with
  | nil => simp at ha
  | cons r rows ih =>
    simp only [List.map_cons, List.nodup_cons, List.mem_map, not_exists, not_and] at distinct
    obtain ⟨fresh, distinct⟩ := distinct
    rcases List.mem_cons.mp ha with rfl | ha' <;> rcases List.mem_cons.mp hb with h | hb'
    · exact (Prod.mk.inj h).2.symm
    · exact absurd rfl (fresh (key, b) hb')
    · subst h
      exact absurd rfl (fresh (key, a) ha')
    · exact ih distinct ha' hb'

/-- A key has the value that a row of it says. -/
theorem get?_eq_some {t : Table κ α} {key : κ} {a : α} :
    t.get? key = some a ↔ (key, a) ∈ t.rows := by
  constructor
  · intro h
    obtain ⟨⟨k, b⟩, hfind, rfl⟩ := Option.map_eq_some_iff.mp h
    have hkey : k = key := by simpa using List.find?_some hfind
    exact hkey ▸ List.mem_of_find?_eq_some hfind
  · intro h
    obtain ⟨⟨k, b⟩, hfind⟩ : ∃ r, t.rows.find? (fun r => r.1 == key) = some r := by
      refine Option.isSome_iff_exists.mp (List.find?_isSome.mpr ⟨_, h, ?_⟩)
      simp
    have hkey : k = key := by simpa using List.find?_some hfind
    subst hkey
    rw [get?, hfind, Option.map_some, value_eq (List.mem_of_find?_eq_some hfind) h]

@[simp] theorem get?_empty (key : κ) : (empty : Table κ α).get? key = none := rfl

@[simp] theorem get?_keep (t : Table κ α) (wanted : κ → Bool) (key : κ) :
    (t.keep wanted).get? key = if wanted key then t.get? key else none := by
  apply Option.ext
  intro a
  cases h : wanted key <;> simp [get?_eq_some, keep, h]

@[simp] theorem get?_set (t : Table κ α) (key other : κ) (a : α) :
    (t.set key a).get? other = if other = key then some a else t.get? other := by
  apply Option.ext
  intro b
  by_cases h : other = key
  · subst h
    rw [get?_eq_some]
    simp [set, keep, eq_comm]
  · simp [get?_eq_some, set, keep, h]

end Table

end Telemetry
