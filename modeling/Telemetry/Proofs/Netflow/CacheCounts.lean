import Mathlib
import Telemetry.Netflow.TemplateCache

/-!
The numbers kept beside the templates are right.

The cache never counts what it holds; it adds one when a new key comes in and drops the number with
the exporter. `Counted` says that each number is that of the keys kept, and within the limit. The
operations keep it, and forgetting an exporter depends on it: an exporter without a number is taken
to hold nothing.
-/

namespace Telemetry

namespace Table

variable {κ α : Type}

def keys (t : Table κ α) : Finset κ := ⟨t.rows.map Prod.fst, t.distinct⟩

lemma card_keys (t : Table κ α) : t.keys.card = t.size := List.length_map ..

lemma mem_keys [DecidableEq κ] {t : Table κ α} {key : κ} : key ∈ t.keys ↔ (t.get? key).isSome := by
  have hrow : key ∈ t.keys ↔ ∃ a, (key, a) ∈ t.rows := by
    show key ∈ t.rows.map Prod.fst ↔ _
    simp
  rw [hrow, Option.isSome_iff_exists]
  simp only [get?_eq_some]

end Table

namespace Netflow.TemplateCache

variable {c : TemplateCache} {exporter other : Ip} {source : UInt32} {t : Template}
  {key : TemplateKey}

def heldBy (c : TemplateCache) (exporter : Ip) : Finset TemplateKey :=
  c.templates.keys.filter fun key => key.exporter = exporter

lemma mem_heldBy : key ∈ c.heldBy exporter ↔
    (c.templates.get? key).isSome ∧ key.exporter = exporter := by
  rw [heldBy, Finset.mem_filter, Table.mem_keys]

/-- Each number is that of the keys kept for the exporter, and within the limit. -/
structure Counted (c : TemplateCache) : Prop where
  count : ∀ exporter, c.exporterSize exporter = (c.heldBy exporter).card
  bounded : ∀ exporter, c.exporterSize exporter ≤ c.limit

lemma counted_empty (limit : Nat) : Counted (empty limit) where
  count exporter := by
    have hnone : (empty limit).heldBy exporter = ∅ := by
      ext key
      simp [mem_heldBy, empty]
    rw [hnone]
    rfl
  bounded _ := Nat.zero_le _

/-! ### Insertion -/

lemma exporterSize_set (templates : Table TemplateKey Template) (n : Nat) :
    (⟨c.limit, templates, c.counts.set exporter n⟩ : TemplateCache).exporterSize other =
      if other = exporter then n else c.exporterSize other := by
  simp only [exporterSize, Table.get?_set]
  split_ifs <;> rfl

inductive Inserts (c : TemplateCache) (exporter : Ip) (source : UInt32) (t : Template) :
    Bool × TemplateCache → Prop where
  | replaced (held : (c.get? exporter source t.id).isSome) :
    Inserts c exporter source t (true, ⟨c.limit, c.templates.set ⟨exporter, source, t.id⟩ t,
      c.counts.set exporter (c.exporterSize exporter)⟩)
  | added (new : c.get? exporter source t.id = none) (room : c.exporterSize exporter < c.limit) :
    Inserts c exporter source t (true, ⟨c.limit, c.templates.set ⟨exporter, source, t.id⟩ t,
      c.counts.set exporter (c.exporterSize exporter + 1)⟩)
  | refused (new : c.get? exporter source t.id = none)
    (full : c.limit ≤ c.exporterSize exporter) :
    Inserts c exporter source t (false, ⟨c.limit, c.templates,
      c.counts.set exporter (c.exporterSize exporter)⟩)

lemma inserts (c : TemplateCache) (exporter : Ip) (source : UInt32) (t : Template) :
    Inserts c exporter source t (c.insert exporter source t) := by
  unfold insert
  dsimp only
  split_ifs with held room
  · exact .replaced held
  · exact .added (Option.not_isSome_iff_eq_none.mp held) room
  · exact .refused (Option.not_isSome_iff_eq_none.mp held) (Nat.le_of_not_lt room)

/-- A template is kept when it replaces one or when there is room. -/
lemma insert_accepts_iff : (c.insert exporter source t).1 = true ↔
    (c.get? exporter source t.id).isSome ∨ c.exporterSize exporter < c.limit := by
  have h := inserts c exporter source t
  generalize c.insert exporter source t = r at h ⊢
  cases h with
  | replaced held => simp [held]
  | added new room => simp [room]
  | refused new full => simp [new, full]

lemma limit_insert : (c.insert exporter source t).2.limit = c.limit := by
  have h := inserts c exporter source t
  generalize c.insert exporter source t = r at h ⊢
  cases h <;> rfl

lemma get?_insert : (c.insert exporter source t).2.templates.get? key =
    if (c.insert exporter source t).1 = true ∧ key = ⟨exporter, source, t.id⟩ then some t
    else c.templates.get? key := by
  have h := inserts c exporter source t
  generalize c.insert exporter source t = r at h ⊢
  cases h <;> simp

/-- A number grows by one, that of the exporter, when the key is new and the template is kept. -/
lemma exporterSize_insert : (c.insert exporter source t).2.exporterSize other =
    if (c.insert exporter source t).1 = true ∧ c.get? exporter source t.id = none ∧
        other = exporter then c.exporterSize other + 1
    else c.exporterSize other := by
  have h := inserts c exporter source t
  generalize c.insert exporter source t = r at h ⊢
  by_cases hother : other = exporter
  · subst hother
    cases h with
    | replaced held => simp [exporterSize_set, Option.ne_none_iff_isSome.mpr held]
    | added new room => simp [exporterSize_set, new]
    | refused new full => simp [exporterSize_set]
  · cases h <;> simp [exporterSize_set, hother]

lemma heldBy_insert : (c.insert exporter source t).2.heldBy other =
    if (c.insert exporter source t).1 = true ∧ other = exporter then
      Insert.insert ⟨exporter, source, t.id⟩ (c.heldBy other)
    else c.heldBy other := by
  ext key
  by_cases h : (c.insert exporter source t).1 = true ∧ other = exporter
  · obtain ⟨haccepted, rfl⟩ := h
    by_cases hkey : key = ⟨other, source, t.id⟩ <;> simp [mem_heldBy, get?_insert, haccepted, hkey]
  · rw [if_neg h, mem_heldBy, mem_heldBy, get?_insert]
    split_ifs with hnew
    · obtain ⟨haccepted, rfl⟩ := hnew
      simp only [haccepted, true_and] at h
      simp [Ne.symm h]
    · rfl

lemma Counted.insert (h : Counted c) (exporter : Ip) (source : UInt32) (t : Template) :
    Counted (c.insert exporter source t).2 where
  count other := by
    rw [exporterSize_insert, heldBy_insert, h.count]
    by_cases hkept : (c.insert exporter source t).1 = true ∧ other = exporter
    · obtain ⟨haccepted, rfl⟩ := hkept
      have hheld : (⟨other, source, t.id⟩ : TemplateKey) ∈ c.heldBy other ↔
          (c.get? other source t.id).isSome := by
        simp [mem_heldBy, get?]
      rw [if_pos (show _ ∧ other = other from ⟨haccepted, rfl⟩)]
      cases hget : c.get? other source t.id with
      | none =>
        rw [Finset.card_insert_of_notMem (by simp [hheld, hget])]
        simp [haccepted]
      | some old =>
        rw [Finset.insert_eq_of_mem (hheld.mpr (by simp [hget]))]
        simp
    · rw [if_neg hkept, if_neg fun hnew => hkept ⟨hnew.1, hnew.2.2⟩]
  bounded other := by
    rw [exporterSize_insert, limit_insert]
    split_ifs with hnew
    · obtain ⟨haccepted, hnone, rfl⟩ := hnew
      simpa [hnone] using insert_accepts_iff.mp haccepted
    · exact h.bounded other

/-! ### Forgetting an exporter -/

lemma limit_removeExporter : (c.removeExporter exporter).limit = c.limit := by
  unfold removeExporter
  split <;> rfl

lemma exporterSize_removeExporter : (c.removeExporter exporter).exporterSize other =
    if other = exporter then 0 else c.exporterSize other := by
  unfold removeExporter
  split
  · next hnone =>
    split_ifs with h
    · rw [h, exporterSize, hnone, Option.getD_none]
    · rfl
  · by_cases h : other = exporter <;> simp [exporterSize, h]

/-- Nothing of the exporter is left, also when it has no number: then there was nothing. -/
lemma Counted.get?_removeExporter (h : Counted c) :
    (c.removeExporter exporter).templates.get? key =
      if key.exporter = exporter then none else c.templates.get? key := by
  unfold removeExporter
  split
  · next hnone =>
    split_ifs with hkey
    · have hzero : (c.heldBy exporter).card = 0 := by
        rw [← h.count, exporterSize, hnone, Option.getD_none]
      have hnot : key ∉ c.heldBy exporter := by simp [Finset.card_eq_zero.mp hzero]
      simpa [mem_heldBy, hkey] using hnot
    · rfl
  · by_cases hkey : key.exporter = exporter <;> simp [hkey]

lemma Counted.heldBy_removeExporter (h : Counted c) :
    (c.removeExporter exporter).heldBy other =
      if other = exporter then ∅ else c.heldBy other := by
  ext key
  rw [mem_heldBy, h.get?_removeExporter]
  by_cases hother : other = exporter
  · subst hother
    by_cases hkey : key.exporter = other <;> simp [hkey]
  · rw [if_neg hother, mem_heldBy]
    refine and_congr_left fun hkey => ?_
    rw [if_neg (by rwa [hkey])]

lemma Counted.removeExporter (h : Counted c) (exporter : Ip) :
    Counted (c.removeExporter exporter) where
  count other := by
    rw [exporterSize_removeExporter, h.heldBy_removeExporter, h.count]
    split_ifs <;> rfl
  bounded other := by
    rw [exporterSize_removeExporter, limit_removeExporter]
    have := h.bounded other
    split_ifs <;> omega

/-! ### All exporters together -/

def exporters (c : TemplateCache) : Finset Ip := c.templates.keys.image (·.exporter)

lemma Counted.exporterSize_eq_zero (h : Counted c) (hnone : exporter ∉ c.exporters) :
    c.exporterSize exporter = 0 := by
  rw [h.count, Finset.card_eq_zero, Finset.eq_empty_iff_forall_notMem]
  intro key hkey
  obtain ⟨hheld, hexporter⟩ := mem_heldBy.mp hkey
  exact hnone (Finset.mem_image.mpr ⟨key, Table.mem_keys.mpr hheld, hexporter⟩)

lemma Counted.size_eq_sum (h : Counted c) :
    c.size = ∑ exporter ∈ c.exporters, c.exporterSize exporter := by
  calc c.size = c.templates.keys.card := (Table.card_keys c.templates).symm
    _ = ∑ exporter ∈ c.exporters, (c.heldBy exporter).card :=
      Finset.card_eq_sum_card_fiberwise fun key hkey => Finset.mem_image_of_mem _ hkey
    _ = ∑ exporter ∈ c.exporters, c.exporterSize exporter := by simp only [h.count]

end Netflow.TemplateCache

end Telemetry
