import Telemetry.Proofs.Netflow.CacheCounts

/-!
The template cache against its history.

A history is what was asked of a cache, with the answers. What the cache finds under a key is what
the last event that touches the key has left there: an insertion that was accepted, or the removal
of its exporter. How many templates an exporter has is how many of its keys are found, and whether
a new key is accepted depends on that number and the limit alone.
-/

namespace Telemetry.Netflow.TemplateCache

inductive Call where
  | insert (exporter : Ip) (source : UInt32) (t : Template)
  | get (exporter : Ip) (source : UInt32) (template : UInt16)
  | remove (exporter : Ip)

inductive Answer where
  | inserted (accepted : Bool)
  | found (t : Option Template)
  | removed
deriving DecidableEq

def perform (c : TemplateCache) : Call → Answer × TemplateCache
  | .insert exporter source t =>
    let (accepted, c) := c.insert exporter source t
    (.inserted accepted, c)
  | .get exporter source template => (.found (c.get? exporter source template), c)
  | .remove exporter => (.removed, c.removeExporter exporter)

/-- A cache, and what it was asked and has answered so far. -/
structure Run where
  cache : TemplateCache
  history : List (Call × Answer)

def Run.step (r : Run) (call : Call) : Run :=
  ⟨(r.cache.perform call).2, r.history ++ [(call, (r.cache.perform call).1)]⟩

def run (c : TemplateCache) (calls : List Call) : Run := calls.foldl Run.step ⟨c, []⟩

lemma run_append (c : TemplateCache) (calls : List Call) (call : Call) :
    run c (calls ++ [call]) = (run c calls).step call := by
  simp [run, List.foldl_append]

/-- What an event leaves under a key, if it touches the key at all: a template, or none. -/
def leaves (key : TemplateKey) : Call × Answer → Option (Option Template)
  | (.insert exporter source t, .inserted true) =>
    if key = ⟨exporter, source, t.id⟩ then some (some t) else none
  | (.remove exporter, _) => if key.exporter = exporter then some none else none
  | _ => none

/-- What the last event that touches the key has left there. -/
def latest (key : TemplateKey) (history : List (Call × Answer)) : Option Template :=
  (history.reverse.findSome? (leaves key)).join

/-- The keys under which calls offer templates of an exporter. -/
def offered (exporter : Ip) (calls : List Call) : Finset TemplateKey :=
  (calls.filterMap fun
    | .insert e source t => if e = exporter then some ⟨e, source, t.id⟩ else none
    | _ => none).toFinset

/-- No question tells the caches apart. -/
def SameAnswers (c d : TemplateCache) : Prop :=
  (∀ exporter source id, c.get? exporter source id = d.get? exporter source id) ∧
    (∀ exporter, c.exporterSize exporter = d.exporterSize exporter) ∧ c.size = d.size

variable {c : TemplateCache} {exporter : Ip} {source : UInt32} {t : Template} {key : TemplateKey}

/-! ### One call -/

lemma Counted.perform (h : Counted c) (call : Call) : Counted (c.perform call).2 := by
  cases call with
  | insert exporter source t => exact h.insert exporter source t
  | get exporter source template => exact h
  | remove exporter => exact h.removeExporter exporter

lemma limit_perform (call : Call) : (c.perform call).2.limit = c.limit := by
  cases call with
  | insert exporter source t => exact limit_insert
  | get exporter source template => rfl
  | remove exporter => exact limit_removeExporter

/-- A call changes what is found under a key to what its event leaves there. -/
lemma Counted.get?_perform (h : Counted c) (call : Call) :
    (c.perform call).2.templates.get? key =
      (leaves key (call, (c.perform call).1)).getD (c.templates.get? key) := by
  cases call with
  | insert exporter source t =>
    simp only [TemplateCache.perform]
    rw [get?_insert]
    cases (c.insert exporter source t).1 with
    | true => by_cases hkey : key = ⟨exporter, source, t.id⟩ <;> simp [leaves, hkey]
    | false => simp [leaves]
  | get exporter source template => rfl
  | remove exporter =>
    simp only [TemplateCache.perform]
    rw [h.get?_removeExporter]
    by_cases hkey : key.exporter = exporter <;> simp [leaves, hkey]

lemma refused_sameAnswers (h : (c.insert exporter source t).1 = false) :
    SameAnswers (c.insert exporter source t).2 c := by
  refine ⟨fun e s id => ?_, fun e => ?_, ?_⟩
  · simp only [get?]
    rw [get?_insert, if_neg (by simp [h])]
  · rw [exporterSize_insert, if_neg (by simp [h])]
  · have hinserts := inserts c exporter source t
    generalize c.insert exporter source t = r at h hinserts ⊢
    cases hinserts with
    | replaced held => simp at h
    | added new room => simp at h
    | refused new full => rfl

/-! ### Runs -/

lemma Counted.run (h : Counted c) (calls : List Call) :
    Counted (c.run calls).cache ∧ (c.run calls).cache.limit = c.limit := by
  induction calls using List.reverseRecOn with
  | nil => exact ⟨h, rfl⟩
  | append_singleton calls call ih =>
    rw [run_append]
    exact ⟨ih.1.perform call, (limit_perform call).trans ih.2⟩

lemma get?_run (limit : Nat) (calls : List Call) :
    ((empty limit).run calls).cache.templates.get? key =
      latest key ((empty limit).run calls).history := by
  induction calls using List.reverseRecOn with
  | nil => rfl
  | append_singleton calls call ih =>
    rw [run_append]
    simp only [Run.step]
    rw [((counted_empty limit).run calls).1.get?_perform, ih, latest, latest, List.reverse_append]
    simp only [List.reverse_singleton, List.singleton_append, List.findSome?_cons]
    cases leaves key (call, (((empty limit).run calls).cache.perform call).1) <;> rfl

lemma offered_append (calls : List Call) (call : Call) :
    offered exporter (calls ++ [call]) = offered exporter calls ∪ offered exporter [call] := by
  simp only [offered, List.filterMap_append, List.toFinset_append]

/-- An exporter has no key that it had not and that was not offered. -/
lemma Counted.heldBy_run_subset (h : Counted c) (calls : List Call) :
    (c.run calls).cache.heldBy exporter ⊆ c.heldBy exporter ∪ offered exporter calls := by
  induction calls using List.reverseRecOn with
  | nil => exact Finset.subset_union_left
  | append_singleton calls call ih =>
    have hcounted := (h.run calls).1
    rw [run_append, offered_append, ← Finset.union_assoc]
    cases call with
    | insert e source t =>
      simp only [Run.step, TemplateCache.perform]
      rw [heldBy_insert]
      split_ifs with hnew
      · obtain ⟨-, rfl⟩ := hnew
        refine Finset.insert_subset ?_ (ih.trans Finset.subset_union_left)
        simp [offered]
      · exact ih.trans Finset.subset_union_left
    | get e source template => exact ih.trans Finset.subset_union_left
    | remove e =>
      simp only [Run.step, TemplateCache.perform]
      rw [hcounted.heldBy_removeExporter]
      split_ifs
      · exact Finset.empty_subset _
      · exact ih.trans Finset.subset_union_left

lemma Counted.not_refused (h : Counted c) (hnone : c.heldBy exporter = ∅) (calls : List Call)
    (few : (offered exporter calls).card ≤ c.limit) :
    (Call.insert exporter source t, Answer.inserted false) ∉ (c.run calls).history := by
  induction calls using List.reverseRecOn with
  | nil => simp [TemplateCache.run]
  | append_singleton calls call ih =>
    have hfew : (offered exporter calls).card ≤ c.limit := by
      refine (Finset.card_le_card ?_).trans few
      rw [offered_append]
      exact Finset.subset_union_left
    rw [run_append]
    simp only [Run.step, List.mem_append, List.mem_singleton, not_or]
    refine ⟨ih hfew, fun hlast => ?_⟩
    obtain ⟨hcounted, hlimit⟩ := h.run calls
    obtain ⟨rfl, hanswer⟩ := Prod.mk.inj hlast
    -- the last call was refused, so its key was new and the exporter held as many as it may
    have hrefused : ((c.run calls).cache.insert exporter source t).1 = false :=
      (Answer.inserted.inj hanswer).symm
    have hnot := mt insert_accepts_iff.mpr (by rw [hrefused]; decide)
    rw [not_or, hlimit, hcounted.count] at hnot
    have hnew : (⟨exporter, source, t.id⟩ : TemplateKey) ∉ (c.run calls).cache.heldBy exporter := by
      simpa [mem_heldBy, get?] using hnot.1
    have hsubset : Insert.insert ⟨exporter, source, t.id⟩ ((c.run calls).cache.heldBy exporter) ⊆
        offered exporter (calls ++ [.insert exporter source t]) := by
      have hheld : (c.run calls).cache.heldBy exporter ⊆ _ ∪ offered exporter calls :=
        h.heldBy_run_subset calls
      rw [hnone, Finset.empty_union] at hheld
      rw [offered_append]
      refine Finset.insert_subset ?_ (hheld.trans Finset.subset_union_left)
      simp [offered]
    have hcard := Finset.card_le_card hsubset
    rw [Finset.card_insert_of_notMem hnew] at hcard
    omega

/-- **The template cache is a bounded map.** After any calls on a fresh cache, under each key it
finds the template that was accepted last since its exporter was forgotten. The number of an
exporter is that of its keys that are found, it is within the limit, and the numbers add up to the
size. A template is accepted exactly when its key is held or its exporter is below the limit, and
one that is refused changes no answer. When an exporter is forgotten nothing of it is left, it may
fill its share again, and the others keep what they have. -/
theorem run_refines (limit : Nat) (calls : List Call) :
    let c := ((empty limit).run calls).cache
    let history := ((empty limit).run calls).history
    (∀ exporter source id, c.get? exporter source id = latest ⟨exporter, source, id⟩ history) ∧
    ((∀ exporter, c.exporterSize exporter ≤ limit ∧ ∃ keys : Finset TemplateKey,
        (∀ key, key ∈ keys ↔
          (c.get? key.exporter key.source key.template).isSome ∧ key.exporter = exporter) ∧
        c.exporterSize exporter = keys.card) ∧
      ∃ exporters : Finset Ip, (∀ exporter ∉ exporters, c.exporterSize exporter = 0) ∧
        c.size = ∑ exporter ∈ exporters, c.exporterSize exporter) ∧
    (∀ exporter source t,
      ((c.insert exporter source t).1 = true ↔
        (c.get? exporter source t.id).isSome ∨ c.exporterSize exporter < limit) ∧
      ((c.insert exporter source t).1 = false → SameAnswers (c.insert exporter source t).2 c)) ∧
    ∀ exporter,
      let d := c.removeExporter exporter
      (∀ source id, d.get? exporter source id = none) ∧ d.exporterSize exporter = 0 ∧
      (∀ later, (offered exporter later).card ≤ limit → ∀ source t,
        (Call.insert exporter source t, Answer.inserted false) ∉ (d.run later).history) ∧
      ∀ other, other ≠ exporter → d.exporterSize other = c.exporterSize other ∧
        ∀ source id, d.get? other source id = c.get? other source id := by
  intro c history
  obtain ⟨hcounted, hlimit⟩ : Counted c ∧ c.limit = limit := (counted_empty limit).run calls
  refine ⟨fun exporter source id => get?_run limit calls, ⟨fun exporter => ⟨?_, ?_⟩, ?_⟩,
    fun exporter source t => ⟨?_, refused_sameAnswers⟩, fun exporter => ?_⟩
  · exact hlimit ▸ hcounted.bounded exporter
  · exact ⟨c.heldBy exporter, fun key => mem_heldBy, hcounted.count exporter⟩
  · exact ⟨c.exporters, fun exporter => hcounted.exporterSize_eq_zero, hcounted.size_eq_sum⟩
  · rw [insert_accepts_iff, hlimit]
  · intro d
    have hnone : d.heldBy exporter = ∅ := by rw [hcounted.heldBy_removeExporter, if_pos rfl]
    refine ⟨fun source id => ?_, ?_, fun later few source t => ?_, fun other hother => ⟨?_, ?_⟩⟩
    · exact hcounted.get?_removeExporter.trans (if_pos rfl)
    · exact exporterSize_removeExporter.trans (if_pos rfl)
    · refine (hcounted.removeExporter exporter).not_refused hnone later ?_
      rwa [limit_removeExporter, hlimit]
    · exact exporterSize_removeExporter.trans (if_neg hother)
    · intro source id
      exact hcounted.get?_removeExporter.trans (if_neg hother)

/-- One template an exporter: a second one is refused while the first may be announced again, and it
is taken once the exporter is forgotten. -/
example :
    let router := Ip.v4 (Block.ofNat 4 0x0a000001)
    let calls : List Call := [.insert router 1 ⟨256, [], []⟩, .insert router 1 ⟨257, [], []⟩,
      .insert router 1 ⟨256, [], []⟩, .remove router, .insert router 1 ⟨257, [], []⟩,
      .get router 1 256]
    ((empty 1).run calls).history.map (·.2) = [.inserted true, .inserted false, .inserted true,
      .removed, .inserted true, .found none] := by
  decide

end Telemetry.Netflow.TemplateCache
