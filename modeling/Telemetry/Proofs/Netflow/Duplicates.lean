import Telemetry.Proofs.Netflow.CacheHistory
import Telemetry.Proofs.Netflow.Flowsets

/-!
Packets that arrive twice.

What an exporter offers to the cache is settled by the offer: behind it the template is held, or the
exporter holds as many as it may, and neither changes while the exporter only offers more. So when
everything is offered again nothing comes in that is not held, and nothing is refused that is. Under
each key that is held the last template offered is found, after the first time and after the second.
-/

namespace Telemetry.Netflow

open Wire Reader

namespace TemplateCache

variable {c d : TemplateCache} {exporter : Ip} {source : UInt32} {t : Template} {ts : List Template}
  {key : TemplateKey}

lemma insertAll_concat (c : TemplateCache) (exporter : Ip) (source : UInt32) (ts : List Template)
    (t : Template) : c.insertAll exporter source (ts ++ [t]) =
      ((c.insertAll exporter source ts).insert exporter source t).2 :=
  insertAll_append c exporter source ts [t]

/-! ### Offers are settled -/

/-- It is settled whether a template is taken under the key: it replaces one, or its exporter holds
as many as it may. -/
def Settled (c : TemplateCache) (key : TemplateKey) : Prop :=
  (c.templates.get? key).isSome ∨ c.limit ≤ c.exporterSize key.exporter

lemma settled_of_insert : (c.insert exporter source t).2.Settled ⟨exporter, source, t.id⟩ := by
  unfold Settled
  rw [get?_insert, limit_insert, exporterSize_insert]
  cases haccepted : (c.insert exporter source t).1 with
  | true => simp
  | false =>
    have hroom := mt insert_accepts_iff.mpr (Bool.eq_false_iff.mp haccepted)
    simp only [not_or, Nat.not_lt] at hroom
    simpa using .inr hroom.2

/-- What is held stays held, and an exporter at its limit stays there. -/
lemma Settled.insert (h : c.Settled key) (exporter : Ip) (source : UInt32) (t : Template) :
    (c.insert exporter source t).2.Settled key := by
  unfold Settled
  rw [get?_insert, limit_insert, exporterSize_insert]
  refine h.imp (fun hheld => ?_) fun hfull => ?_
  · split_ifs
    · rfl
    · exact hheld
  · split_ifs <;> omega

lemma settled_of_insertAll (ht : t ∈ ts) :
    (c.insertAll exporter source ts).Settled ⟨exporter, source, t.id⟩ := by
  induction ts using List.reverseRecOn with
  | nil => cases ht
  | append_singleton ts u ih =>
    rw [insertAll_concat]
    rcases List.mem_append.mp ht with hts | hu
    · exact (ih hts).insert exporter source u
    · obtain rfl := List.mem_singleton.mp hu
      exact settled_of_insert

/-! ### Settled offers -/

/-- The caches have the same keys and the same room for more. -/
structure SameRoom (c d : TemplateCache) : Prop where
  limit : c.limit = d.limit
  count : ∀ exporter, c.exporterSize exporter = d.exporterSize exporter
  held : ∀ key, (c.templates.get? key).isSome = (d.templates.get? key).isSome

lemma SameRoom.settled_iff (h : SameRoom c d) : c.Settled key ↔ d.Settled key := by
  rw [Settled, Settled, h.limit, h.count, h.held]

lemma SameRoom.size_eq (h : SameRoom c d) : c.size = d.size := by
  have hkeys : c.templates.keys = d.templates.keys := by
    ext key
    rw [Table.mem_keys, Table.mem_keys, h.held]
  calc c.size = c.templates.keys.card := (Table.card_keys c.templates).symm
    _ = d.templates.keys.card := by rw [hkeys]
    _ = d.size := Table.card_keys d.templates

lemma Settled.sameRoom (h : c.Settled ⟨exporter, source, t.id⟩) :
    SameRoom (c.insert exporter source t).2 c := by
  have haccepts : (c.insert exporter source t).1 = true →
      (c.get? exporter source t.id).isSome := fun haccepted =>
    (insert_accepts_iff.mp haccepted).elim id fun hroom =>
      h.resolve_right (Nat.not_le_of_lt hroom)
  refine ⟨limit_insert, fun other => ?_, fun key => ?_⟩
  · rw [exporterSize_insert, if_neg]
    rintro ⟨haccepted, hnone, -⟩
    simpa [hnone] using haccepts haccepted
  · rw [get?_insert]
    split_ifs with hkey
    · obtain ⟨haccepted, rfl⟩ := hkey
      exact (haccepts haccepted).symm
    · rfl

lemma sameRoom_insertAll (h : ∀ t ∈ ts, c.Settled ⟨exporter, source, t.id⟩) :
    SameRoom (c.insertAll exporter source ts) c := by
  induction ts using List.reverseRecOn with
  | nil => exact ⟨rfl, fun _ => rfl, fun _ => rfl⟩
  | append_singleton ts t ih =>
    have hfront := ih fun u hu => h u (List.mem_append_left _ hu)
    have hlast := (hfront.settled_iff.mpr (h t (by simp))).sameRoom
    rw [insertAll_concat]
    exact ⟨hlast.limit.trans hfront.limit, fun e => (hlast.count e).trans (hfront.count e),
      fun key => (hlast.held key).trans (hfront.held key)⟩

/-! ### The last offer counts -/

def lastOffered (exporter : Ip) (source : UInt32) (ts : List Template) (key : TemplateKey) :
    Option Template :=
  ts.reverse.find? fun t => key = ⟨exporter, source, t.id⟩

lemma lastOffered_concat (ts : List Template) (t : Template) (key : TemplateKey) :
    lastOffered exporter source (ts ++ [t]) key =
      if key = ⟨exporter, source, t.id⟩ then some t else lastOffered exporter source ts key := by
  rw [lastOffered, List.reverse_append, List.reverse_singleton, List.singleton_append,
    List.find?_cons]
  by_cases hkey : key = ⟨exporter, source, t.id⟩ <;> simp [hkey, lastOffered]

/-- Under a key that is held at the end no offer has been refused, so the last one is found. -/
lemma get?_insertAll_of_held
    (h : ((c.insertAll exporter source ts).templates.get? key).isSome) :
    (c.insertAll exporter source ts).templates.get? key =
      (lastOffered exporter source ts key).or (c.templates.get? key) := by
  induction ts using List.reverseRecOn with
  | nil => rfl
  | append_singleton ts t ih =>
    rw [insertAll_concat] at h ⊢
    rw [lastOffered_concat]
    by_cases hkey : key = ⟨exporter, source, t.id⟩
    · subst hkey
      cases haccepted : ((c.insertAll exporter source ts).insert exporter source t).1 with
      | true => rw [get?_insert, if_pos ⟨haccepted, rfl⟩, if_pos rfl, Option.some_or]
      | false =>
        -- a refusal needs that the key is not held, and leaves it so
        rw [get?_insert, if_neg (by simp [haccepted])] at h
        have := insert_accepts_iff.mpr (.inl h)
        rw [haccepted] at this
        cases this
    · rw [get?_insert, if_neg fun hnew => hkey hnew.2] at h ⊢
      rw [if_neg hkey]
      exact ih h

lemma insertAll_again (c : TemplateCache) (exporter : Ip) (source : UInt32) (ts : List Template) :
    SameAnswers ((c.insertAll exporter source ts).insertAll exporter source ts)
      (c.insertAll exporter source ts) := by
  have hroom : SameRoom ((c.insertAll exporter source ts).insertAll exporter source ts)
      (c.insertAll exporter source ts) := sameRoom_insertAll fun t ht => settled_of_insertAll ht
  refine ⟨fun e s id => ?_, hroom.count, hroom.size_eq⟩
  set d := c.insertAll exporter source ts
  have hheld := hroom.held ⟨e, s, id⟩
  unfold get?
  by_cases hfirst : (d.templates.get? ⟨e, s, id⟩).isSome
  · calc (d.insertAll exporter source ts).templates.get? ⟨e, s, id⟩
        = (lastOffered exporter source ts ⟨e, s, id⟩).or (d.templates.get? ⟨e, s, id⟩) :=
          get?_insertAll_of_held (hheld.trans hfirst)
      _ = (lastOffered exporter source ts ⟨e, s, id⟩).or (c.templates.get? ⟨e, s, id⟩) := by
          rw [get?_insertAll_of_held hfirst, ← Option.or_assoc, Option.or_self]
      _ = d.templates.get? ⟨e, s, id⟩ := (get?_insertAll_of_held hfirst).symm
  · -- what was refused is refused again
    rw [Option.not_isSome_iff_eq_none.mp hfirst, ← Option.not_isSome_iff_eq_none, hheld]
    exact hfirst

end TemplateCache

/-! ### Packets -/

lemma require_eq {c d : TemplateCache} (h : TemplateCache.SameAnswers c d) (exporter : Ip)
    (source : UInt32) : c.require exporter source = d.require exporter source := by
  funext id
  rw [TemplateCache.require, TemplateCache.require, h.1]

lemma rest_decode (exporter : Ip) (c d : TemplateCache) (bs : Octets) :
    (decode exporter c bs).rest = (decode exporter d bs).rest := by
  unfold decode
  rcases Header.read.run bs with ⟨e | header, rest⟩ <;> rfl

/-- The answer depends on the cache as it is when the packet has been cut. -/
lemma answer_decode_eq {exporter : Ip} {c d : TemplateCache} {bs : Octets}
    (h : TemplateCache.SameAnswers (decode exporter c bs).cache (decode exporter d bs).cache) :
    (decode exporter c bs).answer = (decode exporter d bs).answer := by
  rcases hheader : Header.read.run bs with ⟨e | header, rest⟩
  · rw [decode_of_no_header hheader, decode_of_no_header hheader]
  · rw [answer_decode_of_header hheader, answer_decode_of_header hheader, require_eq h]

/-- **A packet that arrives twice does no harm.** Whatever the bytes and whatever the cache, when
they are decoded again the answer is the same, packet or error, as many bytes are consumed, and no
question tells the cache from what it was after the first time. -/
theorem decode_again (exporter : Ip) (cache : TemplateCache) (bs : Octets) :
    let first := decode exporter cache bs
    let second := decode exporter first.cache bs
    second.answer = first.answer ∧ second.rest = first.rest ∧
      TemplateCache.SameAnswers second.cache first.cache := by
  intro first second
  have hcache : TemplateCache.SameAnswers second.cache first.cache := by
    rcases hheader : Header.read.run bs with ⟨e | header, rest⟩
    · have hkept : ∀ c, (decode exporter c bs).cache = c := fun c => by
        rw [decode_of_no_header hheader]
      rw [show second.cache = first.cache from hkept _]
      exact ⟨fun _ _ _ => rfl, fun _ => rfl, rfl⟩
    · rw [show second.cache = _ from cache_decode_of_header hheader,
        show first.cache = _ from cache_decode_of_header hheader]
      exact TemplateCache.insertAll_again ..
  exact ⟨answer_decode_eq hcache, rest_decode .., hcache⟩

end Telemetry.Netflow
