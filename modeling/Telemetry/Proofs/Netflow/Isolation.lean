import Telemetry.Proofs.Netflow.Flowsets

/-!
Exporters do not reach each other through the cache that they share.

What the cache does for an exporter depends on the limit and on what is kept of that exporter: its
share. A request of the exporter is answered from its share alone, and a request of anybody else
leaves the share as it was. So an exporter gets among all others the replies that it gets alone.

The number that is kept beside the templates is part of the share as it stands, also where it is
missing: whether an exporter without a number holds anything does not matter here.
-/

namespace Telemetry.Netflow

/-- What a cache keeps for one exporter. -/
structure Share where
  limit : Nat
  count : Option Nat
  find : UInt32 → UInt16 → Option Template

namespace TemplateCache

def share (c : TemplateCache) (exporter : Ip) : Share :=
  ⟨c.limit, c.counts.get? exporter, c.get? exporter⟩

variable {c d : TemplateCache} {exporter other : Ip}

lemma share_eq_iff : c.share exporter = d.share exporter ↔
    c.limit = d.limit ∧ c.counts.get? exporter = d.counts.get? exporter ∧
      ∀ source id, c.get? exporter source id = d.get? exporter source id := by
  simp only [share, Share.mk.injEq, funext_iff]

lemma exporterSize_of_share (h : c.share exporter = d.share exporter) :
    c.exporterSize exporter = d.exporterSize exporter := by
  rw [exporterSize, exporterSize, (share_eq_iff.mp h).2.1]

/-! ### Insertion and removal -/

lemma share_insert_other (h : other ≠ exporter) (source : UInt32) (t : Template) :
    (c.insert other source t).2.share exporter = c.share exporter := by
  unfold insert
  dsimp only
  split_ifs <;> simp [share_eq_iff, get?, h.symm]

lemma share_insertAll_other (h : other ≠ exporter) (source : UInt32) (ts : List Template) :
    (c.insertAll other source ts).share exporter = c.share exporter := by
  unfold insertAll
  induction ts generalizing c with
  | nil => rfl
  | cons t ts ih => rw [List.foldl_cons, ih, share_insert_other h]

lemma insert_own (h : c.share exporter = d.share exporter) (source : UInt32) (t : Template) :
    (c.insert exporter source t).1 = (d.insert exporter source t).1 ∧
      (c.insert exporter source t).2.share exporter =
        (d.insert exporter source t).2.share exporter := by
  have hsize := exporterSize_of_share h
  obtain ⟨hlimit, hcount, hget⟩ := share_eq_iff.mp h
  have hheld := hget source t.id
  simp only [get?] at hheld hget
  unfold insert
  simp only [hheld, hlimit, hsize]
  split_ifs <;> simp [share_eq_iff, get?, hget]

lemma share_removeExporter_other (h : other ≠ exporter) :
    (c.removeExporter other).share exporter = c.share exporter := by
  unfold removeExporter
  split
  · rfl
  · simp [share_eq_iff, get?, h.symm]

lemma removeExporter_own (h : c.share exporter = d.share exporter) :
    (c.removeExporter exporter).share exporter = (d.removeExporter exporter).share exporter := by
  obtain ⟨hlimit, hcount, -⟩ := share_eq_iff.mp h
  unfold removeExporter
  rw [hcount]
  split
  · exact h
  · simp [share_eq_iff, get?, hlimit]

end TemplateCache

/-! ### The first pass -/

namespace Keeping

open TemplateCache

variable {k l : Keeping} {exporter : Ip}

/-- The exporter has the same share in both, and the same has been said. -/
def Alike (exporter : Ip) (k l : Keeping) : Prop :=
  k.cache.share exporter = l.cache.share exporter ∧ k.said = l.said

lemma Alike.say (h : Alike exporter k l) (e : Event) :
    Alike exporter { k with said := e :: k.said } { l with said := e :: l.said } :=
  ⟨h.1, congrArg (e :: ·) h.2⟩

lemma Alike.register (h : Alike exporter k l) (source : UInt32) (t : Template) :
    Alike exporter (k.register exporter source t) (l.register exporter source t) := by
  obtain ⟨haccepted, hshare⟩ := insert_own h.1 source t
  have hlimit := (share_eq_iff.mp hshare).1
  unfold Keeping.register
  simp only [haccepted, hlimit, h.2]
  split_ifs <;> exact ⟨hshare, rfl⟩

lemma Alike.add (h : Alike exporter k l) (source : UInt32) (set : RawSet) :
    Alike exporter (k.add exporter source set) (l.add exporter source set) := by
  cases set with
  | templates ts => exact List.foldl_rel h fun t _ _ _ h => (h.say _).register source t
  | optionsTemplates ts => exact List.foldl_rel h fun t _ _ _ h => h.register source t
  | data id body => exact h
  | reserved id => exact h.say _

end Keeping

namespace TemplateCache

variable {c d : TemplateCache} {exporter other : Ip}

lemma share_decode_other (h : other ≠ exporter) (bs : Octets) :
    (decode other c bs).cache.share exporter = c.share exporter := by
  unfold decode
  split
  · rfl
  · dsimp only
    rw [Keeping.cache_foldl_add, share_insertAll_other h]

lemma require_own (h : c.share exporter = d.share exporter) (source : UInt32) :
    c.require exporter source = d.require exporter source := by
  funext id
  rw [require, require, (share_eq_iff.mp h).2.2]

lemma decode_own (h : c.share exporter = d.share exporter) (bs : Octets) :
    (decode exporter c bs).answer = (decode exporter d bs).answer ∧
      (decode exporter c bs).rest = (decode exporter d bs).rest ∧
      (decode exporter c bs).events = (decode exporter d bs).events ∧
      (decode exporter c bs).cache.share exporter =
        (decode exporter d bs).cache.share exporter := by
  unfold decode
  split
  · exact ⟨rfl, rfl, rfl, h⟩
  · next header rest _ =>
    have hstart : Keeping.Alike exporter ⟨c, []⟩ ⟨d, []⟩ := ⟨h, rfl⟩
    have hkeeping := List.foldl_rel (l := (RawSet.gather rest).items) hstart
      fun set _ _ _ h => Keeping.Alike.add h header.source set
    dsimp only
    rw [require_own hkeeping.1, hkeeping.2]
    exact ⟨rfl, rfl, rfl, hkeeping.1⟩

/-! ### Requests -/

inductive Request where
  | packet (bs : Octets)
  | insert (source : UInt32) (t : Template)
  | get (source : UInt32) (template : UInt16)
  | forget

inductive Reply where
  | decoded (answer : Except Error Packet) (rest : Octets) (events : List Event)
  | inserted (accepted : Bool)
  | found (t : Option Template)
  | forgotten

def serve (c : TemplateCache) (exporter : Ip) : Request → Reply × TemplateCache
  | .packet bs =>
    let d := decode exporter c bs
    (.decoded d.answer d.rest d.events, d.cache)
  | .insert source t =>
    let (accepted, c) := c.insert exporter source t
    (.inserted accepted, c)
  | .get source template => (.found (c.get? exporter source template), c)
  | .forget => (.forgotten, c.removeExporter exporter)

/-- The replies to requests in a row, each with the number of templates that its exporter then
holds. -/
def replies (c : TemplateCache) : List (Ip × Request) → List (Ip × Reply × Nat)
  | [] => []
  | (exporter, request) :: requests =>
    let (reply, d) := c.serve exporter request
    (exporter, reply, d.exporterSize exporter) :: d.replies requests

lemma share_serve_other (h : other ≠ exporter) (request : Request) :
    (c.serve other request).2.share exporter = c.share exporter := by
  cases request with
  | packet bs => exact share_decode_other h bs
  | insert source t => exact share_insert_other h source t
  | get source template => rfl
  | forget => exact share_removeExporter_other h

/-- A request is answered from the share of its exporter. -/
lemma serve_own (h : c.share exporter = d.share exporter) (request : Request) :
    (c.serve exporter request).1 = (d.serve exporter request).1 ∧
      (c.serve exporter request).2.share exporter =
        (d.serve exporter request).2.share exporter := by
  cases request with
  | packet bs =>
    obtain ⟨hanswer, hrest, hevents, hshare⟩ := decode_own h bs
    exact ⟨by simp only [serve, hanswer, hrest, hevents], hshare⟩
  | insert source t =>
    obtain ⟨haccepted, hshare⟩ := insert_own h source t
    exact ⟨congrArg Reply.inserted haccepted, hshare⟩
  | get source template =>
    exact ⟨congrArg Reply.found ((share_eq_iff.mp h).2.2 source template), h⟩
  | forget => exact ⟨rfl, removeExporter_own h⟩

/-- Where the shares of an exporter agree, its replies among all are those that it gets alone. -/
lemma replies_own (h : c.share exporter = d.share exporter) (requests : List (Ip × Request)) :
    (c.replies requests).filter (fun r => r.1 = exporter) =
      d.replies (requests.filter fun r => r.1 = exporter) := by
  induction requests generalizing c d with
  | nil => rfl
  | cons r requests ih =>
    obtain ⟨asker, request⟩ := r
    by_cases hasker : asker = exporter
    · subst hasker
      obtain ⟨hreply, hshare⟩ := serve_own h request
      simp [replies, hreply, exporterSize_of_share hshare, ih hshare]
    · -- alone, the exporter skips the request, and its share does not notice
      have hshare := (share_serve_other hasker request).trans h
      simp [replies, hasker, ih hshare]

/-- **Exporters do not reach each other.** In any sequence of requests to a fresh cache, packets of
any bytes among them, each exporter gets the replies that it gets when its requests alone are made,
in their order: the same packets or errors, bytes left, remarks, acceptances, templates found and
numbers of templates held. -/
theorem replies_alone (limit : Nat) (requests : List (Ip × Request)) (exporter : Ip) :
    ((empty limit).replies requests).filter (fun r => r.1 = exporter) =
      (empty limit).replies (requests.filter fun r => r.1 = exporter) :=
  replies_own rfl requests

end TemplateCache

end Telemetry.Netflow
