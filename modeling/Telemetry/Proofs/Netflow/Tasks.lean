import Mathlib
import Telemetry.Proofs.Netflow.Flowsets

/-!
Decoding in steps.

Where several tasks decode packets with one cache between them, anything another task does can come
between two accesses of a task to the cache. So decoding is taken apart here: at each step a task
offers one template, or looks up one, or does something that concerns nobody else. A task that is
alone gets where decoding in one piece gets.
-/

namespace Telemetry.Netflow

open Wire Reader

def RawSet.data? : RawSet → Option (UInt16 × Octets)
  | data id body => some (id, body)
  | _ => none

def FlowSet.data? : FlowSet → Option (UInt16 × List DataRecord)
  | data id records => some (id, records)
  | _ => none

/-- How far the decoding of a packet has come. -/
inductive Stage where
  /-- The first pass: the templates in `left` are still to be offered. -/
  | offering (header : Header) (sets : List RawSet) (failure : Option Error) (left : List Template)
  /-- The second pass: the flowsets in `left` are still to be resolved. -/
  | resolving (header : Header) (left : List RawSet) (resolved : List FlowSet)
  | ended (answer : Except Error Packet)
deriving DecidableEq

/-- The template of some data was looked up, and found or not. -/
structure Look where
  key : TemplateKey
  body : Octets
  found : Option Template
deriving DecidableEq

inductive Access where
  /-- A template was offered under its key, and accepted or not. -/
  | offered (key : TemplateKey) (t : Template) (accepted : Bool)
  | looked (look : Look)
deriving DecidableEq

namespace Stage

/-- A packet has come. It is cut into flowsets without the cache. -/
def start (bs : Octets) : Stage :=
  match Header.read.run bs with
  | (.error e, _) => ended (.error e)
  | (.ok header, rest) =>
    let g := RawSet.gather rest
    offering header g.items g.failure (g.items.flatMap RawSet.announced)

/-- The access to the cache that resolving a flowset takes. Only data needs one. -/
def look? (exporter : Ip) (source : UInt32) (c : TemplateCache) : RawSet → Option Access
  | .data id body =>
    some (.looked ⟨⟨exporter, source, id⟩, body, c.get? exporter source id⟩)
  | _ => none

/-- One step of a task: how far it has come then, the cache, and the access if there was one. -/
def step (exporter : Ip) (c : TemplateCache) : Stage → Stage × TemplateCache × Option Access
  | offering header sets failure (t :: left) =>
    let (accepted, d) := c.insert exporter header.source t
    (offering header sets failure left, d,
      some (.offered ⟨exporter, header.source, t.id⟩ t accepted))
  | offering _ _ (some e) [] => (ended (.error e), c, none)
  | offering header sets none [] => (resolving header sets [], c, none)
  | resolving header (set :: left) resolved =>
    let access := look? exporter header.source c set
    match set.resolve (c.require exporter header.source) with
    | .ok o => (resolving header left (resolved ++ o.toList), c, access)
    | .error e => (ended (.error e), c, access)
  | resolving header [] resolved => (ended (.ok ⟨header, resolved⟩), c, none)
  | ended answer => (ended answer, c, none)

/-! ### Alone -/

/-- A step with nobody else at the cache. -/
def advance (exporter : Ip) (s : Stage × TemplateCache) : Stage × TemplateCache :=
  ((s.1.step exporter s.2).1, (s.1.step exporter s.2).2.1)

lemma advance_offering (exporter : Ip) (header : Header) (c : TemplateCache) (sets : List RawSet)
    (failure : Option Error) (left : List Template) :
    (advance exporter)^[left.length] (offering header sets failure left, c) =
      (offering header sets failure [], c.insertAll exporter header.source left) := by
  induction left generalizing c with
  | nil => rfl
  | cons t left ih => exact ih (c.insert exporter header.source t).2

lemma advance_resolving (exporter : Ip) (header : Header) (c : TemplateCache) (left : List RawSet)
    (resolved : List FlowSet) :
    ∃ n, (advance exporter)^[n] (resolving header left resolved, c) =
      (ended (do
        let fs ← RawSet.resolveAll (c.require exporter header.source) left
        return ⟨header, resolved ++ fs⟩), c) := by
  induction left generalizing resolved with
  | nil =>
    refine ⟨1, ?_⟩
    show (ended (.ok ⟨header, resolved⟩), c) = (ended (.ok ⟨header, resolved ++ []⟩), c)
    rw [List.append_nil]
  | cons set left ih =>
    rw [RawSet.resolveAll_cons_eq]
    cases hset : set.resolve (c.require exporter header.source) with
    | error e => exact ⟨1, by simp [advance, step, hset]; rfl⟩
    | ok o =>
      obtain ⟨n, hn⟩ := ih (resolved ++ o.toList)
      refine ⟨n + 1, ?_⟩
      have hstep : advance exporter (resolving header (set :: left) resolved, c) =
          (resolving header left (resolved ++ o.toList), c) := by
        simp [advance, step, hset]
      rw [Function.iterate_succ_apply, hstep, hn]
      cases RawSet.resolveAll (c.require exporter header.source) left with
      | error e => rfl
      | ok fs => simp [List.append_assoc]; rfl

/-- **A task that is alone decodes its packet.** After some steps it has ended, with the answer and
the cache of decoding in one piece. -/
theorem decodes_alone (exporter : Ip) (c : TemplateCache) (bs : Octets) :
    ∃ n, (advance exporter)^[n] (start bs, c) =
      (ended (decode exporter c bs).answer, (decode exporter c bs).cache) := by
  rcases hheader : Header.read.run bs with ⟨e | header, rest⟩
  · exact ⟨0, by simp only [start, decode, hheader, Function.iterate_zero_apply]⟩
  · have hoffered := advance_offering exporter header c
      (RawSet.gather rest).items (RawSet.gather rest).failure
      ((RawSet.gather rest).items.flatMap RawSet.announced)
    simp only [start, decode, hheader, Keeping.cache_foldl_add]
    cases hfailure : (RawSet.gather rest).failure with
    | some e =>
      rw [hfailure] at hoffered
      refine ⟨1 + ((RawSet.gather rest).items.flatMap RawSet.announced).length, ?_⟩
      rw [Function.iterate_add_apply, hoffered]
      rfl
    | none =>
      rw [hfailure] at hoffered
      obtain ⟨n, hn⟩ := advance_resolving exporter header
        (c.insertAll exporter header.source ((RawSet.gather rest).items.flatMap RawSet.announced))
        (RawSet.gather rest).items []
      refine ⟨n + 1 + ((RawSet.gather rest).items.flatMap RawSet.announced).length, ?_⟩
      rw [Function.iterate_add_apply, hoffered, Function.iterate_succ_apply]
      exact hn

/-! ### Among others -/

inductive Steps (exporter : Ip) (c : TemplateCache) :
    Stage → Stage × TemplateCache × Option Access → Prop where
  | offers {header sets failure t left} :
    Steps exporter c (offering header sets failure (t :: left))
      (offering header sets failure left, (c.insert exporter header.source t).2,
        some (.offered ⟨exporter, header.source, t.id⟩ t (c.insert exporter header.source t).1))
  | breaks {header sets e} :
    Steps exporter c (offering header sets (some e) []) (ended (.error e), c, none)
  | turns {header sets} :
    Steps exporter c (offering header sets none []) (resolving header sets [], c, none)
  | decodes {header id body left resolved t} (found : c.get? exporter header.source id = some t) :
    Steps exporter c (resolving header (.data id body :: left) resolved)
      (resolving header left (resolved ++ [.data id (t.records body)]), c,
        some (.looked ⟨⟨exporter, header.source, id⟩, body, some t⟩))
  | misses {header id body left resolved} (missing : c.get? exporter header.source id = none) :
    Steps exporter c (resolving header (.data id body :: left) resolved)
      (ended (.error (.missingTemplate exporter header.source id)), c,
        some (.looked ⟨⟨exporter, header.source, id⟩, body, none⟩))
  | passes {header set left resolved new} (plain : set.data? = none)
    (free : new.filterMap FlowSet.data? = []) :
    Steps exporter c (resolving header (set :: left) resolved)
      (resolving header left (resolved ++ new), c, none)
  | ends {header resolved} :
    Steps exporter c (resolving header [] resolved) (ended (.ok ⟨header, resolved⟩), c, none)
  | rests {answer} : Steps exporter c (ended answer) (ended answer, c, none)

lemma steps (exporter : Ip) (c : TemplateCache) (stage : Stage) :
    Steps exporter c stage (stage.step exporter c) := by
  cases stage with
  | offering header sets failure left =>
    cases left with
    | cons t left => exact .offers
    | nil =>
      cases failure with
      | some e => exact .breaks
      | none => exact .turns
  | resolving header left resolved =>
    cases left with
    | nil => exact .ends
    | cons set left =>
      cases set with
      | templates ts => exact .passes rfl rfl
      | optionsTemplates ts => exact .passes rfl rfl
      | reserved id => exact .passes rfl rfl
      | data id body =>
        simp only [step, look?, RawSet.resolve, TemplateCache.require]
        cases hget : c.get? exporter header.source id with
        | some t => exact .decodes hget
        | none => exact .misses hget
  | ended answer => exact .rests

end Stage
end Telemetry.Netflow
