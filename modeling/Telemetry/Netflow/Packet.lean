import Telemetry.Netflow.Record
import Telemetry.Netflow.TemplateCache
import Telemetry.Log

/-!
NetFlow version 9 packets.

A packet is a header and flowsets: templates, options templates, and data that some template
describes. The template may stand behind its data in the packet, so decoding has two passes. The
first cuts the packet into flowsets and reads the templates; they are kept in the order of the
packet, also those in front of a flowset that fails. Only when all flowsets are there does the
second pass look up the templates of the data, in the order of the packet.
-/

namespace Telemetry.Netflow

open Wire

structure Header where
  version : UInt16
  /-- How many records the exporter says there are. -/
  count : UInt16
  /-- Milliseconds since the exporter started. -/
  uptime : UInt32
  /-- Seconds since 1970. -/
  seconds : UInt32
  sequence : UInt32
  /-- Which part of the exporter speaks. -/
  source : UInt32
deriving DecidableEq

inductive FlowSet where
  | templates (templates : List Template)
  | optionsTemplates (templates : List Template)
  | data (template : UInt16) (records : List DataRecord)
deriving DecidableEq

structure Packet where
  header : Header
  flowSets : List FlowSet
deriving DecidableEq

namespace Header

def version9 : UInt16 := 9

/-- What follows the version has to be there as a whole. -/
def read : Reader Error Header := do
  let version ← Reader.u16
  if version ≠ version9 then Reader.fail (.unsupportedVersion version)
  else
    Reader.need 18
    return {
      version
      count := ← Reader.u16
      uptime := ← Reader.u32
      seconds := ← Reader.u32
      sequence := ← Reader.u32
      source := ← Reader.u32 }

end Header

/-! ## The first pass -/

/-- A flowset before its data are decoded. -/
inductive RawSet where
  | templates (templates : List Template)
  | optionsTemplates (templates : List Template)
  | data (template : UInt16) (body : Octets)
  /-- A flowset whose id has no meaning, which is skipped. -/
  | reserved (id : UInt16)
deriving DecidableEq

namespace RawSet

/-- The length of an id and a length. -/
def headLength : Nat := 4

/-- The content of a flowset. -/
def ofBody (id : UInt16) : Reader Error RawSet := do
  if id = 0 then return templates (← Template.readAllPlain)
  else if id = 1 then return optionsTemplates (← Template.readAllOptions)
  else if id.toNat < Template.leastId then return reserved id
  else return data id (← Reader.all)

/-- An id, a length that counts both, and a slice for the content. -/
def read : Reader Error RawSet := do
  let id ← Reader.u16
  let length ← Reader.u16
  if length.toNat < headLength then Reader.fail (.invalidSetLength length)
  else
    let body ← Reader.slice "NetFlow flowset" (length.toNat - headLength)
    let (set, _) ← Reader.inside (Reader.mapError Error.inSet (ofBody id)) body
    return set

/-- All flowsets up to the end or to the first that fails. -/
def gather (bs : Octets) : Reader.Gathered Error RawSet := Reader.gather Reader.notEnded read bs

/-- The templates that the flowset announces. -/
def announced : RawSet → List Template
  | templates ts | optionsTemplates ts => ts
  | data .. | reserved _ => []

end RawSet

/-! ## Keeping templates -/

/-- What decoding has to remark. -/
inductive Event where
  | announced (exporter : Ip) (source : UInt32) (template : UInt16)
  | refused (exporter : Ip) (source : UInt32) (limit : Nat) (template : UInt16)
  | skipped (exporter : Ip) (id : UInt16)
deriving DecidableEq

namespace Event

def level : Event → Log.Level
  | announced .. => .trace
  | refused .. => .warn
  | skipped .. => .debug

/-- The exporter, and which part of it. -/
def origin (exporter : Ip) (source : UInt32) : String :=
  "NetFlow exporter " ++ exporter.toText ++ " source " ++ toString source.toNat

def text : Event → String
  | announced exporter source template =>
    origin exporter source ++ ": template " ++ toString template.toNat
  | refused exporter source limit template =>
    origin exporter source ++ ": template limit " ++ toString limit ++
      " reached, ignoring template " ++ toString template.toNat
  | skipped exporter id =>
    "NetFlow exporter " ++ exporter.toText ++ ": skipping reserved flowset id " ++
      toString id.toNat

def line (e : Event) : Log.Line := ⟨e.level, e.text⟩

end Event

/-- A cache, and what has been said so far, last remark first. -/
structure Keeping where
  cache : TemplateCache
  said : List Event

namespace Keeping

/-- Offer one template to the cache. -/
def register (exporter : Ip) (source : UInt32) (k : Keeping) (t : Template) : Keeping :=
  let (kept, cache) := k.cache.insert exporter source t
  if kept then { k with cache }
  else ⟨cache, .refused exporter source cache.limit t.id :: k.said⟩

/-- Offer the templates of a flowset. A plain template is remarked on before it is offered. -/
def add (exporter : Ip) (source : UInt32) (k : Keeping) : RawSet → Keeping
  | .templates ts =>
    ts.foldl (fun k t =>
      register exporter source { k with said := .announced exporter source t.id :: k.said } t) k
  | .optionsTemplates ts => ts.foldl (register exporter source) k
  | .data .. => k
  | .reserved id => { k with said := .skipped exporter id :: k.said }

end Keeping

/-! ## The second pass -/

/-- The flowset with its data decoded by the template that `find?` knows. A skipped flowset leaves
nothing. -/
def RawSet.resolve (find? : UInt16 → Except Error Template) : RawSet → Except Error (Option FlowSet)
  | templates ts => .ok (some (.templates ts))
  | optionsTemplates ts => .ok (some (.optionsTemplates ts))
  | data id body => do
    let t ← find? id
    return some (.data id (t.records body))
  | reserved _ => .ok none

/-- The template of some data, or the error that there is none. -/
def TemplateCache.require (c : TemplateCache) (exporter : Ip) (source : UInt32) (id : UInt16) :
    Except Error Template :=
  match c.get? exporter source id with
  | some t => .ok t
  | none => .error (.missingTemplate exporter source id)

/-- All flowsets, or the first error among them. -/
def RawSet.resolveAll (find? : UInt16 → Except Error Template) (sets : List RawSet) :
    Except Error (List FlowSet) := do
  return (← sets.mapM (RawSet.resolve find?)).filterMap id

/-! ## Both together -/

/-- What comes of a packet: the answer, the bytes not consumed, the cache after it, and the
remarks. -/
structure Decoded where
  answer : Except Error Packet
  rest : Octets
  cache : TemplateCache
  events : List Event

/-- Decode a packet of an exporter. -/
def decode (exporter : Ip) (cache : TemplateCache) (bs : Octets) : Decoded :=
  match Header.read.run bs with
  | (.error e, rest) => ⟨.error e, rest, cache, []⟩
  | (.ok header, rest) =>
    let g := RawSet.gather rest
    let k := g.items.foldl (Keeping.add exporter header.source) ⟨cache, []⟩
    let answer := match g.failure with
      | some e => .error e
      | none => do
        let find? := k.cache.require exporter header.source
        return ⟨header, ← RawSet.resolveAll find? g.items⟩
    ⟨answer, g.rest, k.cache, k.said.reverse⟩

end Telemetry.Netflow
