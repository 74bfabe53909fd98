import Telemetry.Table
import Telemetry.Netflow.Template

/-!
The templates received so far.

A template belongs to one source of one exporter, under its own id. Announced again it replaces
what was there. The number that one exporter may hold is limited, so that nobody can fill the
cache: a new template beyond the limit is refused. One exporter's templates can be forgotten
together.

How many templates an exporter holds is kept beside the templates and never counted again. An
exporter that has no number yet holds nothing.
-/

namespace Telemetry.Netflow

/-- Where a template is kept. -/
structure TemplateKey where
  exporter : Ip
  source : UInt32
  template : UInt16
deriving DecidableEq

structure TemplateCache where
  /-- How many templates one exporter may hold. -/
  limit : Nat
  templates : Table TemplateKey Template
  /-- How many templates each exporter holds. -/
  counts : Table Ip Nat

namespace TemplateCache

/-- The limit where none is given. -/
def defaultLimit : Nat := 4096

def empty (limit : Nat) : TemplateCache := ⟨limit, .empty, .empty⟩

def get? (c : TemplateCache) (exporter : Ip) (source : UInt32) (template : UInt16) :
    Option Template :=
  c.templates.get? ⟨exporter, source, template⟩

/-- How many templates there are. -/
def size (c : TemplateCache) : Nat := c.templates.size

/-- How many templates an exporter holds. -/
def exporterSize (c : TemplateCache) (exporter : Ip) : Nat := (c.counts.get? exporter).getD 0

/-- Keep a template, if its exporter may hold it. The answer says whether it is kept: it replaces
one, or there is room for it. -/
def insert (c : TemplateCache) (exporter : Ip) (source : UInt32) (t : Template) :
    Bool × TemplateCache :=
  let key := ⟨exporter, source, t.id⟩
  let count := c.exporterSize exporter
  if (c.templates.get? key).isSome then
    (true, ⟨c.limit, c.templates.set key t, c.counts.set exporter count⟩)
  else if count < c.limit then
    (true, ⟨c.limit, c.templates.set key t, c.counts.set exporter (count + 1)⟩)
  else (false, ⟨c.limit, c.templates, c.counts.set exporter count⟩)

/-- Forget what an exporter has sent. One without a number has sent nothing that is kept. -/
def removeExporter (c : TemplateCache) (exporter : Ip) : TemplateCache :=
  match c.counts.get? exporter with
  | none => c
  | some _ =>
    ⟨c.limit, c.templates.keep fun key => key.exporter != exporter,
      c.counts.keep (· != exporter)⟩

end TemplateCache

end Telemetry.Netflow
