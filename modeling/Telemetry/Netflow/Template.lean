import Telemetry.Netflow.Error

/-!
Templates: what a data record of an exporter looks like.

A template lists fields with the number of bytes that the exporter gives each. An options template
also says what the options are about, with scopes in front of its fields. Records of both are cut
by the same rule, so one type holds both; a template without scopes is a plain one.

A template is usable when its id is one that data may refer to, when it has a field or a scope at
all, and when none of them is empty. Only usable templates are read, and so each record they
describe takes at least one byte.
-/

namespace Telemetry.Netflow

open Wire

structure FieldSpec where
  field : FlowField
  length : UInt16
deriving DecidableEq

structure ScopeSpec where
  scope : ScopeType
  length : UInt16
deriving DecidableEq

structure Template where
  id : UInt16
  scopes : List ScopeSpec
  fields : List FieldSpec
deriving DecidableEq

namespace FieldSpec

def read : Reader Error FieldSpec := do
  let field ← Reader.code FlowField 2
  return ⟨field, ← Reader.u16⟩

end FieldSpec

namespace ScopeSpec

def read : Reader Error ScopeSpec := do
  let scope ← Reader.code ScopeType 2
  return ⟨scope, ← Reader.u16⟩

end ScopeSpec

namespace Template

/-- A template with scopes describes options. -/
def isOptions (t : Template) : Bool := !t.scopes.isEmpty

/-- The bytes of the parts of a record, scopes first. -/
def lengths (t : Template) : List Nat :=
  t.scopes.map (·.length.toNat) ++ t.fields.map (·.length.toNat)

/-- The bytes of a record. -/
def recordLength (t : Template) : Nat := t.lengths.foldr (· + ·) 0

/-- The least id that data can refer to; what is below means flowsets of another kind. -/
def leastId : Nat := 256

/-- The first thing that makes a template unusable. -/
def flaw? (t : Template) : Option Flaw :=
  if t.id.toNat < leastId then some .reservedId
  else if t.fields.any (·.length == 0) || t.scopes.any (·.length == 0) then some .emptyField
  else if t.recordLength = 0 then some .noFields
  else none

/-- A usable template. -/
def checked (t : Template) : Except Error Template :=
  match t.flaw? with
  | none => .ok t
  | some flaw => .error (.invalidTemplate t.id flaw)

/-- An id, a count, and as many fields. -/
def readPlain : Reader Error Template := do
  let id ← Reader.u16
  let count ← Reader.u16
  let fields ← Reader.times count.toNat FieldSpec.read
  Reader.ofExcept (checked ⟨id, [], fields⟩)

/-- An id, the bytes of the scopes and those of the fields, and both lists. -/
def readOptions : Reader Error Template := do
  let id ← Reader.u16
  let scopeLength ← Reader.u16
  let fieldLength ← Reader.u16
  let scopeBytes ← Reader.slice "NetFlow option scopes" scopeLength.toNat
  let (scopes, _) ← Reader.inside (Reader.untilEnd ScopeSpec.read) scopeBytes
  let fieldBytes ← Reader.slice "NetFlow option fields" fieldLength.toNat
  let (fields, _) ← Reader.inside (Reader.untilEnd FieldSpec.read) fieldBytes
  Reader.ofExcept (checked ⟨id, scopes, fields⟩)

/-- Templates as long as an id and a count are left. Less than that is filling. -/
def readAllPlain : Reader Error (List Template) := Reader.whileLeft (Octets.holds 4) readPlain

/-- Options templates as long as an id and two lengths are left. Less than that is filling. -/
def readAllOptions : Reader Error (List Template) :=
  Reader.whileLeft (Octets.holds 6) readOptions

end Template

end Telemetry.Netflow
