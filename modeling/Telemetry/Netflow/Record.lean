import Telemetry.Netflow.Template
import Telemetry.Text.Utf8

/-!
Data records, cut from bytes as a template says.

The records of a flowset follow each other without gaps, and so do the fields of a record, so
every position is settled by the lengths in the template. What is left behind the last whole
record is filling. Cutting never fails: a field whose length does not suit its kind keeps its
bytes.
-/

namespace Telemetry.Netflow

open Wire

inductive FlowValue where
  | unsigned (value : UInt64)
  | ipv4 (address : Ipv4)
  | ipv6 (address : Ipv6)
  | mac (address : Mac)
  | text (text : String)
  | bytes (bytes : Octets)
deriving DecidableEq

namespace FlowValue

def asNat? : FlowValue → Option UInt64
  | unsigned v => some v
  | _ => none

def asIp? : FlowValue → Option Ip
  | ipv4 a => some (.v4 a)
  | ipv6 a => some (.v6 a)
  | _ => none

/-- A text without the zero characters at its end. -/
def trimmed (s : String) : String :=
  String.ofList (s.toList.reverse.dropWhile (· == '\x00')).reverse

/-- The value of a field of a kind. -/
def ofKind (kind : FieldKind) (bs : Octets) : FlowValue :=
  match kind with
  | .unsigned =>
    if 1 ≤ bs.length ∧ bs.length ≤ 8 then unsigned (UInt64.ofNat (Octets.value bs)) else bytes bs
  | .ipv4 => match Block.ofOctets? 4 bs with
    | some a => ipv4 a
    | none => bytes bs
  | .ipv6 => match Block.ofOctets? 16 bs with
    | some a => ipv6 a
    | none => bytes bs
  | .mac => match Block.ofOctets? 6 bs with
    | some a => mac a
    | none => bytes bs
  | .text => text (trimmed (Text.Utf8.decode bs))
  | .raw => bytes bs

end FlowValue

structure Flow where
  field : FlowField
  value : FlowValue
deriving DecidableEq

structure DataRecord where
  scopes : List (ScopeType × Octets)
  flows : List Flow
deriving DecidableEq

namespace DataRecord

/-- The value of the first flow of a field. -/
def get? (r : DataRecord) (field : FlowField) : Option FlowValue :=
  (r.flows.find? fun f => f.field == field).map (·.value)

end DataRecord

/-- Consecutive pieces of the given lengths. -/
def pieces : List Nat → Octets → List Octets
  | [], _ => []
  | n :: ns, bs => bs.take n :: pieces ns (bs.drop n)

namespace Template

/-- The record that bytes of the right number spell. -/
def record (t : Template) (bs : Octets) : DataRecord :=
  let parts := pieces t.lengths bs
  let scopes := List.zipWith (fun s part => (s.scope, part)) t.scopes parts
  let flows := List.zipWith (fun f part => ⟨f.field, FlowValue.ofKind f.field.kind part⟩)
    t.fields (parts.drop t.scopes.length)
  ⟨scopes, flows⟩

/-- The first `n` records, behind those found so far in reverse. -/
def recordsInto (t : Template) (length : Nat) : Nat → List DataRecord → Octets → List DataRecord
  | 0, found, _ => found.reverse
  | n + 1, found, bs => recordsInto t length n (t.record (bs.take length) :: found) (bs.drop length)

/-- As many records as there are whole ones. -/
def records (t : Template) (bs : Octets) : List DataRecord :=
  recordsInto t t.recordLength (bs.length / t.recordLength) [] bs

end Template

end Telemetry.Netflow
