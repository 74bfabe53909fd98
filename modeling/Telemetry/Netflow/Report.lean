import Telemetry.Json
import Telemetry.Netflow.Packet

/-!
NetFlow packets as JSON.
-/

namespace Telemetry.Netflow

open Json Wire

def ScopeSpec.toJson (s : ScopeSpec) : Json :=
  obj [("scope", str (Code.name s.scope)), ("length", num s.length.toNat)]

def FieldSpec.toJson (f : FieldSpec) : Json :=
  obj [("field", str f.field.name), ("length", num f.length.toNat)]

def Template.toJson (t : Template) : Json :=
  obj [("template_id", num t.id.toNat), ("scope_fields", ofList ScopeSpec.toJson t.scopes),
    ("fields", ofList FieldSpec.toJson t.fields)]

def FlowValue.toJson : FlowValue → Json
  | unsigned v => tagged "Unsigned" (num v.toNat)
  | ipv4 a => tagged "Ipv4" (str (Ipv4.toText a))
  | ipv6 a => tagged "Ipv6" (str (Ipv6.toText a))
  | mac a => tagged "Mac" (ofOctets a.octets)
  | text s => tagged "String" (str s)
  | bytes bs => tagged "Bytes" (ofOctets bs)

def Flow.toJson (f : Flow) : Json :=
  obj [("field", str f.field.name), ("value", f.value.toJson)]

/-- A scope is a pair of its type and its bytes. -/
def DataRecord.toJson (r : DataRecord) : Json :=
  obj [("scopes", ofList (fun s => arr [str (Code.name s.1), ofOctets s.2]) r.scopes),
    ("flows", ofList Flow.toJson r.flows)]

def FlowSet.toJson : FlowSet → Json
  | templates ts => tagged "Template" (ofList Template.toJson ts)
  | optionsTemplates ts => tagged "OptionsTemplate" (ofList Template.toJson ts)
  | data id records =>
    tagged "Data" (obj [("template_id", num id.toNat), ("records", ofList DataRecord.toJson records)])

def Header.toJson (h : Header) : Json :=
  obj [("version", num h.version.toNat), ("count", num h.count.toNat),
    ("sys_uptime", num h.uptime.toNat), ("unix_secs", num h.seconds.toNat),
    ("sequence_number", num h.sequence.toNat), ("source_id", num h.source.toNat)]

def Packet.toJson (p : Packet) : Json :=
  obj [("header", p.header.toJson), ("flowsets", ofList FlowSet.toJson p.flowSets)]

end Telemetry.Netflow
