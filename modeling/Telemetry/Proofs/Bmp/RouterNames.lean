import Mathlib
import Telemetry.Bmp.Packet

/-!
What a router is called.

A router can say its name in any initiation, more than once, and leave it out in a later one. The
last initiation that has a name counts, and in it the first name.
-/

namespace Telemetry.Bmp

variable {ps : List Packet} {name name' : Option String}

namespace Message

/-- What the router calls itself in this message, if it does. -/
def systemName? : Message → Option String
  | initiation ts => InitiationTlv.systemName? ts
  | _ => none

/-- The message calls the router so: it is an initiation, and of its texts that are system names
this is the first. -/
def Names (m : Message) (name : String) : Prop :=
  ∃ before after, m = initiation (before ++ ⟨.sysName, name⟩ :: after) ∧
    ∀ t ∈ before, t.type ≠ .sysName

def Nameless (m : Message) : Prop :=
  ∀ ts, m = initiation ts → ∀ t ∈ ts, t.type ≠ .sysName

lemma systemName?_eq_some_iff {m : Message} {name : String} :
    m.systemName? = some name ↔ m.Names name := by
  cases m with
  | initiation ts =>
    rw [systemName?, InitiationTlv.systemName?, Option.map_eq_some_iff]
    constructor
    · rintro ⟨⟨type, text⟩, hfound, rfl⟩
      obtain ⟨htype, before, after, rfl, hbefore⟩ := List.find?_eq_some_iff_append.mp hfound
      obtain rfl : type = .sysName := by simpa using htype
      exact ⟨before, after, rfl, by simpa using hbefore⟩
    · rintro ⟨before, after, hts, hbefore⟩
      obtain rfl := initiation.inj hts
      refine ⟨⟨.sysName, name⟩, List.find?_eq_some_iff_append.mpr ?_, rfl⟩
      exact ⟨rfl, before, after, rfl, by simpa using hbefore⟩
  | termination ts => simp [systemName?, Names]
  | peer header report => simp [systemName?, Names]

lemma systemName?_eq_none_iff {m : Message} : m.systemName? = none ↔ m.Nameless := by
  cases m with
  | initiation ts => simp [systemName?, InitiationTlv.systemName?, Nameless]
  | termination ts => simp [systemName?, Nameless]
  | peer header report => simp [systemName?, Nameless]

end Message

def Packet.systemName? (p : Packet) : Option String := p.message.systemName?

lemma filterMap_systemName?_eq_nil_iff :
    ps.filterMap Packet.systemName? = [] ↔ ∀ p ∈ ps, p.message.Nameless := by
  simp only [List.filterMap_eq_nil_iff, Packet.systemName?, Message.systemName?_eq_none_iff]

/-- How a router is called after its packets: as the last of them says that has a system name. -/
inductive Called : List Packet → Option String → Prop where
  | never {ps : List Packet} (nameless : ∀ p ∈ ps, p.message.Nameless) : Called ps none
  | last {front back : List Packet} {p : Packet} {name : String} (names : p.message.Names name)
    (nameless : ∀ q ∈ back, q.message.Nameless) : Called (front ++ p :: back) (some name)

lemma called_iff : Called ps name ↔ (ps.filterMap Packet.systemName?).getLast? = name := by
  constructor
  · intro h
    cases h with
    | never nameless => rw [filterMap_systemName?_eq_nil_iff.mpr nameless, List.getLast?_nil]
    | @last front back p name names nameless =>
      have hp : p.systemName? = some name := Message.systemName?_eq_some_iff.mpr names
      rw [List.filterMap_append, List.filterMap_cons_some hp,
        filterMap_systemName?_eq_nil_iff.mpr nameless, List.getLast?_concat]
  · rintro rfl
    cases hlast : (ps.filterMap Packet.systemName?).getLast? with
    | none =>
      rw [List.getLast?_eq_none_iff, filterMap_systemName?_eq_nil_iff] at hlast
      exact .never hlast
    | some name =>
      -- the name that is found last is that of a packet, and those behind it have none
      obtain ⟨names, hnames⟩ := List.getLast?_eq_some_iff.mp hlast
      obtain ⟨front, later, rfl, -, hlater⟩ := List.filterMap_eq_append_iff.mp hnames
      obtain ⟨between, p, back, rfl, -, hp, hback⟩ := List.filterMap_eq_cons_iff.mp hlater
      rw [← List.append_assoc]
      exact .last (Message.systemName?_eq_some_iff.mp hp)
        (filterMap_systemName?_eq_nil_iff.mp hback)

lemma Called.unique (h : Called ps name) (h' : Called ps name') : name = name' :=
  (called_iff.mp h).symm.trans (called_iff.mp h')

end Telemetry.Bmp
