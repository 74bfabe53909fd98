/-!
Closed sets of code points.

A protocol numbers its message types, reasons, field types and so on, and leaves gaps. A type with
one constructor per member is tied to those numbers, and to the names that are printed, by one
list; both look-ups search it. The law says that a member's number leads back to the member, so no
two members share a number and none is missing from the list.
-/

namespace Telemetry.Wire

class Code (α : Type) where
  /-- The name of the set in error texts. -/
  title : String
  members : List α
  number : α → Nat
  name : α → String
  find_number : ∀ a : α, members.find? (fun b => number b == number a) = some a

namespace Code

variable {α : Type} [Code α]

/-- The member with a number. -/
def ofNumber? (n : Nat) : Option α := (members : List α).find? fun a => number a == n

/-- The member with a name. -/
def ofName? (s : String) : Option α := (members : List α).find? fun a => name a == s

@[simp] theorem ofNumber?_number (a : α) : ofNumber? (number a) = some a := find_number a

theorem number_of_ofNumber? {n : Nat} {a : α} (h : ofNumber? n = some a) : number a = n := by
  simpa using List.find?_some h

end Code

end Telemetry.Wire
