import Telemetry.Text.Digits
import Telemetry.Octets

/-!
JSON values and their compact text.

Only what telemetry needs: numbers are natural, since everything on the wire is. The text has no
blanks, and the fields of an object stand in the order of their names, so equal values have equal
texts however their objects were put together.
-/

namespace Telemetry

inductive Json where
  | null
  | bool (value : Bool)
  | num (value : Nat)
  | str (value : String)
  | arr (items : List Json)
  | obj (fields : List (String × Json))

namespace Json

/-- One character inside a string: quotes, backslashes and control characters are written with a
backslash, all else stands for itself. -/
def escape (c : Char) : String :=
  match c with
  | '"' => "\\\""
  | '\\' => "\\\\"
  | '\x08' => "\\b"
  | '\x0c' => "\\f"
  | '\n' => "\\n"
  | '\r' => "\\r"
  | '\t' => "\\t"
  | _ => if c.toNat < 0x20 then "\\u" ++ Text.hexPadded 4 c.toNat else c.toString

/-- A string in quotes. -/
def quoted (s : String) : String :=
  s.toList.foldl (fun text c => text ++ escape c) "\"" ++ "\""

/-- Texts with commas between them, inside brackets. -/
def bracketed (left right : String) (texts : List String) : String :=
  left ++ ",".intercalate texts ++ right

mutual

/-- The text of a value. -/
def render : Json → String
  | null => "null"
  | bool b => if b then "true" else "false"
  | num n => toString n
  | str s => quoted s
  | arr items => bracketed "[" "]" (renderItems items)
  | obj fields =>
    let sorted := (renderFields fields).mergeSort fun a b => decide (a.1 ≤ b.1)
    bracketed "\x7b" "\x7d" (sorted.map fun f => quoted f.1 ++ ":" ++ f.2)

def renderItems : List Json → List String
  | [] => []
  | item :: items => render item :: renderItems items

def renderFields : List (String × Json) → List (String × String)
  | [] => []
  | (name, value) :: fields => (name, render value) :: renderFields fields

end

/-! ## Values that occur everywhere -/

/-- Bytes are a list of numbers. -/
def ofOctets (bs : Octets) : Json := arr (bs.map fun b => num b.toNat)

def ofList {α : Type} (toJson : α → Json) (xs : List α) : Json := arr (xs.map toJson)

/-- A value, or `null` where there is none. -/
def ofOption {α : Type} (toJson : α → Json) : Option α → Json
  | some a => toJson a
  | none => null

/-- A value marked with the case that it is of. -/
def tagged (tag : String) (value : Json) : Json := obj [(tag, value)]

end Json

end Telemetry
