/-!
Numbers as text: lower-case hexadecimal, and the digits that a number is read from.
-/

namespace Telemetry.Text

/-- Lower-case hexadecimal without leading zeros. -/
def hex (n : Nat) : String := String.ofList (Nat.toDigits 16 n)

/-- Lower-case hexadecimal, filled up with zeros to `width` digits. -/
def hexPadded (width n : Nat) : String :=
  let digits := Nat.toDigits 16 n
  String.ofList (List.replicate (width - digits.length) '0' ++ digits)

/-- The value of a digit, when the character is one in `base` (at most sixteen). Letters count in
either case. -/
def digit? (base : Nat) (c : Char) : Option Nat :=
  let v :=
    if '0' ≤ c ∧ c ≤ '9' then some (c.toNat - '0'.toNat)
    else if 'a' ≤ c ∧ c ≤ 'f' then some (c.toNat - 'a'.toNat + 10)
    else if 'A' ≤ c ∧ c ≤ 'F' then some (c.toNat - 'A'.toNat + 10)
    else none
  v.filter (· < base)

/-- The longest run of digits in front, by value, and what follows it. -/
def digits (base : Nat) : List Char → List Nat × List Char
  | [] => ([], [])
  | c :: cs =>
    match digit? base c with
    | some d => let (ds, rest) := digits base cs; (d :: ds, rest)
    | none => ([], c :: cs)

/-- The number that digits spell, most significant first. -/
def ofDigits (base : Nat) (ds : List Nat) : Nat := ds.foldl (fun v d => v * base + d) 0

/-- A whole text of at least one digit, with an optional `+` in front. -/
def unsigned? (base : Nat) (cs : List Char) : Option Nat :=
  let body := match cs with
    | '+' :: r => r
    | _ => cs
  match digits base body with
  | ([], _) => none
  | (ds, []) => some (ofDigits base ds)
  | (_, _ :: _) => none

end Telemetry.Text
