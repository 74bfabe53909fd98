import Telemetry.Net.Ip
import Telemetry.Text.Digits

/-!
Addresses as text.

An IPv4 address is four decimal numbers. An IPv6 address is eight groups of sixteen bits in
hexadecimal; when printed, the longest run of at least two zero groups, the first of equals,
becomes `::`, and an address that maps an IPv4 address shows it after `::ffff:`. When read, groups
have one to four digits of either case, one `::` may stand for at least one group, and the last
two groups may be an IPv4 address.

Reading is by small scanners over the characters: each gives the value in front and the rest.
-/

namespace Telemetry

open Text

/-! ## Printing -/

namespace Ipv4

def toText (a : Ipv4) : String :=
  ".".intercalate (a.octets.map fun b => toString b.toNat)

end Ipv4

namespace Ipv6

/-- The eight groups of sixteen bits. -/
def groups (a : Ipv6) : List Nat := pairs a.octets
where
  pairs : Octets → List Nat
    | b :: c :: rest => (b.toNat * 256 + c.toNat) :: pairs rest
    | _ => []

def ofGroups (gs : List Nat) : Ipv6 := Block.ofNat 16 (gs.foldl (fun v g => v * 65536 + g) 0)

/-- Where the longest run of zero groups begins, and how long it is. Of equal runs the first. -/
def zeroRun (gs : List Nat) : Nat × Nat :=
  let runs := (List.range gs.length).map fun i => (i, ((gs.drop i).takeWhile (· == 0)).length)
  runs.foldl (fun best run => if run.2 > best.2 then run else best) (0, 0)

def joined (gs : List Nat) : String := ":".intercalate (gs.map hex)

def toText (a : Ipv6) : String :=
  let gs := groups a
  if gs.take 6 = [0, 0, 0, 0, 0, 0xffff] then
    "::ffff:" ++ ".".intercalate ((a.octets.drop 12).map fun b => toString b.toNat)
  else
    let (start, length) := zeroRun gs
    if length > 1 then joined (gs.take start) ++ "::" ++ joined (gs.drop (start + length))
    else joined gs

end Ipv6

def Ip.toText : Ip → String
  | .v4 a => Ipv4.toText a
  | .v6 a => Ipv6.toText a

/-! ## Reading -/

namespace AddressText

/-- A value in front of the characters, and what follows it. -/
abbrev Scanner (α : Type) := List Char → Option (α × List Char)

/-- The character `c`. -/
def char (c : Char) : Scanner Unit
  | d :: rest => if d = c then some ((), rest) else none
  | [] => none

/-- A decimal number below `bound`, of any number of digits. -/
def decimal (bound : Nat) : Scanner Nat := fun cs =>
  match digits 10 cs with
  | ([], _) => none
  | (ds, rest) =>
    let n := ofDigits 10 ds
    if n < bound then some (n, rest) else none

/-- One of the four numbers of an IPv4 address: at most three digits, no zero in front of
others. -/
def byte : Scanner Nat := fun cs =>
  match digits 10 cs with
  | ([], _) => none
  | (0 :: _ :: _, _) => none
  | (ds, rest) =>
    let n := ofDigits 10 ds
    if ds.length ≤ 3 ∧ n < 256 then some (n, rest) else none

/-- One group of an IPv6 address. -/
def group : Scanner Nat := fun cs =>
  match digits 16 cs with
  | ([], _) => none
  | (ds, rest) => if ds.length ≤ 4 then some (ofDigits 16 ds, rest) else none

def ipv4 : Scanner Ipv4 := fun cs => do
  let (a, cs) ← byte cs
  let (_, cs) ← char '.' cs
  let (b, cs) ← byte cs
  let (_, cs) ← char '.' cs
  let (c, cs) ← byte cs
  let (_, cs) ← char '.' cs
  let (d, cs) ← byte cs
  return (Block.ofNat 4 (((a * 256 + b) * 256 + c) * 256 + d), cs)

/-- Up to `limit` groups with colons between them, in reverse, beginning with those in `found`. An
IPv4 address may stand for the last two, and then nothing follows: the flag says so. -/
def groupsInto : Nat → List Nat → List Char → (List Nat × Bool) × List Char
  | 0, found, cs => ((found, false), cs)
  | limit + 1, found, cs =>
    let here := if found.isEmpty then some ((), cs) else char ':' cs
    match here with
    | none => ((found, false), cs)
    | some (_, after) =>
      let dotted := if limit = 0 then none else ipv4 after
      match dotted with
      | some (a, rest) =>
        let n := Octets.value a.octets
        ((n % 65536 :: n / 65536 :: found, true), rest)
      | none =>
        match group after with
        | some (g, rest) => groupsInto limit (g :: found) rest
        | none => ((found, false), cs)

def ipv6 : Scanner Ipv6 := fun cs =>
  let ((head, dotted), rest) := groupsInto 8 [] cs
  if head.length = 8 then some (Ipv6.ofGroups head.reverse, rest)
  else if dotted then none
  else do
    let (_, rest) ← char ':' rest
    let (_, rest) ← char ':' rest
    let ((tail, _), rest) := groupsInto (7 - head.length) [] rest
    let middle := List.replicate (8 - head.length - tail.length) 0
    return (Ipv6.ofGroups (head.reverse ++ middle ++ tail.reverse), rest)

/-- The value of a whole text. -/
def whole {α : Type} (scan : Scanner α) (s : String) : Option α :=
  match scan s.toList with
  | some (a, []) => some a
  | _ => none

end AddressText

def Ipv4.ofText? (s : String) : Option Ipv4 := AddressText.whole AddressText.ipv4 s

def Ipv6.ofText? (s : String) : Option Ipv6 := AddressText.whole AddressText.ipv6 s

def Ip.ofText? (s : String) : Option Ip :=
  (Ipv4.ofText? s).map .v4 <|> (Ipv6.ofText? s).map .v6

end Telemetry
