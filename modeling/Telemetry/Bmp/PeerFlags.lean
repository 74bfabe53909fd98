import Telemetry.Text.Blank
import Telemetry.Text.Digits

/-!
The eight flag bits of a monitored peer. Three have a meaning; the others are kept as they come.

As text the flags are the names of the known bits that are set, most significant first, and then
what else is set as one hexadecimal number, with ` | ` between them. When read, the parts may come
in any order and number, and numbers may repeat known bits.
-/

namespace Telemetry.Bmp

structure PeerFlags where
  bits : UInt8
deriving DecidableEq, Repr

namespace PeerFlags

/-- The peer has an IPv6 address. -/
def ipv6 : UInt8 := 0x80

/-- The routes are those after the router's own policy. -/
def postPolicy : UInt8 := 0x40

/-- AS paths are in the old form of two bytes a number. -/
def asSize16 : UInt8 := 0x20

/-- The bits with a meaning, and their names. -/
def known : List (UInt8 × String) :=
  [(ipv6, "ADDRESS_FAMILY_IPV6"), (postPolicy, "POST_POLICY"), (asSize16, "AS_SIZE_16BIT")]

/-- Whether a bit is set. -/
def has (f : PeerFlags) (bit : UInt8) : Bool := f.bits &&& bit != 0

def toText (f : PeerFlags) : String :=
  let names := (known.filter fun k => f.has k.1).map (·.2)
  let others := f.bits &&& 0x1f
  let numbers := if others = 0 then [] else ["0x" ++ Text.hex others.toNat]
  " | ".intercalate (names ++ numbers)

/-- The bits of one part: a hexadecimal number of eight bits, or a name. -/
def ofPart? (part : List Char) : Option UInt8 :=
  match part with
  | '0' :: 'x' :: number =>
    match Text.unsigned? 16 number with
    | some n => if n < 256 then some (UInt8.ofNat n) else none
    | none => none
  | _ => (known.find? fun k => k.2.toList == part).map (·.1)

/-- The flags in a text; a blank text has none. -/
def ofText? (s : String) : Option PeerFlags :=
  if s.toList.all Text.isBlank then some ⟨0⟩
  else do
    let parts ← (Text.splitAt '|' s.toList).mapM fun part => ofPart? (Text.strip part)
    return ⟨parts.foldl (· ||| ·) 0⟩

end PeerFlags

end Telemetry.Bmp
