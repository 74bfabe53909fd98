import Mathlib
import Telemetry.Octets

/-!
What the bytes of a number spell: writing a number and reading it undo each other on what fits the
width.
-/

namespace Telemetry.Octets

theorem value_append_singleton (bs : Octets) (b : UInt8) :
    value (bs ++ [b]) = value bs * 256 + b.toNat := by
  simp [value, List.foldl_append]

/-- A number reads back reduced to the width it was written in. -/
theorem value_ofNat (w n : Nat) : value (ofNat w n) = n % 256 ^ w := by
  induction w generalizing n with
  | zero => simp [ofNat, value, Nat.mod_one]
  | succ w ih =>
    have last : (UInt8.ofNat n).toNat = n % 256 := by simp
    rw [ofNat, value_append_singleton, ih, last, Nat.pow_succ, Nat.mul_comm (256 ^ w) 256,
      Nat.mod_mul]
    omega

/-- A number that fits is read back as it was. -/
theorem value_ofNat_of_lt {w n : Nat} (h : n < 256 ^ w) : value (ofNat w n) = n := by
  rw [value_ofNat, Nat.mod_eq_of_lt h]

end Telemetry.Octets
