import Mathlib.Tactic.Ring

/-!
Contract: fixed-width little-endian byte strings of natural numbers.

`toLeBytes width value` writes the low `width` bytes of `value`, least
significant first; `ofLeBytes` reads a byte string of any length. The two are
inverse up to the width.

Owns: both directions, lengths, bounds and the two round trips.

Does not own: the machine-integer types a format stores this way.
-/

namespace Npt.Core

/-- The low `width` bytes of `value`, least significant first. -/
def toLeBytes : Nat → Nat → List UInt8
  | 0, _ => []
  | width + 1, value => UInt8.ofNat value :: toLeBytes width (value / 256)

/-- The number a little-endian byte string stands for. -/
def ofLeBytes : List UInt8 → Nat
  | [] => 0
  | byte :: rest => byte.toNat + 256 * ofLeBytes rest

@[simp] theorem toLeBytes_length (width value : Nat) :
    (toLeBytes width value).length = width := by
  induction width generalizing value with
  | zero => rfl
  | succ width inductionHypothesis => simp [toLeBytes, inductionHypothesis]

theorem ofLeBytes_lt (bytes : List UInt8) : ofLeBytes bytes < 256 ^ bytes.length := by
  induction bytes with
  | nil => simp [ofLeBytes]
  | cons byte rest inductionHypothesis =>
      have small : byte.toNat < 256 := UInt8.toNat_lt byte
      simp only [ofLeBytes, List.length_cons, pow_succ]
      omega

/-- Reading back what was written keeps the low bytes. -/
theorem ofLeBytes_toLeBytes (width value : Nat) :
    ofLeBytes (toLeBytes width value) = value % 256 ^ width := by
  induction width generalizing value with
  | zero => simp [toLeBytes, ofLeBytes, Nat.mod_one]
  | succ width inductionHypothesis =>
      have low : (UInt8.ofNat value).toNat = value % 256 := by simp
      simp only [toLeBytes, ofLeBytes, inductionHypothesis, low]
      rw [pow_succ, mul_comm (256 ^ width), Nat.mod_mul]

theorem ofLeBytes_toLeBytes_of_lt {width value : Nat} (fits : value < 256 ^ width) :
    ofLeBytes (toLeBytes width value) = value := by
  rw [ofLeBytes_toLeBytes, Nat.mod_eq_of_lt fits]

/-- Writing back what was read restores the bytes. -/
theorem toLeBytes_ofLeBytes (bytes : List UInt8) :
    toLeBytes bytes.length (ofLeBytes bytes) = bytes := by
  induction bytes with
  | nil => rfl
  | cons byte rest inductionHypothesis =>
      have small : byte.toNat < 256 := UInt8.toNat_lt byte
      have head : UInt8.ofNat (byte.toNat + 256 * ofLeBytes rest) = byte := by
        apply UInt8.toNat_inj.mp
        simp only [UInt8.toNat_ofNat']
        omega
      have tail : (byte.toNat + 256 * ofLeBytes rest) / 256 = ofLeBytes rest := by omega
      simp only [List.length_cons, ofLeBytes, toLeBytes, head, tail, inductionHypothesis]

end Npt.Core
