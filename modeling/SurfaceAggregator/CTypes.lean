import Mathlib.Algebra.Group.Int
import Mathlib.Algebra.Group.Nat.Basic
import Mathlib.Tactic.SplitIfs

/-! Integer conventions of C that the modelled code depends on.

Two of them are left to the implementation: whether a plain `char` is signed, and the
width of `long` (and with it of `size_t` and of the jiffies counter). An `Abi` fixes
both; each conversion below is the one C's usual arithmetic conversions perform, with
GCC's modular reading of out-of-range conversions to signed types.
-/

set_option autoImplicit false

namespace SurfaceAggregator

/-- Linux error numbers returned (negated) by the modelled functions. -/
def EINVAL : Int := 22
def ETIMEDOUT : Int := 110
def ENODEV : Int := 19
def ENXIO : Int := 6
def ENOMEM : Int := 12
def EPROBE_DEFER : Int := 517
def E2BIG : Int := 7

/-- A negative Linux error number. -/
structure Errno where
  code : Int
  negative : code < 0
  deriving DecidableEq

def Errno.timedOut : Errno := ⟨-ETIMEDOUT, by decide⟩
def Errno.nodev : Errno := ⟨-ENODEV, by decide⟩
def Errno.inval : Errno := ⟨-EINVAL, by decide⟩

/-- The outcome of one EC request or one fallible kernel call. -/
abbrev Reply (α : Type) := Except Errno α

inductive CharSign
  | signed
  | unsigned
  deriving DecidableEq, Repr

/-- C leaves the sign of `char` open and only bounds `long` from below. -/
structure Abi where
  charSign : CharSign
  bitsPerLong : Nat
  long_wide : 32 ≤ bitsPerLong

/-- The x86-64 kernels the Surface modules were built for: signed `char`, 64-bit `long`. -/
def Abi.x86_64 : Abi := ⟨.signed, 64, by decide⟩

/-- A 32-bit x86 kernel: signed `char`, 32-bit `long`. -/
def Abi.i386 : Abi := ⟨.signed, 32, Nat.le_refl 32⟩

namespace Abi

variable (abi : Abi)

/-- The number of values of an `unsigned long`. -/
def wordSize : Nat := 2 ^ abi.bitsPerLong

theorem wordSize_pos : 0 < abi.wordSize := Nat.two_pow_pos _

theorem wordSize_ge : 2 ^ 32 ≤ abi.wordSize := Nat.pow_le_pow_right (by decide) abi.long_wide

/-- The sign bit of a `long` splits the word in two halves. -/
theorem wordSize_halves : 2 * 2 ^ (abi.bitsPerLong - 1) = abi.wordSize := by
  have := abi.long_wide
  rw [wordSize, ← Nat.pow_succ', Nat.succ_eq_add_one, Nat.sub_add_cancel (by omega)]

/-- Integer promotion of a plain `char` that holds the byte `b`. -/
def promoteChar (b : UInt8) : Int :=
  match abi.charSign with
  | .signed => if b.toNat < 128 then b.toNat else b.toNat - 256
  | .unsigned => b.toNat

/-- Conversion of a signed value to `size_t` (or `unsigned long`): reduction modulo
`2 ^ BITS_PER_LONG`. -/
def toSize (v : Int) : Nat := (v % (abi.wordSize : Int)).toNat

/-- `a - b` on `size_t` operands. -/
def sizeSub (a b : Nat) : Nat := abi.toSize ((a : Int) - b)

/-- `a + b` on `unsigned long` operands. -/
def longAdd (a b : Nat) : Nat := (a + b) % abi.wordSize

/-- `time_before(a, b)`: `(long)(a - b) < 0` on `unsigned long` jiffies values. -/
def timeBefore (a b : Nat) : Bool := 2 ^ (abi.bitsPerLong - 1) ≤ abi.sizeSub a b

theorem promoteChar_unsigned {abi : Abi} (unsigned : abi.charSign = .unsigned) (b : UInt8) :
    abi.promoteChar b = b.toNat := by
  simp [promoteChar, unsigned]

theorem toSize_eq (v : Int) : (abi.toSize v : Int) = v % (abi.wordSize : Int) := by
  have nonzero : (abi.wordSize : Int) ≠ 0 := by have := abi.wordSize_pos; omega
  have := Int.emod_nonneg v nonzero
  rw [toSize, Int.toNat_of_nonneg this]

theorem toSize_lt (v : Int) : abi.toSize v < abi.wordSize := by
  have := Int.emod_lt_of_pos v (Int.ofNat_pos.mpr abi.wordSize_pos)
  have := abi.toSize_eq v
  omega

theorem toSize_of_lt {v : Int} (nonneg : 0 ≤ v) (small : v < abi.wordSize) :
    (abi.toSize v : Int) = v := by
  rw [toSize_eq, Int.emod_eq_of_lt nonneg small]

theorem sizeSub_of_le {a b : Nat} (le : b ≤ a) (small : a < abi.wordSize) :
    abi.sizeSub a b = a - b := by
  have := abi.toSize_of_lt (v := (a : Int) - b) (by omega) (by omega)
  unfold sizeSub; omega

/-- A subtraction that goes below zero wraps to the top of `size_t`. -/
theorem sizeSub_of_lt {a b : Nat} (lt : a < b) (close : b - a ≤ abi.wordSize) :
    abi.sizeSub a b = abi.wordSize - (b - a) := by
  have shifted : ((a : Int) - b) % (abi.wordSize : Int) = ((a : Int) - b) + abi.wordSize := by
    rw [← Int.add_mul_emod_self (b := 1), Int.one_mul]
    exact Int.emod_eq_of_lt (by omega) (by omega)
  have := abi.toSize_eq ((a : Int) - b)
  unfold sizeSub; omega

/-- Only the residues of the operands matter to a `size_t` subtraction. -/
theorem sizeSub_mod (a b : Nat) :
    abi.sizeSub (a % abi.wordSize) (b % abi.wordSize) = abi.toSize ((a : Int) - b) := by
  simp only [sizeSub, toSize, Int.natCast_mod]
  rw [← Int.sub_emod]

/-- `time_before(jiffies, stamp + d)` on a clock compares `now - stamped - d` modulo the word. -/
theorem timeBefore_clock (now stamped d : Nat) :
    abi.timeBefore (now % abi.wordSize) (abi.longAdd (stamped % abi.wordSize) d) =
      decide (2 ^ (abi.bitsPerLong - 1) ≤ abi.toSize ((now : Int) - (stamped + d))) := by
  have same : abi.longAdd (stamped % abi.wordSize) d = (stamped + d) % abi.wordSize :=
    Nat.mod_add_mod _ _ _
  rw [timeBefore, same, sizeSub_mod, Int.natCast_add]

theorem toSize_sub_of_le {a b : Nat} (le : b ≤ a) (small : a - b < abi.wordSize) :
    abi.toSize ((a : Int) - b) = a - b := by
  have := abi.toSize_of_lt (v := (a : Int) - b) (by omega) (by omega)
  omega

theorem toSize_sub_of_lt {a b : Nat} (lt : a < b) (close : b - a ≤ abi.wordSize) :
    abi.toSize ((a : Int) - b) = abi.wordSize - (b - a) :=
  abi.sizeSub_of_lt lt close

end Abi

/-- The `int` that a 32-bit unsigned value becomes. -/
def u32ToInt (v : UInt32) : Int := if v.toNat < 2 ^ 31 then v.toNat else v.toNat - 2 ^ 32

theorem u32ToInt_of_lt {v : UInt32} (small : v.toNat < 2 ^ 31) : u32ToInt v = v.toNat := by
  rw [u32ToInt, if_pos small]

theorem UInt32.toNat_mul_eq (a b : UInt32) : (a * b).toNat = a.toNat * b.toNat % 2 ^ 32 := by
  simp [UInt32.mul_def, UInt32.toNat, BitVec.toNat_mul]

theorem UInt32.toNat_ofNat_eq (n : Nat) : (UInt32.ofNat n).toNat = n % 2 ^ 32 := by
  simp [UInt32.ofNat, UInt32.toNat, BitVec.toNat_ofNat]

theorem UInt32.ofNat_toNat_eq (a : UInt32) : UInt32.ofNat a.toNat = a :=
  UInt32.toNat.inj (by rw [UInt32.toNat_ofNat_eq]; exact Nat.mod_eq_of_lt a.toNat_lt_size)

end SurfaceAggregator
