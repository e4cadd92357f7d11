import Mathlib.Algebra.Group.Int.Defs
import Mathlib.Algebra.Group.Nat.Defs
import Mathlib.Tactic.SplitIfs

namespace DeviceManager.Narrowing

structure Range where
  low : ℤ
  high : ℤ

def Range.Contains (r : Range) (n : ℤ) : Prop := r.low ≤ n ∧ n ≤ r.high

instance (r : Range) (n : ℤ) : Decidable (r.Contains n) := inferInstanceAs (Decidable (_ ∧ _))

def int32 : Range := ⟨-2 ^ 31, 2 ^ 31 - 1⟩

def uint32 : Range := ⟨0, 2 ^ 32 - 1⟩

def uint8 : Range := ⟨0, 2 ^ 8 - 1⟩

def size : Range := ⟨0, 2 ^ 64 - 1⟩

theorem toInt_eq (v : Int64) : v.toInt =
    if v.toUInt64.toNat < 2 ^ 63 then (v.toUInt64.toNat : ℤ) else v.toUInt64.toNat - 2 ^ 64 := by
  have hlt := UInt64.toNat_lt v.toUInt64
  have h : v.toInt = (v.toUInt64.toNat : ℤ).bmod (2 ^ 64) := BitVec.toInt_eq_toNat_bmod v.toBitVec
  rw [h, Int.bmod_def]
  split_ifs <;> omega

theorem toInt32_iff (v : Int64) : v.toInt32.toInt = v.toInt ↔ int32.Contains v.toInt := by
  rw [Int64.toInt_toInt32, Int.bmod_def, Range.Contains, int32]
  dsimp only
  split_ifs <;> omega

theorem toUInt32_iff (v : Int64) :
    (v.toUInt64.toUInt32.toNat : ℤ) = v.toInt ↔ uint32.Contains v.toInt := by
  have hlt := UInt64.toNat_lt v.toUInt64
  rw [UInt64.toNat_toUInt32, toInt_eq, Range.Contains, uint32]
  dsimp only
  split_ifs <;> omega

theorem toUInt8_iff (v : Int64) :
    (v.toUInt64.toUInt8.toNat : ℤ) = v.toInt ↔ uint8.Contains v.toInt := by
  have hlt := UInt64.toNat_lt v.toUInt64
  rw [UInt64.toNat_toUInt8, toInt_eq, Range.Contains, uint8]
  dsimp only
  split_ifs <;> omega

theorem toSize_iff (v : Int64) : (v.toUInt64.toNat : ℤ) = v.toInt ↔ size.Contains v.toInt := by
  have hlt := UInt64.toNat_lt v.toUInt64
  rw [toInt_eq, Range.Contains, size]
  dsimp only
  split_ifs <;> omega

end DeviceManager.Narrowing
