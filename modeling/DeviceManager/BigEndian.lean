import DeviceManager.LittleEndian
import Mathlib.Data.List.GetD

namespace DeviceManager.BigEndian

open LittleEndian

def be16 (v : UInt16) : List UInt8 := [highByte v, lowByte v]

def be32 (v : UInt32) : List UInt8 :=
  [(v >>> 24).toUInt8, (v >>> 16).toUInt8, (v >>> 8).toUInt8, v.toUInt8]

def word32 (b0 b1 b2 b3 : UInt8) : UInt32 :=
  (b0.toUInt32 <<< 24) ||| (b1.toUInt32 <<< 16) ||| (b2.toUInt32 <<< 8) ||| b3.toUInt32

def read16 (bytes : List UInt8) (offset : Nat) : UInt16 :=
  word (bytes.getD (offset + 1) 0) (bytes.getD offset 0)

def read32 (bytes : List UInt8) (offset : Nat) : UInt32 :=
  word32 (bytes.getD offset 0) (bytes.getD (offset + 1) 0) (bytes.getD (offset + 2) 0)
    (bytes.getD (offset + 3) 0)

@[simp] theorem length_be16 (v : UInt16) : (be16 v).length = 2 := rfl

@[simp] theorem length_be32 (v : UInt32) : (be32 v).length = 4 := rfl

theorem getLsbD_word32 (b0 b1 b2 b3 : UInt8) {i : Nat} (h : i < 32) :
    (word32 b0 b1 b2 b3).toBitVec.getLsbD i =
      ([b3, b2, b1, b0].getD (i / 8) 0).toBitVec.getLsbD (i % 8) := by
  have hbits : (word32 b0 b1 b2 b3).toBitVec = (b0.toBitVec.setWidth 32 <<< 24) |||
      (b1.toBitVec.setWidth 32 <<< 16) ||| (b2.toBitVec.setWidth 32 <<< 8) |||
        b3.toBitVec.setWidth 32 := rfl
  rw [hbits]
  simp only [BitVec.getLsbD_or, BitVec.getLsbD_shiftLeft, BitVec.getLsbD_setWidth]
  obtain h0 | h1 | h2 | h3 : i < 8 ∨ (8 ≤ i ∧ i < 16) ∨ (16 ≤ i ∧ i < 24) ∨ 24 ≤ i := by omega
  · rw [Nat.div_eq_of_lt h0, Nat.mod_eq_of_lt h0]
    have h16 : i < 16 := by omega
    have h24 : i < 24 := by omega
    simp [h0, h16, h24, h]
  · rw [show i / 8 = 1 by omega, show i % 8 = i - 8 by omega]
    have h16 : i - 8 < 32 := by omega
    have h24 : i < 24 := by omega
    have hge : ¬i < 8 := by omega
    simp [hge, h1.2, h24, h, h16, BitVec.getLsbD_of_ge b3.toBitVec i h1.1]
  · rw [show i / 8 = 2 by omega, show i % 8 = i - 16 by omega]
    have hge : ¬i < 8 := by omega
    have hge' : ¬i < 16 := by omega
    have hin : i - 16 < 32 := by omega
    simp [hge, hge', h2.2, h, hin, BitVec.getLsbD_of_ge b3.toBitVec i (by omega),
      BitVec.getLsbD_of_ge b2.toBitVec (i - 8) (by omega)]
  · rw [show i / 8 = 3 by omega, show i % 8 = i - 24 by omega]
    have hge : ¬i < 8 := by omega
    have hge' : ¬i < 16 := by omega
    have hge'' : ¬i < 24 := by omega
    have hin : i - 24 < 32 := by omega
    simp [hge, hge', hge'', h, hin, BitVec.getLsbD_of_ge b3.toBitVec i (by omega),
      BitVec.getLsbD_of_ge b2.toBitVec (i - 8) (by omega),
      BitVec.getLsbD_of_ge b1.toBitVec (i - 16) (by omega)]

theorem getLsbD_shifted (v : UInt32) (n : Nat) {j : Nat} (h : j < 8) :
    ((v.toBitVec >>> n).setWidth 8).getLsbD j = v.toBitVec.getLsbD (n + j) := by
  rw [BitVec.getLsbD_setWidth, BitVec.getLsbD_ushiftRight, decide_eq_true h, Bool.true_and]

@[simp] theorem read16_be16 (v : UInt16) (rest : List UInt8) : read16 (be16 v ++ rest) 0 = v :=
  word_bytes v

@[simp] theorem read32_be32 (v : UInt32) (rest : List UInt8) : read32 (be32 v ++ rest) 0 = v := by
  apply UInt32.toBitVec_inj.mp
  apply BitVec.eq_of_getLsbD_eq
  intro i hi
  change (word32 (v >>> 24).toUInt8 (v >>> 16).toUInt8 (v >>> 8).toUInt8 v.toUInt8).toBitVec.getLsbD
    i = _
  rw [getLsbD_word32 _ _ _ _ hi]
  have hj : i % 8 < 8 := Nat.mod_lt _ (by decide)
  have hsum : 8 * (i / 8) + i % 8 = i := Nat.div_add_mod i 8
  obtain hk | hk | hk | hk : i / 8 = 0 ∨ i / 8 = 1 ∨ i / 8 = 2 ∨ i / 8 = 3 := by omega
  · rw [hk] at hsum ⊢
    exact (getLsbD_shifted v 0 hj).trans (congrArg _ hsum)
  · rw [hk] at hsum ⊢
    exact (getLsbD_shifted v 8 hj).trans (congrArg _ hsum)
  · rw [hk] at hsum ⊢
    exact (getLsbD_shifted v 16 hj).trans (congrArg _ hsum)
  · rw [hk] at hsum ⊢
    exact (getLsbD_shifted v 24 hj).trans (congrArg _ hsum)

theorem read16_append (before rest : List UInt8) (k : Nat) :
    read16 (before ++ rest) (before.length + k) = read16 rest k := by
  unfold read16
  rw [Nat.add_assoc, List.getD_append_right _ _ _ _ (by omega),
    List.getD_append_right _ _ _ _ (by omega), Nat.add_sub_cancel_left, Nat.add_sub_cancel_left]

theorem read32_append (before rest : List UInt8) :
    read32 (before ++ rest) before.length = read32 rest 0 := by
  unfold read32
  rw [List.getD_append_right _ _ _ _ (by omega), List.getD_append_right _ _ _ _ (by omega),
    List.getD_append_right _ _ _ _ (by omega), List.getD_append_right _ _ _ _ (by omega)]
  simp

end DeviceManager.BigEndian
