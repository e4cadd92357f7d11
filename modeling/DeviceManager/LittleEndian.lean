import Mathlib.Data.Nat.Bitwise

namespace DeviceManager.LittleEndian

def word (low high : UInt8) : UInt16 := low.toUInt16 ||| (high.toUInt16 <<< 8)

def lowByte (w : UInt16) : UInt8 := (w &&& 0xFF).toUInt8

def highByte (w : UInt16) : UInt8 := ((w >>> 8) &&& 0xFF).toUInt8

theorem toNat_word (low high : UInt8) : (word low high).toNat = low.toNat + 256 * high.toNat := by
  have hlow := UInt8.toNat_lt low
  have hhigh := UInt8.toNat_lt high
  have hshift : high.toNat <<< 8 % 65536 = high.toNat <<< 8 := by
    rw [Nat.shiftLeft_eq]
    omega
  have hor := Nat.shiftLeft_add_eq_or_of_lt (show low.toNat < 2 ^ 8 by omega) high.toNat
  simp [word, hshift]
  rw [Nat.or_comm, ← hor, Nat.shiftLeft_eq]
  omega

theorem toNat_lowByte (w : UInt16) : (lowByte w).toNat = w.toNat % 256 := by
  have hand : ∀ n : Nat, n &&& 255 = n % 256 := fun n => Nat.and_two_pow_sub_one_eq_mod n 8
  simp [lowByte, hand]

theorem toNat_highByte (w : UInt16) : (highByte w).toNat = w.toNat / 256 := by
  have hw := UInt16.toNat_lt w
  have hand : ∀ n : Nat, n &&& 255 = n % 256 := fun n => Nat.and_two_pow_sub_one_eq_mod n 8
  simp [highByte, Nat.shiftRight_eq_div_pow, hand]
  omega

theorem word_bytes (w : UInt16) : word (lowByte w) (highByte w) = w := by
  rw [← UInt16.toNat_inj, toNat_word, toNat_lowByte, toNat_highByte]
  omega

@[simp] theorem lowByte_word (low high : UInt8) : lowByte (word low high) = low := by
  have hlow := UInt8.toNat_lt low
  rw [← UInt8.toNat_inj, toNat_lowByte, toNat_word]
  omega

@[simp] theorem highByte_word (low high : UInt8) : highByte (word low high) = high := by
  have hlow := UInt8.toNat_lt low
  rw [← UInt8.toNat_inj, toNat_highByte, toNat_word]
  omega

theorem word_zero (low : UInt8) : word low 0 = low.toUInt16 := by
  rw [← UInt16.toNat_inj, toNat_word]
  simp

theorem or_high {w : UInt16} (h : highByte w = 0) (high : UInt8) :
    w ||| (high.toUInt16 <<< 8) = word (lowByte w) high := by
  have hlow : w = (lowByte w).toUInt16 := by
    rw [← word_zero, ← h, word_bytes]
  unfold word
  rw [← hlow]

end DeviceManager.LittleEndian
