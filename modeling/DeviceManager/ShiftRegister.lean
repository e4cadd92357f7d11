import Mathlib.Data.List.GetD
import Mathlib.Logic.Function.Iterate

namespace DeviceManager.ShiftRegister

/-- A register of `w` cells with a linear shift that loses nothing. The input enters at the cell
`cell 0`, and the shift moves `cell (i + 1)` to `cell i`. -/
structure Register (w : Nat) where
  shift : BitVec w → BitVec w
  cell : Nat → Nat
  shift_xor : ∀ a b, shift (a ^^^ b) = shift a ^^^ shift b
  shift_eq_zero : ∀ a, shift a = 0#w → a = 0#w
  cell_lt : ∀ {i}, i < w → cell i < w
  cell_inj : ∀ {i j}, i < w → j < w → cell i = cell j → i = j
  shift_cell : ∀ i, i + 1 < w → shift (BitVec.twoPow w (cell (i + 1))) = BitVec.twoPow w (cell i)

variable {w : Nat} (r : Register w)

/-- A bit that stands `i` cells before the entry. -/
def Register.bit (i : Nat) (b : Bool) : BitVec w := if b then BitVec.twoPow w (r.cell i) else 0#w

/-- The bits laid out in the register, the first of them in the cell `i`. -/
def Register.word : Nat → List Bool → BitVec w
  | _, [] => 0#w
  | i, b :: bits => r.bit i b ^^^ Register.word (i + 1) bits

def Register.step (c : BitVec w) (b : Bool) : BitVec w := r.shift (c ^^^ r.bit 0 b)

def Register.run (c : BitVec w) (bits : List Bool) : BitVec w := bits.foldl r.step c

/-- Two texts that differ in at most `k` consecutive places. -/
def Burst {α : Type*} (k : Nat) (xs ys : List α) : Prop :=
  ∃ before inner inner' after, xs = before ++ inner ++ after ∧ ys = before ++ inner' ++ after ∧
    inner.length = inner'.length ∧ inner.length ≤ k

theorem length_burst {α : Type*} {k : Nat} {xs ys : List α} (h : Burst k xs ys) :
    xs.length = ys.length := by
  obtain ⟨before, inner, inner', after, rfl, rfl, hlen, -⟩ := h
  simp [hlen]

section Places

variable {α : Type*} {k m n : Nat} {xs ys : List α}

theorem burst_refl (k : Nat) (xs : List α) : Burst k xs xs :=
  ⟨xs, [], [], [], by simp, by simp, rfl, Nat.zero_le k⟩

theorem Burst.append_left (zs : List α) (h : Burst k xs ys) : Burst k (zs ++ xs) (zs ++ ys) := by
  obtain ⟨before, inner, inner', after, rfl, rfl, hlen, hle⟩ := h
  exact ⟨zs ++ before, inner, inner', after, by simp, by simp, hlen, hle⟩

theorem drop_mono (h : xs.drop m = ys.drop m) (hle : m ≤ n) : xs.drop n = ys.drop n := by
  obtain ⟨more, rfl⟩ := Nat.exists_eq_add_of_le hle
  rw [← List.drop_drop, ← List.drop_drop, h]

theorem burst_iff : Burst k xs ys ↔ xs.length = ys.length ∧
    ∃ n, xs.take n = ys.take n ∧ xs.drop (n + k) = ys.drop (n + k) := by
  constructor
  · intro h
    refine ⟨length_burst h, ?_⟩
    obtain ⟨before, inner, inner', after, rfl, rfl, hlen, hle⟩ := h
    refine ⟨before.length, ?_, ?_⟩
    · rw [List.append_assoc, List.append_assoc, List.take_left, List.take_left]
    · have hnone : inner.drop k = [] := List.drop_eq_nil_of_le hle
      have hnone' : inner'.drop k = [] := List.drop_eq_nil_of_le (by omega)
      rw [List.append_assoc, List.append_assoc, ← List.drop_drop, ← List.drop_drop,
        List.drop_left, List.drop_left, List.drop_append, List.drop_append, hnone, hnone', hlen]
  · rintro ⟨hlen, n, hbefore, hafter⟩
    refine ⟨xs.take n, (xs.drop n).take k, (ys.drop n).take k, xs.drop (n + k), ?_, ?_, ?_, ?_⟩
    · rw [List.append_assoc, ← List.drop_drop, List.take_append_drop, List.take_append_drop]
    · rw [hbefore, hafter, List.append_assoc, ← List.drop_drop, List.take_append_drop,
        List.take_append_drop]
    · simp [hlen]
    · exact List.length_take_le ..

theorem Burst.of_append_left {zs : List α} (h : Burst k (zs ++ xs) (zs ++ ys)) : Burst k xs ys := by
  obtain ⟨hlen, n, hbefore, hafter⟩ := burst_iff.mp h
  rw [List.length_append, List.length_append] at hlen
  rw [List.take_append, List.take_append] at hbefore
  rw [List.drop_append, List.drop_append] at hafter
  exact burst_iff.mpr ⟨Nat.add_left_cancel hlen, n - zs.length, List.append_cancel_left hbefore,
    drop_mono (List.append_cancel_left hafter) (by omega)⟩

theorem Burst.of_append_right {zs : List α} (h : Burst k (xs ++ zs) (ys ++ zs)) :
    Burst k xs ys := by
  obtain ⟨hlen, n, hbefore, hafter⟩ := burst_iff.mp h
  rw [List.length_append, List.length_append] at hlen
  have hlen := Nat.add_right_cancel hlen
  rw [List.take_append, List.take_append] at hbefore
  rw [List.drop_append, List.drop_append] at hafter
  exact burst_iff.mpr ⟨hlen, n, (List.append_inj hbefore (by simp [hlen])).1,
    (List.append_inj hafter (by simp [hlen])).1⟩

end Places

theorem xor_eq_zero {a b : BitVec w} (h : a ^^^ b = 0#w) : a = b := by
  have hb : a ^^^ b ^^^ b = 0#w ^^^ b := by rw [h]
  rwa [BitVec.xor_assoc, BitVec.xor_self, BitVec.xor_zero, BitVec.zero_xor] at hb

theorem xor_left_inj {a b c : BitVec w} (h : a ^^^ c = b ^^^ c) : a = b := by
  have hc : a ^^^ c ^^^ c = b ^^^ c ^^^ c := by rw [h]
  rwa [BitVec.xor_assoc, BitVec.xor_assoc, BitVec.xor_self, BitVec.xor_zero,
    BitVec.xor_zero] at hc

theorem xor_four (a b c d : BitVec w) : a ^^^ b ^^^ (c ^^^ d) = a ^^^ c ^^^ (b ^^^ d) := by
  rw [BitVec.xor_assoc, BitVec.xor_assoc, ← BitVec.xor_assoc b, BitVec.xor_comm b c,
    BitVec.xor_assoc]

namespace Register

theorem shift_zero : r.shift 0#w = 0#w := by
  have h := r.shift_xor 0#w 0#w
  rwa [BitVec.xor_self, BitVec.xor_self] at h

theorem shift_injective : Function.Injective r.shift := by
  intro a b h
  apply xor_eq_zero
  apply r.shift_eq_zero
  rw [r.shift_xor, h, BitVec.xor_self]

theorem iterate_xor (n : Nat) (a b : BitVec w) :
    r.shift^[n] (a ^^^ b) = r.shift^[n] a ^^^ r.shift^[n] b := by
  induction n generalizing a b with
  | zero => rfl
  | succ n ih => rw [Function.iterate_succ_apply, r.shift_xor, ih]; rfl

theorem shift_bit {i : Nat} (h : i + 1 < w) (b : Bool) : r.shift (r.bit (i + 1) b) = r.bit i b := by
  cases b with
  | false => exact r.shift_zero
  | true => exact r.shift_cell i h

theorem shift_word {i : Nat} {bits : List Bool} (h : i + 1 + bits.length ≤ w) :
    r.shift (r.word (i + 1) bits) = r.word i bits := by
  induction bits generalizing i with
  | nil => exact r.shift_zero
  | cons b bits ih =>
    rw [List.length_cons] at h
    rw [word, word, r.shift_xor, r.shift_bit (by omega), ih (by omega)]

theorem getLsbD_bit {i j : Nat} (hi : i < w) (hj : j < w) (b : Bool) :
    (r.bit i b).getLsbD (r.cell j) = (decide (i = j) && b) := by
  cases b with
  | false => simp [bit]
  | true =>
    have hcell : r.cell i = r.cell j ↔ i = j := ⟨r.cell_inj hi hj, congrArg r.cell⟩
    simp [bit, BitVec.getLsbD_twoPow, r.cell_lt hi, hcell]

theorem getLsbD_word {i j : Nat} {bits : List Bool} (h : i + bits.length ≤ w) (hj : j < w) :
    (r.word i bits).getLsbD (r.cell j) = (decide (i ≤ j) && bits.getD (j - i) false) := by
  induction bits generalizing i with
  | nil => simp [word]
  | cons b bits ih =>
    rw [List.length_cons] at h
    rw [word, BitVec.getLsbD_xor, r.getLsbD_bit (by omega) hj, ih (by omega)]
    obtain hlt | rfl | hgt := Nat.lt_trichotomy i j
    · have hnext : j - i = j - (i + 1) + 1 := by omega
      have hne : i ≠ j := by omega
      have hle : i ≤ j := by omega
      have hsucc : i + 1 ≤ j := hlt
      rw [hnext, List.getD_cons_succ]
      simp [hne, hle, hsucc]
    · have hnot : ¬i + 1 ≤ i := by omega
      rw [Nat.sub_self, List.getD_cons_zero]
      simp [hnot]
    · have hne : i ≠ j := by omega
      have hnot : ¬i + 1 ≤ j := by omega
      have hnle : ¬i ≤ j := by omega
      simp [hne, hnot, hnle]

theorem word_inj {i : Nat} {bits bits' : List Bool} (hlen : bits.length = bits'.length)
    (h : i + bits.length ≤ w) (heq : r.word i bits = r.word i bits') : bits = bits' := by
  induction bits generalizing i bits' with
  | nil => exact (List.length_eq_zero_iff.mp hlen.symm).symm
  | cons b bits ih =>
    cases bits' with
    | nil => exact absurd hlen (by simp)
    | cons b' bits' =>
      rw [List.length_cons] at h
      rw [List.length_cons, List.length_cons, Nat.succ_inj] at hlen
      have hi : i < w := by omega
      have hb : b = b' := by
        have hhead := congrArg (fun v => v.getLsbD (r.cell i)) heq
        rw [r.getLsbD_word (by rw [List.length_cons]; omega) hi,
          r.getLsbD_word (by rw [List.length_cons]; omega) hi] at hhead
        simpa using hhead
      subst hb
      have htail : r.word (i + 1) bits = r.word (i + 1) bits' := by
        rw [word, word, BitVec.xor_comm, BitVec.xor_comm (r.bit i b)] at heq
        exact xor_left_inj heq
      rw [ih hlen (by omega) htail]

theorem run_append (c : BitVec w) (bits bits' : List Bool) :
    r.run c (bits ++ bits') = r.run (r.run c bits) bits' := List.foldl_append

theorem run_eq (c : BitVec w) {bits : List Bool} (h : bits.length ≤ w) :
    r.run c bits = r.shift^[bits.length] (c ^^^ r.word 0 bits) := by
  induction bits generalizing c with
  | nil => exact (BitVec.xor_zero).symm
  | cons b bits ih =>
    rw [List.length_cons] at h
    have hword : r.word 0 bits = r.shift (r.word 1 bits) := (r.shift_word (by omega)).symm
    calc r.run c (b :: bits)
        = r.shift^[bits.length] (r.shift (c ^^^ r.bit 0 b) ^^^ r.word 0 bits) :=
          ih _ (by omega)
      _ = r.shift^[bits.length] (r.shift (c ^^^ r.word 0 (b :: bits))) := by
          rw [hword, ← r.shift_xor, BitVec.xor_assoc, word]

theorem bit_xor (i : Nat) (b b' : Bool) : r.bit i (b ^^ b') = r.bit i b ^^^ r.bit i b' := by
  cases b with
  | false => cases b' <;> simp [bit]
  | true => cases b' <;> simp [bit]

/-- The register is linear: the difference of two texts leaves the difference of what they leave. -/
theorem run_xor (c c' : BitVec w) {bits bits' : List Bool} (hlen : bits.length = bits'.length) :
    r.run (c ^^^ c') (List.zipWith xor bits bits') = r.run c bits ^^^ r.run c' bits' := by
  induction bits generalizing c c' bits' with
  | nil =>
    cases bits' with
    | nil => rfl
    | cons b' bits' => exact absurd hlen (by simp)
  | cons b bits ih =>
    cases bits' with
    | nil => exact absurd hlen (by simp)
    | cons b' bits' =>
      have hstep : r.step (c ^^^ c') (b ^^ b') = r.step c b ^^^ r.step c' b' := by
        unfold step
        rw [r.bit_xor, xor_four, r.shift_xor]
      change r.run (r.step (c ^^^ c') (b ^^ b')) (List.zipWith xor bits bits') = _
      rw [hstep, ih _ _ (Nat.succ.inj hlen)]
      rfl

theorem step_injective (b : Bool) : Function.Injective fun c => r.step c b :=
  fun _ _ h => xor_left_inj (r.shift_injective h)

theorem run_injective (bits : List Bool) : Function.Injective fun c => r.run c bits := by
  induction bits with
  | nil => exact fun _ _ h => h
  | cons b bits ih => exact fun _ _ h => r.step_injective b (ih h)

/-- A burst that is no longer than the register changes what is left in it. -/
theorem eq_of_burst {c : BitVec w} {xs ys : List Bool} (hburst : Burst w xs ys)
    (h : r.run c xs = r.run c ys) : xs = ys := by
  obtain ⟨before, inner, inner', after, rfl, rfl, hlen, hle⟩ := hburst
  rw [r.run_append, r.run_append, r.run_append, r.run_append] at h
  have hinner := r.run_injective after h
  have hle' : inner'.length ≤ w := by omega
  change r.run (r.run c before) inner = r.run (r.run c before) inner' at hinner
  rw [r.run_eq (r.run c before) hle, r.run_eq (r.run c before) hle', ← hlen] at hinner
  have hword := r.shift_injective.iterate inner.length hinner
  rw [BitVec.xor_comm, BitVec.xor_comm _ (r.word 0 inner')] at hword
  rw [r.word_inj hlen (by omega) (xor_left_inj hword)]

/-- What a text with its check appended leaves does not depend on the text. -/
theorem run_check (final : BitVec w) {c : BitVec w} {bits check : List Bool}
    (hlen : check.length = w) (h : r.word 0 check = r.run c bits ^^^ final) :
    r.run c (bits ++ check) = r.shift^[w] final := by
  rw [r.run_append, r.run_eq _ (Nat.le_of_eq hlen), h, hlen, ← BitVec.xor_assoc, BitVec.xor_self,
    BitVec.zero_xor]

end Register

def msbShift (poly c : BitVec w) : BitVec w := (c <<< 1) ^^^ if c.msb then poly else 0#w

def lsbShift (poly c : BitVec w) : BitVec w := (c >>> 1) ^^^ if c.getLsbD 0 then poly else 0#w

theorem iterate_msbShift {poly v : BitVec w} {n : Nat}
    (h : ∀ i < n, v.getMsbD i = false) : (msbShift poly)^[n] v = v <<< n := by
  induction n with
  | zero => simp
  | succ n ih =>
    have hmsb : (v <<< n).msb = false := by
      rw [BitVec.msb, BitVec.getMsbD_shiftLeft, Nat.zero_add]
      exact h n (Nat.lt_succ_self n)
    rw [Function.iterate_succ_apply', ih fun i hi => h i (Nat.lt_succ_of_lt hi), msbShift, hmsb,
      BitVec.shiftLeft_add]
    exact BitVec.xor_zero

theorem ite_xor (p q : Bool) (poly : BitVec w) :
    (if (p ^^ q) then poly else 0#w) = (if p then poly else 0#w) ^^^ if q then poly else 0#w := by
  cases p <;> cases q <;> simp

theorem msbShift_eq_zero {poly : BitVec w} (hpoly : poly.getLsbD 0 = true) {a : BitVec w}
    (h : msbShift poly a = 0#w) : a = 0#w := by
  have hmsb : a.msb = false := by
    have hzero := congrArg (fun v => v.getLsbD 0) h
    cases hm : a.msb with
    | false => rfl
    | true => simp [msbShift, hm, hpoly] at hzero
  have hshift : a <<< 1 = 0#w := by simpa [msbShift, hmsb] using h
  apply BitVec.eq_of_getLsbD_eq
  intro i hi
  rw [BitVec.getLsbD_zero]
  obtain hlast | hnext : i = w - 1 ∨ i + 1 < w := by omega
  · rw [hlast, ← BitVec.msb_eq_getLsbD_last]
    exact hmsb
  · have hbit := congrArg (fun v => v.getLsbD (i + 1)) hshift
    simp only [BitVec.getLsbD_shiftLeft, BitVec.getLsbD_zero] at hbit
    simpa [hnext, BitVec.getLsbD_eq_getElem hi] using hbit

theorem lsbShift_eq_zero {poly : BitVec w} (hpoly : poly.msb = true) {a : BitVec w}
    (h : lsbShift poly a = 0#w) : a = 0#w := by
  have hlsb : a.getLsbD 0 = false := by
    have hlast := congrArg (fun v => v.msb) h
    cases hl : a.getLsbD 0 with
    | false => rfl
    | true => simp [lsbShift, hl, hpoly, BitVec.msb_ushiftRight] at hlast
  have hshift : a >>> 1 = 0#w := by simpa [lsbShift, hlsb] using h
  apply BitVec.eq_of_getLsbD_eq
  intro i hi
  rw [BitVec.getLsbD_zero]
  cases i with
  | zero => exact hlsb
  | succ i =>
    have hbit := congrArg (fun v => v.getLsbD i) hshift
    simp only [BitVec.getLsbD_ushiftRight, BitVec.getLsbD_zero] at hbit
    rwa [Nat.add_comm] at hbit

def msbFirst (poly : BitVec w) (hpoly : poly.getLsbD 0 = true) : Register w where
  shift := msbShift poly
  cell i := w - 1 - i
  shift_xor a b := by
    simp only [msbShift, BitVec.shiftLeft_xor_distrib, BitVec.msb_xor]
    rw [ite_xor, xor_four]
  shift_eq_zero _ := msbShift_eq_zero hpoly
  cell_lt := by omega
  cell_inj := by omega
  shift_cell i h := by
    have hmsb : (BitVec.twoPow w (w - 1 - (i + 1))).msb = false := by
      rw [BitVec.msb_twoPow]
      simp
      omega
    have hplace : w - 1 - (i + 1) + 1 = w - 1 - i := by omega
    rw [msbShift, hmsb, BitVec.shiftLeft_eq_mul_twoPow, BitVec.twoPow_mul_twoPow_eq, hplace]
    exact BitVec.xor_zero

def lsbFirst (poly : BitVec w) (hpoly : poly.msb = true) : Register w where
  shift := lsbShift poly
  cell i := i
  shift_xor a b := by
    simp only [lsbShift, BitVec.ushiftRight_xor_distrib, BitVec.getLsbD_xor]
    rw [ite_xor, xor_four]
  shift_eq_zero _ := lsbShift_eq_zero hpoly
  cell_lt h := h
  cell_inj _ _ h := h
  shift_cell i h := by
    have hlsb : (BitVec.twoPow w (i + 1)).getLsbD 0 = false := by simp [BitVec.getLsbD_twoPow]
    rw [lsbShift, hlsb]
    apply BitVec.eq_of_getLsbD_eq
    intro j hj
    have hplace : i + 1 = 1 + j ↔ i = j := by omega
    have hlt : i < w := by omega
    simp [BitVec.getLsbD_twoPow, h, hplace, hlt]

def msbBits (b : UInt8) : List Bool :=
  (List.range 8).map fun i => b.toBitVec.getLsbD (7 - i)

def lsbBits (b : UInt8) : List Bool :=
  (List.range 8).map fun i => b.toBitVec.getLsbD i

@[simp] theorem length_msbBits (b : UInt8) : (msbBits b).length = 8 := rfl

@[simp] theorem length_lsbBits (b : UInt8) : (lsbBits b).length = 8 := rfl

theorem getD_msbBits (b : UInt8) {i : Nat} (h : i < 8) :
    (msbBits b).getD i false = b.toBitVec.getLsbD (7 - i) := by
  simp [msbBits, List.getD_eq_getElem?_getD, h]

theorem getD_lsbBits (b : UInt8) {i : Nat} (h : i < 8) :
    (lsbBits b).getD i false = b.toBitVec.getLsbD i := by
  simp [lsbBits, List.getD_eq_getElem?_getD, h]

theorem lsbBits_xor (a b : UInt8) :
    lsbBits (a ^^^ b) = List.zipWith xor (lsbBits a) (lsbBits b) := by
  unfold lsbBits
  rw [List.zipWith_map, List.zipWith_self]
  apply List.map_congr_left
  intro i _
  rw [UInt8.toBitVec_xor, BitVec.getLsbD_xor]

theorem msbBits_xor (a b : UInt8) :
    msbBits (a ^^^ b) = List.zipWith xor (msbBits a) (msbBits b) := by
  unfold msbBits
  rw [List.zipWith_map, List.zipWith_self]
  apply List.map_congr_left
  intro i _
  rw [UInt8.toBitVec_xor, BitVec.getLsbD_xor]

theorem msbBits_injective : Function.Injective msbBits := by
  intro a b h
  apply UInt8.toBitVec_inj.mp
  apply BitVec.eq_of_getLsbD_eq
  intro i hi
  have hbit := congrArg (fun bits => bits.getD (7 - i) false) h
  simp only [getD_msbBits _ (show 7 - i < 8 by omega)] at hbit
  rwa [show 7 - (7 - i) = i by omega] at hbit

theorem lsbBits_injective : Function.Injective lsbBits := by
  intro a b h
  apply UInt8.toBitVec_inj.mp
  apply BitVec.eq_of_getLsbD_eq
  intro i hi
  have hbit := congrArg (fun bits => bits.getD i false) h
  simpa only [getD_lsbBits _ hi] using hbit

section Expansion

variable {bits : UInt8 → List Bool} (hsize : ∀ b, (bits b).length = 8)
include hsize

theorem length_expand (bytes : List UInt8) : (bytes.flatMap bits).length = 8 * bytes.length := by
  induction bytes with
  | nil => rfl
  | cons b bytes ih =>
    rw [List.flatMap_cons, List.length_append, ih, hsize, List.length_cons]
    omega

theorem getD_expand (bytes : List UInt8) {i : Nat} (h : i < 8 * bytes.length) :
    (bytes.flatMap bits).getD i false = (bits (bytes.getD (i / 8) 0)).getD (i % 8) false := by
  induction bytes generalizing i with
  | nil => exact absurd h (by simp)
  | cons b bytes ih =>
    rw [List.length_cons] at h
    rw [List.flatMap_cons]
    obtain hlt | hge := Nat.lt_or_ge i 8
    · rw [List.getD_append _ _ _ _ (by rw [hsize]; exact hlt), Nat.div_eq_of_lt hlt,
        Nat.mod_eq_of_lt hlt, List.getD_cons_zero]
    · rw [List.getD_append_right _ _ _ _ (by rw [hsize]; exact hge), hsize, ih (by omega),
        show i / 8 = (i - 8) / 8 + 1 by omega, List.getD_cons_succ,
        show (i - 8) % 8 = i % 8 by omega]

theorem length_of_burst {k : Nat} {xs ys : List UInt8}
    (h : Burst k (xs.flatMap bits) (ys.flatMap bits)) : xs.length = ys.length := by
  have hlen := length_burst h
  rw [length_expand hsize, length_expand hsize] at hlen
  omega

theorem expand_injective (hinj : Function.Injective bits) :
    Function.Injective fun bytes : List UInt8 => bytes.flatMap bits := by
  intro xs
  induction xs with
  | nil =>
    intro ys h
    cases ys with
    | nil => rfl
    | cons y ys =>
      have hlen := congrArg List.length h
      simp only [List.flatMap_nil, List.flatMap_cons, List.length_nil, List.length_append,
        hsize] at hlen
      omega
  | cons x xs ih =>
    intro ys h
    cases ys with
    | nil =>
      have hlen := congrArg List.length h
      simp only [List.flatMap_nil, List.flatMap_cons, List.length_nil, List.length_append,
        hsize] at hlen
      omega
    | cons y ys =>
      obtain ⟨hhead, htail⟩ := List.append_inj h (by rw [hsize, hsize])
      rw [hinj hhead, ih htail]

theorem foldl_expand (c : BitVec w) (bytes : List UInt8) (hw : 8 ≤ w) :
    bytes.foldl (fun c b => r.shift^[8] (c ^^^ r.word 0 (bits b))) c =
      r.run c (bytes.flatMap bits) := by
  induction bytes generalizing c with
  | nil => rfl
  | cons b bytes ih =>
    have hlen : (bits b).length ≤ w := by
      rw [hsize]
      exact hw
    have hrun := r.run_eq c hlen
    rw [hsize] at hrun
    rw [List.foldl_cons, List.flatMap_cons, r.run_append, hrun]
    exact ih _

end Expansion

theorem lsbFirst_word {poly : BitVec w} (hpoly : poly.msb = true) {bits : List Bool}
    (h : bits.length ≤ w) {v : BitVec w} (hv : ∀ i < w, v.getLsbD i = bits.getD i false) :
    (lsbFirst poly hpoly).word 0 bits = v := by
  apply BitVec.eq_of_getLsbD_eq
  intro i hi
  have hword := (lsbFirst poly hpoly).getLsbD_word (i := 0) (j := i) (by rwa [Nat.zero_add]) hi
  change ((lsbFirst poly hpoly).word 0 bits).getLsbD i = _ at hword
  rw [hv i hi]
  simpa using hword

theorem msbFirst_word {poly : BitVec w} (hpoly : poly.getLsbD 0 = true) {bits : List Bool}
    (h : bits.length ≤ w) {v : BitVec w}
    (hv : ∀ i < w, v.getLsbD (w - 1 - i) = bits.getD i false) :
    (msbFirst poly hpoly).word 0 bits = v := by
  apply BitVec.eq_of_getLsbD_eq
  intro i hi
  have hword := (msbFirst poly hpoly).getLsbD_word (i := 0) (j := w - 1 - i)
    (by rwa [Nat.zero_add]) (by omega)
  have hback : w - 1 - (w - 1 - i) = i := by omega
  have hvi := hv (w - 1 - i) (by omega)
  rw [hback] at hvi
  rw [hvi]
  change ((msbFirst poly hpoly).word 0 bits).getLsbD (w - 1 - (w - 1 - i)) = _ at hword
  rw [hback] at hword
  simpa using hword

end DeviceManager.ShiftRegister
