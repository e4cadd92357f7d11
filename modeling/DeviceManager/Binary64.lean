import Mathlib.Order.Monotone.Basic
import DeviceManager.Rounding

namespace DeviceManager.Binary64

open Rounding

/-- The magnitude with this bit pattern, in units of the least subnormal one. -/
def units (b : ℕ) : ℕ :=
  if b < 2 ^ 52 then b else (2 ^ 52 + b % 2 ^ 52) * 2 ^ (b / 2 ^ 52 - 1)

/-- How many binary places of `x` do not fit into 53 bits. -/
def shift (x : ℚ) : ℕ := (exponent 2 53 x).toNat

/-- The bit pattern of the nearest magnitude, ties to even. -/
def nearest (x : ℚ) : ℕ := shift x * 2 ^ 52 + roundEven (x / 2 ^ shift x)

theorem units_pack {s r : ℕ} (hs : s = 0 ∨ 2 ^ 52 ≤ r) (hr : r ≤ 2 ^ 53) :
    units (s * 2 ^ 52 + r) = r * 2 ^ s := by
  obtain hlow | hhigh := Nat.lt_or_ge r (2 ^ 52)
  · have hzero : s = 0 := by omega
    subst hzero
    rw [Nat.zero_mul, Nat.zero_add, units, if_pos hlow, Nat.pow_zero, Nat.mul_one]
  · have hge : ¬ s * 2 ^ 52 + r < 2 ^ 52 := by omega
    rw [units, if_neg hge]
    obtain hlt | rfl := hr.lt_or_eq
    · have hdiv : (s * 2 ^ 52 + r) / 2 ^ 52 - 1 = s := by omega
      have hmod : 2 ^ 52 + (s * 2 ^ 52 + r) % 2 ^ 52 = r := by omega
      rw [hdiv, hmod]
    · have hdiv : (s * 2 ^ 52 + 2 ^ 53) / 2 ^ 52 - 1 = s + 1 := by omega
      have hmod : 2 ^ 52 + (s * 2 ^ 52 + 2 ^ 53) % 2 ^ 52 = 2 ^ 52 := by omega
      rw [hdiv, hmod, Nat.pow_succ 2 s]
      ring

theorem exists_pack (b : ℕ) :
    ∃ s r, b = s * 2 ^ 52 + r ∧ (s = 0 ∨ 2 ^ 52 ≤ r) ∧ r < 2 ^ 53 :=
  ⟨b / 2 ^ 52 - 1, b - (b / 2 ^ 52 - 1) * 2 ^ 52, by omega, by omega, by omega⟩

theorem units_lt_succ (b : ℕ) : units b < units (b + 1) := by
  obtain ⟨s, r, rfl, hs, hr⟩ := exists_pack b
  rw [units_pack hs hr.le, Nat.add_assoc, units_pack (by omega) (by omega)]
  exact Nat.mul_lt_mul_of_pos_right (Nat.lt_succ_self r) (by positivity)

theorem units_strictMono : StrictMono units := strictMono_nat_of_lt_succ units_lt_succ

theorem shift_lt (x : ℚ) : x < 2 ^ 53 * 2 ^ shift x := by
  have h := Int.lt_zpow_succ_log_self (b := 2) (by decide) x
  refine h.trans_le ?_
  rw [← pow_add, ← zpow_natCast]
  apply zpow_le_zpow_right₀ (by norm_num)
  unfold shift exponent
  omega

theorem shift_ge {x : ℚ} (hx : 0 < x) (hs : shift x ≠ 0) : 2 ^ 52 * 2 ^ shift x ≤ x := by
  have h := Int.zpow_log_le_self (b := 2) (by decide) hx
  refine le_trans ?_ h
  rw [← pow_add, ← zpow_natCast]
  apply zpow_le_zpow_right₀ (by norm_num)
  unfold shift exponent at hs ⊢
  omega

theorem scaled_nearest {x : ℚ} (hx : 0 ≤ x) :
    Nearest (x / 2 ^ shift x) (roundEven (x / 2 ^ shift x)) :=
  roundEven_nearest (div_nonneg hx (by positivity))

theorem scaled_le {x : ℚ} (hx : 0 ≤ x) : roundEven (x / 2 ^ shift x) ≤ 2 ^ 53 := by
  apply (scaled_nearest hx).upper
  rw [div_le_iff₀ (by positivity)]
  push_cast
  exact (shift_lt x).le

theorem shift_zero : shift 0 = 0 := by
  simp [shift, exponent]

theorem scaled_normal {x : ℚ} (hx : 0 ≤ x) :
    shift x = 0 ∨ 2 ^ 52 ≤ roundEven (x / 2 ^ shift x) := by
  by_cases hs : shift x = 0
  · exact Or.inl hs
  · right
    have hpos : 0 < x := hx.lt_of_ne fun h => hs (h ▸ shift_zero)
    apply (scaled_nearest hx).lower
    rw [le_div_iff₀ (by positivity)]
    push_cast
    exact shift_ge hpos hs

theorem units_nearest {x : ℚ} (hx : 0 ≤ x) :
    units (nearest x) = roundEven (x / 2 ^ shift x) * 2 ^ shift x :=
  units_pack (scaled_normal hx) (scaled_le hx)

/-- A number of 53 bits is its own nearest one. -/
theorem nearest_exact {x : ℚ} (hx : 0 ≤ x) {n : ℕ} (h : x = n * 2 ^ shift x) :
    (units (nearest x) : ℚ) = x := by
  have hdiv : x / 2 ^ shift x = n := by
    rw [div_eq_iff (by positivity)]
    exact h
  rw [units_nearest hx, hdiv, roundEven_natCast]
  push_cast
  exact h.symm

theorem shift_mul_pow {r k : ℕ} (hr : r < 2 ^ 53) : shift ((r * 2 ^ k : ℕ) : ℚ) ≤ k := by
  have hlog : Int.log 2 ((r * 2 ^ k : ℕ) : ℚ) < 53 + k := by
    obtain rfl | hpos := Nat.eq_zero_or_pos r
    · simp
      omega
    · have hlt : ((r * 2 ^ k : ℕ) : ℚ) < (2 : ℚ) ^ ((53 : ℤ) + k) := by
        have hnat : r * 2 ^ k < 2 ^ (53 + k) := by
          rw [pow_add]
          exact Nat.mul_lt_mul_of_pos_right hr (by positivity)
        exact_mod_cast hnat
      have hcast : (0 : ℚ) < ((r * 2 ^ k : ℕ) : ℚ) := by positivity
      exact (Int.lt_zpow_iff_log_lt (by decide) hcast).mp hlt
  unfold shift exponent
  omega

theorem nearest_short {r k : ℕ} (hr : r < 2 ^ 53) :
    units (nearest ((r * 2 ^ k : ℕ) : ℚ)) = r * 2 ^ k := by
  have hle := shift_mul_pow (k := k) hr
  have h := nearest_exact (x := ((r * 2 ^ k : ℕ) : ℚ)) (Nat.cast_nonneg _)
    (n := r * 2 ^ (k - shift ((r * 2 ^ k : ℕ) : ℚ))) ?_
  · exact_mod_cast h
  · have hpow : 2 ^ k = 2 ^ (k - shift ((r * 2 ^ k : ℕ) : ℚ)) * 2 ^ shift ((r * 2 ^ k : ℕ) : ℚ) := by
      rw [← Nat.pow_add, Nat.sub_add_cancel hle]
    push_cast at hpow ⊢
    rw [mul_assoc]
    congr 1
    exact_mod_cast hpow

@[simp] theorem nearest_units (b : ℕ) : nearest (units b) = b := by
  obtain ⟨s, r, rfl, hs, hr⟩ := exists_pack b
  apply units_strictMono.injective
  rw [units_pack hs hr.le]
  exact nearest_short hr

theorem nearest_error {x : ℚ} (hx : 0 ≤ x) : |x - units (nearest x)| ≤ 2 ^ shift x / 2 := by
  have hu : (0 : ℚ) < 2 ^ shift x := by positivity
  rw [units_nearest hx]
  push_cast
  rw [abs_sub_scale hu]
  have h := mul_le_mul_of_nonneg_right (scaled_nearest hx).le hu.le
  linarith

theorem shift_small {x : ℚ} (hx : 0 ≤ x) (h : x < 2 ^ 52) : shift x = 0 := by
  by_contra hs
  have hpos : 0 < x := hx.lt_of_ne fun h0 => hs (h0 ▸ shift_zero)
  have hone : (1 : ℚ) ≤ 2 ^ shift x := one_le_pow₀ (by norm_num)
  have hge := shift_ge hpos hs
  linarith

theorem nearest_small {x : ℚ} (hx : 0 ≤ x) (h : x < 2 ^ 52) : nearest x = roundEven x := by
  simp [nearest, shift_small hx h]

/-- Where the places of the two formats are far apart a number with few digits is the
only one of its neighbourhood; elsewhere the closer one is read back as well. -/
theorem nearest_closer {x y d : ℚ} (hx : 0 ≤ x) (hy : 0 ≤ y)
    (hd : d = units (nearest x)) (hc : |d - y| ≤ |d - x|)
    (hgap : x ≠ y → x ≤ 2 ^ 50 * |x - y| ∨ y ≤ 2 ^ 50 * |x - y|) : nearest y = nearest x := by
  by_cases hne : x = y
  · rw [hne]
  · have herr := nearest_error hx
    rw [← hd, abs_sub_comm] at herr
    have hdist : |x - y| ≤ 2 ^ shift x := by
      have htri : |x - y| ≤ |d - x| + |d - y| := by
        rw [abs_sub_comm d x]
        exact abs_sub_le x d y
      linarith
    have hdiff := (abs_le.mp hdist)
    have hbound : x ≤ 2 ^ 50 * 2 ^ shift x + 2 ^ shift x := by
      have hpow : (0 : ℚ) < 2 ^ shift x := by positivity
      obtain h | h := hgap hne <;> linarith
    have hs : shift x = 0 := by
      by_contra hs
      have hpos : 0 < x := hx.lt_of_ne fun h0 => hs (h0 ▸ shift_zero)
      have hge := shift_ge hpos hs
      have hpow : (0 : ℚ) < 2 ^ shift x := by positivity
      linarith
    rw [hs, pow_zero] at hbound hdiff herr
    have hxs : x < 2 ^ 52 := by linarith
    have hys : y < 2 ^ 52 := by linarith [hdiff.1]
    have hdx : d = (nearest x : ℚ) := by
      rw [hd, units_nearest hx, hs, nearest_small hx hxs]
      simp
    rw [nearest_small hy hys]
    apply roundEven_eq hy
    have hnear : Nearest x (nearest x) := by
      rw [nearest_small hx hxs]
      exact roundEven_nearest hx
    rw [abs_sub_comm d y, abs_sub_comm d x, hdx] at hc
    unfold Nearest
    obtain hlt | ⟨heq, heven⟩ := hnear
    · exact Or.inl (hc.trans_lt hlt)
    · obtain hlt | heq' := (hc.trans heq.le).lt_or_eq
      · exact Or.inl hlt
      · exact Or.inr ⟨heq', heven⟩

/-- If some number with few digits is read as this magnitude, so is the one that
printing the magnitude with as many digits gives. Magnitudes are counted in units of
`1 / c`. -/
theorem nearest_rounded {β p : ℕ} (hβ : 1 < β) (hp : 0 < p) (hfew : β ^ p ≤ 2 ^ 50) {c : ℚ}
    (hc : 0 < c) {q : ℚ} (hq : 0 ≤ q) (hs : Short β p q) {b : ℕ} (hb : nearest (q * c) = b)
    (hpos : 0 < units b) : nearest (rounded β p (units b / c) * c) = b := by
  have hd : (0 : ℚ) < units b / c := by positivity
  have hcancel : (units b : ℚ) / c * c = units b := div_mul_cancel₀ _ hc.ne'
  have hr : 0 ≤ rounded β p (units b / c) :=
    mul_nonneg (Nat.cast_nonneg _) (unit_pos hβ _).le
  have hscale : ∀ x y : ℚ, |x * c - y * c| = |x - y| * c := by
    intro x y
    rw [← sub_mul, abs_mul, abs_of_pos hc]
  refine (nearest_closer (mul_nonneg hq hc.le) (mul_nonneg hr hc.le)
    (show (units b : ℚ) = units (nearest (q * c)) by rw [hb]) ?_ ?_).trans hb
  · have h := mul_le_mul_of_nonneg_right (rounded_closest hβ hp hd hs) hc.le
    rw [← hscale, ← hscale, hcancel] at h
    exact h
  · intro hne
    rw [hscale]
    have hshort := rounded_short hβ hp hd.le
    have hfew' : (β : ℚ) ^ p ≤ 2 ^ 50 := by exact_mod_cast hfew
    have hscaled : ∀ x : ℚ, x ≤ (β : ℚ) ^ p * |q - rounded β p (units b / c)| →
        x * c ≤ 2 ^ 50 * (|q - rounded β p (units b / c)| * c) := by
      intro x hx
      rw [← mul_assoc]
      apply mul_le_mul_of_nonneg_right _ hc.le
      exact hx.trans (mul_le_mul_of_nonneg_right hfew' (abs_nonneg _))
    have hne' : q ≠ rounded β p (units b / c) := fun h => hne (h ▸ rfl)
    exact (short_gap hβ hs hshort hne').imp (hscaled _) (hscaled _)

end DeviceManager.Binary64
