import Mathlib.Algebra.Order.Field.Power
import Mathlib.Algebra.Order.Floor.Ring
import Mathlib.Algebra.Order.Ring.Abs
import Mathlib.Data.Int.Log
import Mathlib.Data.Rat.Floor
import Mathlib.Tactic.FieldSimp
import Mathlib.Tactic.Linarith
import Mathlib.Tactic.Positivity

namespace DeviceManager.Rounding

def roundEven (x : ℚ) : ℕ :=
  if x - ⌊x⌋₊ < 1 / 2 then ⌊x⌋₊
  else if 1 / 2 < x - ⌊x⌋₊ then ⌊x⌋₊ + 1
  else if Even ⌊x⌋₊ then ⌊x⌋₊ else ⌊x⌋₊ + 1

/-- `n` is the nearest natural number of `x`. -/
def Nearest (x : ℚ) (n : ℕ) : Prop := |x - n| < 1 / 2 ∨ |x - n| = 1 / 2 ∧ Even n

theorem roundEven_nearest {x : ℚ} (hx : 0 ≤ x) : Nearest x (roundEven x) := by
  have hlow : (⌊x⌋₊ : ℚ) ≤ x := Nat.floor_le hx
  have hhigh : x < ⌊x⌋₊ + 1 := Nat.lt_floor_add_one x
  unfold roundEven
  split_ifs with h1 h2 h3
  · left
    rw [abs_of_nonneg (by linarith)]
    exact h1
  · left
    push_cast
    rw [abs_of_nonpos (by linarith)]
    linarith
  · right
    refine ⟨?_, h3⟩
    rw [abs_of_nonneg (by linarith)]
    linarith
  · right
    refine ⟨?_, Nat.even_add_one.mpr h3⟩
    push_cast
    rw [abs_of_nonpos (by linarith)]
    linarith

theorem Nearest.le {x : ℚ} {n : ℕ} (h : Nearest x n) : |x - n| ≤ 1 / 2 :=
  h.elim le_of_lt fun h => le_of_eq h.1

theorem Nearest.unique {x : ℚ} {m n : ℕ} (hm : Nearest x m) (hn : Nearest x n) : m = n := by
  have hsum : |(m : ℚ) - n| ≤ |x - m| + |x - n| := by
    calc |(m : ℚ) - n| = |(x - n) - (x - m)| := by ring_nf
      _ ≤ |x - n| + |x - m| := abs_sub _ _
      _ = |x - m| + |x - n| := add_comm _ _
  by_contra hne
  have hgap : (1 : ℚ) ≤ |(m : ℚ) - n| := by
    have : (1 : ℤ) ≤ |(m : ℤ) - n| := Int.one_le_abs (by omega)
    exact_mod_cast this
  rcases hm with hm | ⟨hm, hem⟩
  · have := hn.le
    linarith
  · rcases hn with hn | ⟨hn, hen⟩
    · linarith
    · have hone : |(m : ℤ) - n| = 1 := by
        have : |(m : ℚ) - n| = 1 := by linarith
        exact_mod_cast this
      obtain ⟨a, ha⟩ := hem
      obtain ⟨b, hb⟩ := hen
      rcases abs_cases ((m : ℤ) - n) with ⟨h, -⟩ | ⟨h, -⟩ <;> omega

theorem roundEven_eq {x : ℚ} (hx : 0 ≤ x) {n : ℕ} (h : Nearest x n) : roundEven x = n :=
  (roundEven_nearest hx).unique h

@[simp] theorem roundEven_natCast (n : ℕ) : roundEven n = n :=
  roundEven_eq (Nat.cast_nonneg n) (Or.inl (by simp))

theorem Nearest.closest {x : ℚ} {n : ℕ} (h : Nearest x n) (m : ℕ) : |x - n| ≤ |x - m| := by
  by_cases he : m = n
  · rw [he]
  · have hgap : (1 : ℚ) ≤ |(m : ℚ) - n| := by
      have : (1 : ℤ) ≤ |(m : ℤ) - n| := Int.one_le_abs (by omega)
      exact_mod_cast this
    have hsum : |(m : ℚ) - n| ≤ |x - n| + |x - m| := by
      calc |(m : ℚ) - n| = |(x - n) - (x - m)| := by ring_nf
        _ ≤ |x - n| + |x - m| := abs_sub _ _
    have := h.le
    linarith

theorem Nearest.lower {x : ℚ} {n k : ℕ} (h : Nearest x n) (hk : (k : ℚ) ≤ x) : k ≤ n := by
  have hd := abs_le.mp h.le
  have hlt : (k : ℚ) < n + 1 := by linarith [hd.1, hd.2]
  have : k < n + 1 := by exact_mod_cast hlt
  omega

theorem Nearest.upper {x : ℚ} {n k : ℕ} (h : Nearest x n) (hk : x ≤ k) : n ≤ k := by
  have hd := abs_le.mp h.le
  have hlt : (n : ℚ) < k + 1 := by linarith [hd.1, hd.2]
  have : n < k + 1 := by exact_mod_cast hlt
  omega

variable (β p : ℕ)

/-- The exponent at which `x` has `p` digits in base `β` before the point. -/
def exponent (x : ℚ) : ℤ := Int.log β x + 1 - p

/-- The first `p` digits of `x`, rounded. They are `β ^ p` when the rounding carries. -/
def significand (x : ℚ) : ℕ := roundEven (x / (β : ℚ) ^ exponent β p x)

def rounded (x : ℚ) : ℚ := significand β p x * (β : ℚ) ^ exponent β p x

/-- `x` has at most `p` significant digits. -/
def Short (x : ℚ) : Prop := ∃ (m : ℕ) (e : ℤ), m < β ^ p ∧ x = m * (β : ℚ) ^ e

variable {β p}

theorem unit_pos (hβ : 1 < β) (e : ℤ) : (0 : ℚ) < (β : ℚ) ^ e :=
  zpow_pos (by exact_mod_cast Nat.lt_trans Nat.zero_lt_one hβ) e

theorem scaled_lt (hβ : 1 < β) (x : ℚ) : x / (β : ℚ) ^ exponent β p x < (β : ℚ) ^ p := by
  rw [div_lt_iff₀ (unit_pos hβ _), ← zpow_natCast, ← zpow_add₀ (by positivity), exponent]
  have h := Int.lt_zpow_succ_log_self hβ x
  have he : (p : ℤ) + (Int.log β x + 1 - p) = Int.log β x + 1 := by omega
  rw [he]
  exact h

theorem scaled_ge (hβ : 1 < β) (hp : 0 < p) {x : ℚ} (hx : 0 < x) :
    (β : ℚ) ^ (p - 1) ≤ x / (β : ℚ) ^ exponent β p x := by
  rw [le_div_iff₀ (unit_pos hβ _), ← zpow_natCast, ← zpow_add₀ (by positivity), exponent]
  have h := Int.zpow_log_le_self hβ hx
  have he : ((p - 1 : ℕ) : ℤ) + (Int.log β x + 1 - p) = Int.log β x := by omega
  rw [he]
  exact h

theorem significand_nearest {x : ℚ} (hβ : 1 < β) (hx : 0 ≤ x) :
    Nearest (x / (β : ℚ) ^ exponent β p x) (significand β p x) :=
  roundEven_nearest (div_nonneg hx (unit_pos hβ _).le)

theorem significand_le (hβ : 1 < β) {x : ℚ} (hx : 0 ≤ x) : significand β p x ≤ β ^ p := by
  apply (significand_nearest hβ hx).upper
  have h := scaled_lt (p := p) hβ x
  push_cast
  exact h.le

theorem le_significand (hβ : 1 < β) (hp : 0 < p) {x : ℚ} (hx : 0 < x) :
    β ^ (p - 1) ≤ significand β p x := by
  apply (significand_nearest hβ hx.le).lower
  have h := scaled_ge hβ hp hx
  push_cast
  exact h

theorem rounded_short (hβ : 1 < β) (hp : 0 < p) {x : ℚ} (hx : 0 ≤ x) : Short β p (rounded β p x) := by
  obtain hlt | heq := (significand_le (p := p) hβ hx).lt_or_eq
  · exact ⟨_, _, hlt, rfl⟩
  · refine ⟨β ^ (p - 1), exponent β p x + 1, Nat.pow_lt_pow_right hβ (by omega), ?_⟩
    obtain ⟨k, rfl⟩ : ∃ k, p = k + 1 := ⟨p - 1, by omega⟩
    rw [rounded, heq, zpow_add_one₀ (by positivity)]
    push_cast
    ring

theorem abs_sub_scale {u : ℚ} (hu : 0 < u) (x y : ℚ) : |x - y * u| = |x / u - y| * u := by
  have h : x - y * u = (x / u - y) * u := by
    field_simp
  rw [h, abs_mul, abs_of_pos hu]

/-- No multiple of the unit in the last place is closer. -/
theorem rounded_closest_grid (hβ : 1 < β) {x : ℚ} (hx : 0 ≤ x) (n : ℕ) :
    |x - rounded β p x| ≤ |x - n * (β : ℚ) ^ exponent β p x| := by
  have hu := unit_pos hβ (exponent β p x)
  rw [rounded, abs_sub_scale hu, abs_sub_scale hu]
  exact mul_le_mul_of_nonneg_right ((significand_nearest hβ hx).closest n) hu.le

theorem mul_zpow_finer (hβ : 1 < β) {e f : ℤ} (h : e ≤ f) (n : ℕ) :
    (n : ℚ) * (β : ℚ) ^ f = ((n * β ^ (f - e).toNat : ℕ) : ℚ) * (β : ℚ) ^ e := by
  push_cast
  rw [mul_assoc, ← zpow_natCast, ← zpow_add₀ (by positivity)]
  congr 2
  omega

/-- No number with at most `p` digits is closer. -/
theorem rounded_closest (hβ : 1 < β) (hp : 0 < p) {x y : ℚ} (hx : 0 < x) (hy : Short β p y) :
    |x - rounded β p x| ≤ |x - y| := by
  obtain ⟨m, e, hm, rfl⟩ := hy
  have hu := unit_pos hβ (exponent β p x)
  by_cases he : exponent β p x ≤ e
  · rw [mul_zpow_finer hβ he]
    exact rounded_closest_grid hβ hx.le _
  · have hlow : ((β ^ (p - 1) : ℕ) : ℚ) * (β : ℚ) ^ exponent β p x ≤ x := by
      have h := scaled_ge hβ hp hx
      rw [le_div_iff₀ hu] at h
      push_cast
      exact h
    have hbelow : (m : ℚ) * (β : ℚ) ^ e ≤ ((β ^ (p - 1) : ℕ) : ℚ) * (β : ℚ) ^ exponent β p x := by
      have hm' : (m : ℚ) ≤ (β : ℚ) ^ p := by exact_mod_cast hm.le
      calc (m : ℚ) * (β : ℚ) ^ e ≤ (β : ℚ) ^ p * (β : ℚ) ^ e :=
            mul_le_mul_of_nonneg_right hm' (unit_pos hβ e).le
        _ = (β : ℚ) ^ ((p : ℤ) + e) := by rw [zpow_add₀ (by positivity), zpow_natCast]
        _ ≤ (β : ℚ) ^ (((p - 1 : ℕ) : ℤ) + exponent β p x) :=
            zpow_le_zpow_right₀ (by exact_mod_cast hβ.le) (by omega)
        _ = ((β ^ (p - 1) : ℕ) : ℚ) * (β : ℚ) ^ exponent β p x := by
            rw [zpow_add₀ (by positivity), zpow_natCast, Nat.cast_pow]
    apply (rounded_closest_grid hβ hx.le (β ^ (p - 1))).trans
    rw [abs_of_nonneg (by linarith), abs_of_nonneg (by linarith)]
    linarith

theorem grid_gap (hβ : 1 < β) {m n : ℕ} {e f : ℤ} (hef : e ≤ f)
    (hne : (m : ℚ) * (β : ℚ) ^ e ≠ n * (β : ℚ) ^ f) :
    (β : ℚ) ^ e ≤ |(m : ℚ) * (β : ℚ) ^ e - n * (β : ℚ) ^ f| := by
  have hu := unit_pos hβ e
  rw [mul_zpow_finer hβ hef] at hne ⊢
  rw [← sub_mul, abs_mul, abs_of_pos hu]
  have hint : (1 : ℤ) ≤ |(m : ℤ) - ((n * β ^ (f - e).toNat : ℕ) : ℤ)| := by
    apply Int.one_le_abs
    intro h
    have hm : m = n * β ^ (f - e).toNat := by omega
    exact hne (by rw [← hm])
  have hrat : (1 : ℚ) ≤ |(m : ℚ) - ((n * β ^ (f - e).toNat : ℕ) : ℚ)| := by exact_mod_cast hint
  exact le_mul_of_one_le_left hu.le hrat

/-- Two numbers with at most `p` digits are apart by the last digit of one of them. -/
theorem short_gap (hβ : 1 < β) {x y : ℚ} (hx : Short β p x) (hy : Short β p y) (hne : x ≠ y) :
    x ≤ (β : ℚ) ^ p * |x - y| ∨ y ≤ (β : ℚ) ^ p * |x - y| := by
  obtain ⟨m, e, hm, rfl⟩ := hx
  obtain ⟨n, f, hn, rfl⟩ := hy
  have hm' : (m : ℚ) ≤ (β : ℚ) ^ p := by exact_mod_cast hm.le
  have hn' : (n : ℚ) ≤ (β : ℚ) ^ p := by exact_mod_cast hn.le
  have hβp : (0 : ℚ) ≤ (β : ℚ) ^ p := by positivity
  obtain hef | hfe := le_total e f
  · left
    exact mul_le_mul hm' (grid_gap hβ hef hne) (unit_pos hβ e).le hβp
  · right
    rw [abs_sub_comm]
    exact mul_le_mul hn' (grid_gap hβ hfe hne.symm) (unit_pos hβ f).le hβp

end DeviceManager.Rounding
