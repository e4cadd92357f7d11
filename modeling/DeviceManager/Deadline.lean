import Mathlib.Order.Bounds.Defs
import Mathlib.Tactic.Ring
import Mathlib.Tactic.Linarith

namespace DeviceManager.Deadline

/-- `do next += period; while (next <= now)`, or nothing where the fuel runs out. -/
def catchUp (period now : ℤ) : ℕ → ℤ → Option ℤ
  | 0, _ => none
  | fuel + 1, next =>
    if next + period ≤ now then catchUp period now fuel (next + period) else some (next + period)

/-- The points `start + k * period`. -/
def OnGrid (start period point : ℤ) : Prop := ∃ k : ℕ, point = start + k * period

variable {start period now next point : ℤ}

theorem onGrid_start (start period : ℤ) : OnGrid start period start := ⟨0, by simp⟩

theorem OnGrid.add (h : OnGrid start period point) : OnGrid start period (point + period) := by
  obtain ⟨k, rfl⟩ := h
  refine ⟨k + 1, ?_⟩
  push_cast
  ring

theorem catchUp_succ (period now : ℤ) (fuel : ℕ) (next : ℤ) :
    catchUp period now (fuel + 1) next =
      if next + period ≤ now then catchUp period now fuel (next + period)
      else some (next + period) := rfl

theorem catchUp_mono {fuel more : ℕ} {d : ℤ} (h : catchUp period now fuel next = some d)
    (hle : fuel ≤ more) : catchUp period now more next = some d := by
  induction fuel generalizing more next with
  | zero => cases h
  | succ fuel ih =>
    obtain ⟨more, rfl⟩ : ∃ n, more = n + 1 := ⟨more - 1, by omega⟩
    rw [catchUp_succ] at h ⊢
    split_ifs at h ⊢ with hagain
    · exact ih h (by omega)
    · exact h

/-- A positive period passes any time. -/
theorem catchUp_ends (hperiod : 0 < period) (now next : ℤ) :
    ∃ fuel d, catchUp period now fuel next = some d := by
  suffices h : ∀ fuel : ℕ, ∀ next, now < next + fuel →
      ∃ d, catchUp period now (fuel + 1) next = some d by
    exact ⟨(now - next).toNat + 1 + 1, h _ next (by omega)⟩
  intro fuel
  induction fuel with
  | zero =>
    intro next hnext
    refine ⟨next + period, ?_⟩
    rw [catchUp_succ, if_neg (by omega)]
  | succ fuel ih =>
    intro next hnext
    rw [catchUp_succ]
    split_ifs
    · exact ih (next + period) (by omega)
    · exact ⟨next + period, rfl⟩

theorem catchUp_stuck (hdue : next ≤ now) (fuel : ℕ) : catchUp 0 now fuel next = none := by
  induction fuel with
  | zero => rfl
  | succ fuel ih => rw [catchUp_succ, add_zero, if_pos hdue, ih]

theorem catchUp_onGrid {fuel : ℕ} {d : ℤ} (h : catchUp period now fuel next = some d)
    (hnext : OnGrid start period next) : OnGrid start period d := by
  induction fuel generalizing next with
  | zero => cases h
  | succ fuel ih =>
    rw [catchUp_succ] at h
    split_ifs at h
    · exact ih h hnext.add
    · obtain rfl := Option.some.inj h
      exact hnext.add

/-- The new deadline is the first one behind the time. -/
theorem catchUp_bounds {fuel : ℕ} {d : ℤ} (h : catchUp period now fuel next = some d)
    (hdue : next ≤ now) : now < d ∧ d ≤ now + period := by
  induction fuel generalizing next with
  | zero => cases h
  | succ fuel ih =>
    rw [catchUp_succ] at h
    split_ifs at h with hagain
    · exact ih h hagain
    · obtain rfl := Option.some.inj h
      omega

theorem OnGrid.isLeast {d : ℤ} (hperiod : 0 < period) (hd : OnGrid start period d)
    (hlow : now < d) (hhigh : d ≤ now + period) :
    IsLeast {point | OnGrid start period point ∧ now < point} d := by
  refine ⟨⟨hd, hlow⟩, ?_⟩
  rintro point ⟨⟨k, rfl⟩, hpoint⟩
  obtain ⟨j, rfl⟩ := hd
  have hjk : (j : ℤ) < k + 1 := by
    by_contra hge
    have hmul : (k + 1 : ℤ) * period ≤ j * period :=
      mul_le_mul_of_nonneg_right (not_lt.mp hge) hperiod.le
    rw [add_mul, one_mul] at hmul
    omega
  have hmul : (j : ℤ) * period ≤ k * period := mul_le_mul_of_nonneg_right (by omega) hperiod.le
  omega

theorem OnGrid.interval_lt {a b : ℤ} (hperiod : 0 < period) (hpoint : OnGrid start period point)
    (ha : a < point) (hb : point ≤ b) : (a - start) / period < (b - start) / period := by
  obtain ⟨k, rfl⟩ := hpoint
  have hbefore : (a - start) / period < k := Int.ediv_lt_of_lt_mul hperiod (by omega)
  have hafter : (k : ℤ) ≤ (b - start) / period := Int.le_ediv_of_mul_le hperiod (by omega)
  omega

end DeviceManager.Deadline
