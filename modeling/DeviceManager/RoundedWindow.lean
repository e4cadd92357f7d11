import Mathlib.Data.Rat.Floor
import Mathlib.Tactic.Linarith
import Mathlib.Tactic.NormNum

namespace DeviceManager.RoundedWindow

def halfUp (q : ℚ) : ℤ := ⌊q + 1 / 2⌋

theorem halfUp_le (q : ℚ) : (halfUp q : ℚ) ≤ q + 1 / 2 := Int.floor_le _

theorem halfUp_nonneg {q : ℚ} (h : 0 ≤ q) : 0 ≤ halfUp q := Int.floor_nonneg.mpr (by linarith)

theorem halfUp_le_of_le {q : ℚ} {n : ℤ} (h : q ≤ n) : halfUp q ≤ n := by
  have hq := halfUp_le q
  have hlt : (halfUp q : ℚ) < (n + 1 : ℤ) := by
    push_cast
    linarith
  exact Int.lt_add_one_iff.mp (Int.cast_lt.mp hlt)

theorem halfUp_half (k : ℤ) : halfUp (k + 1 / 2) = k + 1 := by
  have hsum : (k : ℚ) + 1 / 2 + 1 / 2 = (k + 1 : ℤ) := by
    push_cast
    ring
  rw [halfUp, hsum, Int.floor_intCast]

/-- The start and the width of a window, each rounded by itself: they leave the whole only where
the window ends with it and both are halves. -/
theorem halfUp_add_le_iff {start width : ℚ} {n : ℤ} (h : start + width ≤ n) :
    halfUp start + halfUp width ≤ n ↔
      ¬ (start + width = n ∧ ∃ k : ℤ, start = k + 1 / 2) := by
  have hstart := halfUp_le start
  have hwidth := halfUp_le width
  constructor
  · rintro hle ⟨hend, k, rfl⟩
    have hrest : width = (n - k - 1 : ℤ) + 1 / 2 := by
      push_cast
      linarith
    rw [halfUp_half, hrest, halfUp_half] at hle
    omega
  · intro hnot
    by_contra hlt
    have hmore : (n : ℚ) + 1 ≤ halfUp start + halfUp width := by
      exact_mod_cast Int.add_one_le_iff.mpr (not_le.mp hlt)
    refine hnot ⟨by linarith, halfUp start - 1, ?_⟩
    push_cast
    linarith

variable {α : Type*}

def fill (value : ℕ → α) (place : ℕ → ℕ) (count : ℕ) (l : List α) : List α :=
  (List.range count).foldl (fun l i => l.set (place i) (value i)) l

variable {value : ℕ → α} {place : ℕ → ℕ} {l : List α}

theorem fill_succ (count : ℕ) :
    fill value place (count + 1) l = (fill value place count l).set (place count) (value count) := by
  rw [fill, List.range_succ, List.foldl_append]
  rfl

theorem length_fill (count : ℕ) : (fill value place count l).length = l.length := by
  induction count with
  | zero => rfl
  | succ count ih => rw [fill_succ, List.length_set, ih]

theorem fill_place {count : ℕ} (hplace : ∀ i < count, place i < l.length)
    (hinj : ∀ i < count, ∀ j < count, place i = place j → i = j) {i : ℕ} (hi : i < count) :
    (fill value place count l)[place i]? = some (value i) := by
  induction count with
  | zero => exact absurd hi (Nat.not_lt_zero i)
  | succ count ih =>
    rw [fill_succ]
    obtain hlt | rfl := Nat.lt_succ_iff_lt_or_eq.mp hi
    · have hne : place count ≠ place i := fun heq =>
        hlt.ne' (hinj count (Nat.lt_succ_self count) i hi heq)
      rw [List.getElem?_set_ne hne]
      exact ih (fun j hj => hplace j (Nat.lt_succ_of_lt hj))
        (fun j hj k hk => hinj j (Nat.lt_succ_of_lt hj) k (Nat.lt_succ_of_lt hk)) hlt
    · rw [List.getElem?_set_self]
      rw [length_fill]
      exact hplace i hi

end DeviceManager.RoundedWindow
