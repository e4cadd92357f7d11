import Mathlib.Data.List.Basic
import Mathlib.Order.Bounds.Basic
import Mathlib.Order.MinMax

namespace DeviceManager.SuffixMinimum

variable {α : Type*}

theorem mem_drop_snoc {values : List α} {start : ℕ} {v x : α} (hstart : start ≤ values.length) :
    x ∈ (values ++ [v]).drop start ↔ x ∈ values.drop start ∨ x = v := by
  rw [List.drop_append_of_le_length hstart, List.mem_append, List.mem_singleton]

variable [LinearOrder α]

def Minimum (values : List α) (start : ℕ) (m : α) : Prop :=
  IsLeast {x | x ∈ values.drop start} m

variable {values : List α} {start : ℕ} {m v : α}

theorem minimum_start_lt (h : Minimum values start m) : start < values.length := by
  by_contra hle
  have hmem : m ∈ values.drop start := h.1
  rw [List.drop_eq_nil_of_le (not_lt.mp hle)] at hmem
  exact List.not_mem_nil hmem

theorem minimum_le_getLast {last : α} (h : Minimum values start m)
    (hlast : values.getLast? = some last) : m ≤ last := by
  obtain ⟨before, rfl⟩ := List.getLast?_eq_some_iff.mp hlast
  have hstart := minimum_start_lt h
  rw [List.length_append, List.length_singleton, Nat.lt_succ_iff] at hstart
  exact h.2 ((mem_drop_snoc hstart).mpr (Or.inr rfl))

theorem minimum_last : Minimum (values ++ [v]) values.length v := by
  refine ⟨(mem_drop_snoc le_rfl).mpr (Or.inr rfl), fun x hx => ?_⟩
  obtain hx | rfl := (mem_drop_snoc le_rfl).mp hx
  · rw [List.drop_length] at hx
    exact absurd hx List.not_mem_nil
  · exact le_rfl

theorem minimum_snoc (h : Minimum values start m) : Minimum (values ++ [v]) start (min m v) := by
  have hstart := (minimum_start_lt h).le
  constructor
  · obtain hm | hv := min_choice m v
    · rw [hm]
      exact (mem_drop_snoc hstart).mpr (Or.inl h.1)
    · rw [hv]
      exact (mem_drop_snoc hstart).mpr (Or.inr rfl)
  · intro x hx
    obtain hx | rfl := (mem_drop_snoc hstart).mp hx
    · exact (min_le_left m v).trans (h.2 hx)
    · exact min_le_right m x

theorem minimum_snoc_low {later : ℕ} (h : Minimum values start m) (hv : v ≤ m)
    (hlater : start ≤ later) (hlength : later ≤ values.length) :
    Minimum (values ++ [v]) later v := by
  refine ⟨(mem_drop_snoc hlength).mpr (Or.inr rfl), fun x hx => ?_⟩
  obtain hx | rfl := (mem_drop_snoc hlength).mp hx
  · exact hv.trans (h.2 (List.drop_subset_drop_left values hlater hx))
  · exact le_rfl

theorem minimum_snoc_high (h : Minimum values start m) (hv : m ≤ v) :
    Minimum (values ++ [v]) start m := by
  have hmin := minimum_snoc (v := v) h
  rwa [min_eq_left hv] at hmin

end DeviceManager.SuffixMinimum
