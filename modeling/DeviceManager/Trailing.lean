import Mathlib.Data.List.DropRight
import Mathlib.Data.List.Induction

namespace DeviceManager.Trailing

variable {α : Type*} (p : α → Bool)

def trailing (l : List α) : ℕ := (l.rtakeWhile p).length

@[simp] theorem trailing_nil : trailing p [] = 0 := by
  rw [trailing, List.rtakeWhile_nil, List.length_nil]

theorem trailing_snoc (l : List α) (a : α) :
    trailing p (l ++ [a]) = if p a then trailing p l + 1 else 0 := by
  by_cases h : p a = true
  · rw [if_pos h, trailing, List.rtakeWhile_concat_pos p l a h, List.length_append]
    rfl
  · rw [if_neg h, trailing, List.rtakeWhile_concat_neg p l a h, List.length_nil]

end DeviceManager.Trailing
