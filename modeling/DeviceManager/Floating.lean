import Mathlib.Data.Rat.Floor

namespace DeviceManager

/-- What `double` has beside its order and its operations: literals, the rounding of a
result in `float`, and the remainder. -/
class Floating (α : Type) where
  literal : ℚ → α
  single : α → α
  fmod : α → α → α

namespace Floating

def truncate (q : ℚ) : ℤ := if 0 ≤ q then ⌊q⌋ else ⌈q⌉

instance : Floating ℚ where
  literal q := q
  single q := q
  fmod a b := a - b * truncate (a / b)

/-- A small integer as a number: exact in `float` as well. -/
def ofNat {α : Type} [Floating α] (n : ℕ) : α := literal n

end Floating

end DeviceManager
