import Mathlib.Data.List.Basic

namespace DeviceManager.Ledger

variable {α : Type*}

/-- An entry is given, or all that is open is taken at once. Ledgers are kept
newest first, like histories. -/
inductive Entry (α : Type*) where
  | give (a : α)
  | take

def opened : List (Entry α) → List α
  | [] => []
  | .give a :: h => opened h ++ [a]
  | .take :: _ => []

def closed : List (Entry α) → List (List α)
  | [] => []
  | .give _ :: h => closed h
  | .take :: h => closed h ++ [opened h]

def given : List (Entry α) → List α
  | [] => []
  | .give a :: h => given h ++ [a]
  | .take :: h => given h

/-- Every entry is in exactly one window, and the windows keep the order. -/
theorem flatten_closed (h : List (Entry α)) : (closed h).flatten ++ opened h = given h := by
  induction h with
  | nil => rfl
  | cons entry h ih =>
    cases entry with
    | give a => rw [closed, opened, given, ← List.append_assoc, ih]
    | take => simp [closed, opened, given, ih]

end DeviceManager.Ledger
