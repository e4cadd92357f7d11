import Mathlib.Data.List.Basic

namespace DeviceManager.DropOldest

variable {α : Type*}

def push (capacity : Nat) (queue : List α) (a : α) : List α :=
  (if queue.length = capacity then queue.tail else queue) ++ [a]

/-- The queue holds what arrived last. Of the rest some was taken, in order and each at most once,
and all of it if no entry was given up. -/
structure Window (capacity : Nat) (kept : Prop) (arrived taken queue : List α) : Prop where
  bounded : queue.length ≤ capacity
  split : ∃ before, arrived = before ++ queue ∧ taken.Sublist before ∧ (kept → taken = before)

variable {capacity : Nat} {kept kept' : Prop} {arrived taken queue : List α}

theorem window_nil (capacity : Nat) (kept : Prop) : Window capacity kept ([] : List α) [] [] :=
  ⟨Nat.zero_le _, [], rfl, List.Sublist.refl _, fun _ => rfl⟩

theorem Window.sublist (h : Window capacity kept arrived taken queue) :
    (taken ++ queue).Sublist arrived := by
  obtain ⟨before, rfl, hsub, -⟩ := h.split
  exact hsub.append (List.Sublist.refl _)

theorem Window.all (h : Window capacity kept arrived taken queue) (hk : kept) :
    taken ++ queue = arrived := by
  obtain ⟨before, rfl, -, hall⟩ := h.split
  rw [hall hk]

theorem Window.mono (h : Window capacity kept arrived taken queue) (hkept : kept' → kept) :
    Window capacity kept' arrived taken queue := by
  obtain ⟨before, hsplit, hsub, hall⟩ := h.split
  exact ⟨h.bounded, before, hsplit, hsub, fun hk => hall (hkept hk)⟩

theorem Window.push (h : Window capacity kept arrived taken queue) (hcapacity : 0 < capacity)
    (a : α) (hkept : kept' → kept ∧ queue.length ≠ capacity) :
    Window capacity kept' (arrived ++ [a]) taken (push capacity queue a) := by
  obtain ⟨before, rfl, hsub, hall⟩ := h.split
  have hbound := h.bounded
  by_cases hfull : queue.length = capacity
  · cases queue with
    | nil =>
      rw [List.length_nil] at hfull
      omega
    | cons oldest queue =>
      rw [DropOldest.push, if_pos hfull, List.tail_cons]
      rw [List.length_cons] at hbound
      refine ⟨?_, before ++ [oldest], ?_, ?_, fun hk => ?_⟩
      · rw [List.length_append, List.length_singleton]
        exact hbound
      · simp
      · exact hsub.trans (List.sublist_append_left before [oldest])
      · exact absurd hfull (hkept hk).2
  · rw [DropOldest.push, if_neg hfull]
    refine ⟨?_, before, ?_, hsub, fun hk => hall (hkept hk).1⟩
    · rw [List.length_append, List.length_singleton]
      omega
    · rw [List.append_assoc]

theorem Window.pop {a : α} (h : Window capacity kept arrived taken (a :: queue)) :
    Window capacity kept arrived (taken ++ [a]) queue := by
  obtain ⟨before, rfl, hsub, hall⟩ := h.split
  refine ⟨Nat.le_of_succ_le h.bounded, before ++ [a], ?_, ?_, fun hk => ?_⟩
  · simp
  · exact hsub.append (List.Sublist.refl _)
  · rw [hall hk]

end DeviceManager.DropOldest
