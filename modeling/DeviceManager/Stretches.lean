import Mathlib.Data.List.Destutter
import Mathlib.Data.List.Induction

namespace DeviceManager.Stretches

variable {α : Type*} [DecidableEq α]

def stretches (l : List α) : List α := l.destutter (· ≠ ·)

def changes (l : List α) : ℕ := (stretches l).length - 1

theorem destutter'_snoc (first a : α) (l : List α) :
    (l ++ [a]).destutter' (· ≠ ·) first =
      if (first :: l).getLast? = some a then l.destutter' (· ≠ ·) first
      else l.destutter' (· ≠ ·) first ++ [a] := by
  induction l generalizing first with
  | nil =>
    rw [List.nil_append, List.destutter'_singleton, List.destutter'_nil, List.getLast?_singleton]
    by_cases heq : first = a
    · rw [if_neg (not_not.mpr heq), if_pos (congrArg some heq)]
    · rw [if_pos heq, if_neg (fun hsome => heq (Option.some.inj hsome))]
      rfl
  | cons b l ih =>
    rw [List.cons_append, List.getLast?_cons_cons, List.destutter'_cons, List.destutter'_cons, ih]
    by_cases hne : first ≠ b
    · rw [if_pos hne, if_pos hne]
      split_ifs <;> rfl
    · obtain rfl := not_not.mp hne
      rw [if_neg hne, if_neg hne, ih]

theorem stretches_snoc (l : List α) (a : α) :
    stretches (l ++ [a]) = if l.getLast? = some a then stretches l else stretches l ++ [a] := by
  cases l with
  | nil => rfl
  | cons first l => exact destutter'_snoc first a l

theorem changes_snoc {l : List α} {last : α} (hlast : l.getLast? = some last) (a : α) :
    changes (l ++ [a]) = if last = a then changes l else changes l + 1 := by
  have hpos : 0 < (stretches l).length := by
    rw [List.length_pos_iff, stretches, ne_eq, List.destutter_eq_nil]
    rintro rfl
    cases hlast
  rw [changes, stretches_snoc, hlast, changes]
  simp only [Option.some.injEq]
  split_ifs
  · rfl
  · rw [List.length_append, List.length_singleton]
    omega

/-- Reports of what is remembered, over the elements so far: one more than the changes at most,
and none is left over while the last element is not the one that is remembered. -/
structure Tally (remembered : Option α) (reports : ℕ) (l : List α) : Prop where
  start : l = [] → reports = 0
  bound : reports ≤ changes l + 1
  behind : ∀ last, l.getLast? = some last → remembered ≠ some last → reports ≤ changes l

variable {remembered : Option α} {reports : ℕ} {l : List α}

theorem tally_nil (remembered : Option α) : Tally remembered 0 [] :=
  ⟨fun _ => rfl, Nat.zero_le _, fun last hlast => (by cases hlast)⟩

omit [DecidableEq α] in
theorem getLast?_cases (l : List α) : l = [] ∨ ∃ last, l.getLast? = some last := by
  cases hlast : l.getLast? with
  | none => exact Or.inl (List.getLast?_eq_none_iff.mp hlast)
  | some last => exact Or.inr ⟨last, rfl⟩

theorem changes_replicate (n : ℕ) (a : α) : changes (List.replicate n a) = 0 := by
  induction n with
  | zero => rfl
  | succ n ih =>
    rw [List.replicate_succ']
    obtain hnil | ⟨last, hlast⟩ := getLast?_cases (List.replicate n a)
    · rw [hnil]
      rfl
    · obtain rfl := List.eq_of_mem_replicate (List.mem_of_getLast? hlast)
      rw [changes_snoc hlast, if_pos rfl, ih]

theorem Tally.pass (h : Tally remembered reports l) (a : α) :
    Tally remembered reports (l ++ [a]) := by
  refine ⟨fun hnil => absurd hnil (List.concat_ne_nil a l), ?_, fun last hlast hremembered => ?_⟩
  · obtain rfl | ⟨last, hlast⟩ := getLast?_cases l
    · rw [h.start rfl]
      exact Nat.zero_le _
    · have hbound := h.bound
      rw [changes_snoc hlast]
      split_ifs <;> omega
  · obtain rfl : a = last := Option.some.inj (List.getLast?_concat.symm.trans hlast)
    obtain rfl | ⟨last, hlast⟩ := getLast?_cases l
    · rw [h.start rfl]
      exact Nat.zero_le _
    · rw [changes_snoc hlast]
      split_ifs with hsame
      · exact h.behind last hlast (by rwa [hsame])
      · exact h.bound

theorem Tally.settle (h : Tally remembered reports l) (a : α) :
    Tally (some a) (reports + if remembered = some a then 0 else 1) (l ++ [a]) := by
  refine ⟨fun hnil => absurd hnil (List.concat_ne_nil a l), ?_, fun last hlast hremembered => ?_⟩
  · obtain rfl | ⟨last, hlast⟩ := getLast?_cases l
    · rw [h.start rfl]
      split_ifs <;> omega
    · have hbound := h.bound
      have hbehind := h.behind last hlast
      rw [changes_snoc hlast]
      split_ifs with hknown hsame hsame
      · exact hbound
      · omega
      · have hle := hbehind (by rwa [hsame])
        omega
      · omega
  · exact absurd (List.getLast?_concat.symm.trans hlast) hremembered

end DeviceManager.Stretches
