import Mathlib.Data.List.Induction

namespace DeviceManager.Alternation

/-- The signals alternate, and the first one is `first`. -/
def Alternates : Bool → List Bool → Prop
  | _, [] => True
  | first, signal :: signals => signal = first ∧ Alternates (!first) signals

def due : Bool → List Bool → Bool
  | first, [] => first
  | first, _ :: signals => due (!first) signals

instance : ∀ first signals, Decidable (Alternates first signals)
  | _, [] => isTrue trivial
  | first, signal :: signals =>
    have : Decidable (Alternates (!first) signals) := instDecidableAlternates (!first) signals
    inferInstanceAs (Decidable (signal = first ∧ Alternates (!first) signals))

theorem due_snoc (first : Bool) (signals : List Bool) (signal : Bool) :
    due first (signals ++ [signal]) = !due first signals := by
  induction signals generalizing first with
  | nil => rfl
  | cons other signals ih => exact ih (!first)

theorem alternates_snoc {first signal : Bool} {signals : List Bool} :
    Alternates first (signals ++ [signal]) ↔
      Alternates first signals ∧ signal = due first signals := by
  induction signals generalizing first with
  | nil => simp [Alternates, due]
  | cons other signals ih =>
    rw [List.cons_append, Alternates, ih, Alternates, and_assoc]
    rfl

/-- What comes next is the opposite of what came last. -/
theorem due_eq_not {first : Bool} {signals : List Bool} (h : Alternates first signals) :
    due first signals = !signals.getLast?.getD !first := by
  induction signals using List.reverseRecOn with
  | nil => exact (Bool.not_not first).symm
  | append_singleton signals signal _ =>
    obtain ⟨-, hsignal⟩ := alternates_snoc.mp h
    rw [due_snoc, ← hsignal, List.getLast?_concat, Option.getD_some]

variable {α : Type} {call answer : α → Prop}

def Answered (call answer : α → Prop) (events : List α) : Prop :=
  ∀ before x after, events = before ++ x :: after → call x → ∃ y ∈ after, answer y

theorem answered_nil : Answered call answer [] := by
  intro before x after h
  exact absurd h.symm (by simp)

theorem split_snoc {events before after : List α} {x y : α}
    (h : events ++ [y] = before ++ x :: after) :
    (after = [] ∧ x = y) ∨ ∃ rest, after = rest ++ [y] ∧ events = before ++ x :: rest := by
  obtain rfl | ⟨rest, z, rfl⟩ := after.eq_nil_or_concat
  · obtain ⟨-, hy⟩ := List.append_inj' h rfl
    exact Or.inl ⟨rfl, (List.cons.inj hy).1.symm⟩
  · rw [List.concat_eq_append, ← List.cons_append, ← List.append_assoc] at h
    obtain ⟨hevents, hy⟩ := List.append_inj' h rfl
    obtain rfl := (List.cons.inj hy).1
    exact Or.inr ⟨rest, List.concat_eq_append, hevents⟩

theorem answered_snoc_answer {events : List α} {y : α} (hcall : ¬ call y) (hanswer : answer y) :
    Answered call answer (events ++ [y]) := by
  intro before x after h hx
  obtain ⟨-, rfl⟩ | ⟨rest, rfl, -⟩ := split_snoc h
  · exact absurd hx hcall
  · exact ⟨y, List.mem_append_right rest (List.mem_singleton_self y), hanswer⟩

theorem Answered.snoc {events : List α} {y : α} (h : Answered call answer events)
    (hcall : ¬ call y) : Answered call answer (events ++ [y]) := by
  intro before x after hsplit hx
  obtain ⟨-, rfl⟩ | ⟨rest, rfl, hevents⟩ := split_snoc hsplit
  · exact absurd hx hcall
  · obtain ⟨z, hz, hanswer⟩ := h before x rest hevents hx
    exact ⟨z, List.mem_append_left [y] hz, hanswer⟩

theorem Answered.append {events more : List α} (h : Answered call answer events)
    (hcall : ∀ y ∈ more, ¬ call y) : Answered call answer (events ++ more) := by
  induction more using List.reverseRecOn with
  | nil => rwa [List.append_nil]
  | append_singleton more y ih =>
    obtain ⟨hmore, hy⟩ := List.forall_mem_append.mp hcall
    rw [← List.append_assoc]
    exact (ih hmore).snoc (hy y (List.mem_singleton_self y))

end DeviceManager.Alternation
