import Mathlib.Logic.Relation

namespace DeviceManager.Transition

open Relation

variable {σ τ α β : Type*}

/-- A machine is an executable partial step function. A guard restricts the
labels that a run may use in each state. -/
def Step (next : σ → α → Option σ) (ok : σ → α → Prop) (s t : σ) : Prop :=
  ∃ a, ok s a ∧ next s a = some t

def Runs (next : σ → α → Option σ) (ok : σ → α → Prop) : σ → σ → Prop :=
  ReflTransGen (Step next ok)

theorem Runs.refl {next : σ → α → Option σ} {ok : σ → α → Prop} (s : σ) : Runs next ok s s :=
  ReflTransGen.refl

theorem Runs.snoc {next : σ → α → Option σ} {ok : σ → α → Prop} {s t u : σ} {a : α}
    (h : Runs next ok s t) (ha : ok t a) (hn : next t a = some u) : Runs next ok s u :=
  ReflTransGen.tail h ⟨a, ha, hn⟩

theorem Runs.trans {next : σ → α → Option σ} {ok : σ → α → Prop} {s t u : σ}
    (h : Runs next ok s t) (h' : Runs next ok t u) : Runs next ok s u :=
  ReflTransGen.trans h h'

/-- What holds at the start and is kept by every allowed step holds at the end. -/
theorem Runs.invariant {next : σ → α → Option σ} {ok : σ → α → Prop} {I : σ → Prop} {s t : σ}
    (h : Runs next ok s t) (hs : I s)
    (hstep : ∀ s a t, I s → ok s a → next s a = some t → I t) : I t := by
  induction h with
  | refl => exact hs
  | tail _ hst ih =>
    obtain ⟨a, ha, hn⟩ := hst
    exact hstep _ a _ ih ha hn

theorem Runs.mono {next : σ → α → Option σ} {ok ok' : σ → α → Prop} {s t : σ}
    (h : Runs next ok s t) (hok : ∀ s a, ok s a → ok' s a) : Runs next ok' s t :=
  h.invariant (Runs.refl s) fun _ _ _ hu ha hn => hu.snoc (hok _ _ ha) hn

theorem Runs.project {next : σ → α → Option σ} {ok : σ → α → Prop}
    {next' : τ → β → Option τ} {ok' : τ → β → Prop} (f : σ → τ)
    (hstep : ∀ s a t, ok s a → next s a = some t → Runs next' ok' (f s) (f t)) {s t : σ}
    (h : Runs next ok s t) : Runs next' ok' (f s) (f t) :=
  h.invariant (I := fun u => Runs next' ok' (f s) (f u)) (Runs.refl _) fun u a t hu ha hn =>
    hu.trans (hstep u a t ha hn)

/-- Replay a list of labels, checking the guard before every step. -/
def exec (next : σ → α → Option σ) (ok : σ → α → Prop) [∀ s a, Decidable (ok s a)] :
    List α → σ → Option σ
  | [], s => some s
  | a :: as, s => if ok s a then (next s a).bind (exec next ok as) else none

theorem exec_runs {next : σ → α → Option σ} {ok : σ → α → Prop} [∀ s a, Decidable (ok s a)]
    {s t : σ} (as : List α) (h : exec next ok as s = some t) : Runs next ok s t := by
  induction as generalizing s with
  | nil =>
    simp only [exec, Option.some.injEq] at h
    exact h ▸ Runs.refl s
  | cons a as ih =>
    by_cases ha : ok s a
    · simp only [exec, ha, if_true, Option.bind_eq_some_iff] at h
      obtain ⟨u, hn, hu⟩ := h
      exact (Runs.snoc (Runs.refl s) ha hn).trans (ih hu)
    · simp [exec, ha] at h

end DeviceManager.Transition
