import DeviceManager.Fallible

namespace DeviceManager.Triples

open Fallible

variable {ε σ α β γ : Type} {P P' : σ → Prop} {Q Q' : α → σ → Prop} {R : β → σ → Prop}
  {E : ε → σ → Prop}

/-- From a state with `P` a computation returns with `Q`, or is left with `E`. -/
def Triple (P : σ → Prop) (m : EStateM ε σ α) (Q : α → σ → Prop) (E : ε → σ → Prop) : Prop :=
  ∀ s, P s →
    (∀ a s', exit m s = (s', .ok a) → Q a s') ∧ (∀ e s', exit m s = (s', .error e) → E e s')

theorem triple_pure {a : α} (h : ∀ s, P s → Q a s) : Triple P (pure a) Q E := by
  intro s hs
  refine ⟨fun a s' hexit => ?_, fun e s' hexit => ?_⟩
  · cases hexit
    exact h s hs
  · cases hexit

theorem triple_throw {e : ε} (h : ∀ s, P s → E e s) : Triple P (throw e) Q E := by
  intro s hs
  refine ⟨fun a s' hexit => ?_, fun e s' hexit => ?_⟩
  · cases hexit
  · cases hexit
    exact h s hs

theorem triple_modify {f : σ → σ} {Q : Unit → σ → Prop} (h : ∀ s, P s → Q () (f s)) :
    Triple P (modify f) Q E := by
  intro s hs
  refine ⟨fun a s' hexit => ?_, fun e s' hexit => ?_⟩
  · cases hexit
    exact h s hs
  · cases hexit

theorem triple_get_bind {f : σ → EStateM ε σ β}
    (h : ∀ s₀, P s₀ → Triple (fun s => s = s₀) (f s₀) R E) : Triple P (get >>= f) R E := by
  intro s hs
  rw [exit_get]
  exact h s hs s rfl

theorem triple_bind {m : EStateM ε σ α} {f : α → EStateM ε σ β} (hm : Triple P m Q E)
    (hf : ∀ a, Triple (Q a) (f a) R E) : Triple P (m >>= f) R E := by
  intro s hs
  obtain ⟨hok, herror⟩ := hm s hs
  rw [exit_bind]
  cases hend : (exit m s).2 with
  | ok a => exact hf a (exit m s).1 (hok a (exit m s).1 (Prod.ext rfl hend))
  | error e =>
    refine ⟨fun a s' hexit => ?_, fun e' s' hexit => ?_⟩
    · cases hexit
    · cases hexit
      exact herror e (exit m s).1 (Prod.ext rfl hend)

theorem triple_mono {m : EStateM ε σ α} (h : Triple P m Q E) (hP : ∀ s, P' s → P s)
    (hQ : ∀ a s, Q a s → Q' a s) : Triple P' m Q' E := by
  intro s hs
  obtain ⟨hok, herror⟩ := h s (hP s hs)
  exact ⟨fun a s' hexit => hQ a s' (hok a s' hexit), herror⟩

theorem triple_forM {I : σ → Prop} {l : List γ} {f : γ → EStateM ε σ PUnit}
    (h : ∀ c ∈ l, Triple I (f c) (fun _ => I) E) : Triple I (forM l f) (fun _ => I) E := by
  induction l with
  | nil => exact triple_pure fun _ hs => hs
  | cons c l ih =>
    exact triple_bind (h c (List.mem_cons_self ..)) fun _ =>
      ih fun d hd => h d (List.mem_cons_of_mem _ hd)

theorem triple_forM_range {I : Nat → σ → Prop} {n : Nat} {f : Nat → EStateM ε σ PUnit}
    (h : ∀ k < n, Triple (I k) (f k) (fun _ => I (k + 1)) E) :
    Triple (I 0) (forM (List.range n) f) (fun _ => I n) E := by
  suffices hfrom : ∀ k ≤ n, Triple (I (n - k)) (forM (List.range' (n - k) k) f) (fun _ => I n) E by
    have hall := hfrom n (Nat.le_refl n)
    rwa [Nat.sub_self, ← List.range_eq_range'] at hall
  intro k
  induction k with
  | zero =>
    intro _
    exact triple_pure fun _ hs => hs
  | succ k ih =>
    intro hk
    have hnext : n - (k + 1) + 1 = n - k := by omega
    rw [List.range'_succ, hnext]
    refine triple_bind (h (n - (k + 1)) (by omega)) fun _ => ?_
    rw [hnext]
    exact ih (by omega)

theorem triple_foldlM {I : σ → Prop} {l : List γ} {f : β → γ → EStateM ε σ β} (b : β)
    (h : ∀ b, ∀ c ∈ l, Triple I (f b c) (fun _ => I) E) :
    Triple I (l.foldlM f b) (fun _ => I) E := by
  induction l generalizing b with
  | nil => exact triple_pure fun _ hs => hs
  | cons c l ih =>
    rw [List.foldlM_cons]
    exact triple_bind (h b c (List.mem_cons_self ..)) fun b' =>
      ih b' fun d e he => h d e (List.mem_cons_of_mem _ he)

end DeviceManager.Triples
