import Mathlib.Data.List.Induction

namespace DeviceManager.Lockstep

variable {σ α β : Type*}

/-- A machine that emits any number of outputs for an input, over a list of inputs. -/
def play (step : σ → α → List β × σ) : σ → List α → List β × σ
  | s, [] => ([], s)
  | s, a :: as => ((step s a).1 ++ (play step (step s a).2 as).1, (play step (step s a).2 as).2)

variable {step : σ → α → List β × σ}

@[simp] theorem play_nil (s : σ) : play step s [] = ([], s) := rfl

theorem play_cons (s : σ) (a : α) (as : List α) :
    play step s (a :: as) =
      ((step s a).1 ++ (play step (step s a).2 as).1, (play step (step s a).2 as).2) := rfl

theorem play_append (s : σ) (as bs : List α) :
    play step s (as ++ bs) =
      ((play step s as).1 ++ (play step (play step s as).2 bs).1,
        (play step (play step s as).2 bs).2) := by
  induction as generalizing s with
  | nil => rfl
  | cons a as ih =>
    have ht := ih (step s a).2
    rw [List.cons_append, play_cons, play_cons, ht, List.append_assoc]

/-- What every step keeps, of the state and of the outputs so far, holds after a list of inputs. -/
theorem play_invariant {P : σ → List β → Prop} {as : List α}
    (hstep : ∀ s out, P s out → ∀ a ∈ as, P (step s a).2 (out ++ (step s a).1)) {s : σ}
    (out : List β) (h : P s out) : P (play step s as).2 (out ++ (play step s as).1) := by
  induction as generalizing s out with
  | nil =>
    rw [play_nil, List.append_nil]
    exact h
  | cons a as ih =>
    have hrest := fun t more ht c hc => hstep t more ht c (List.mem_cons_of_mem a hc)
    rw [play_cons, ← List.append_assoc]
    exact ih hrest _ (hstep s out h a List.mem_cons_self)

theorem play_related {τ : Type*} {other : τ → α → List β × τ} {R : σ → τ → Prop} {as : List α}
    (hstep : ∀ s t, R s t → ∀ a ∈ as, (step s a).1 = (other t a).1 ∧ R (step s a).2 (other t a).2)
    {s : σ} {t : τ} (h : R s t) :
    (play step s as).1 = (play other t as).1 ∧ R (play step s as).2 (play other t as).2 := by
  induction as generalizing s t with
  | nil => exact ⟨rfl, h⟩
  | cons a as ih =>
    obtain ⟨hout, hnext⟩ := hstep s t h a List.mem_cons_self
    obtain ⟨hrest, hlast⟩ := ih (fun s t hr c hc => hstep s t hr c (List.mem_cons_of_mem a hc)) hnext
    rw [play_cons, play_cons, hout, hrest]
    exact ⟨rfl, hlast⟩

theorem play_snoc (s : σ) (as : List α) (a : α) :
    (play step s (as ++ [a])).2 = (step (play step s as).2 a).2 := by
  rw [play_append]
  rfl

theorem along {P : List α → Prop} {as : List α} (hnil : P [])
    (hsnoc : ∀ done a, done ++ [a] <+: as → P done → P (done ++ [a])) :
    ∀ done, done <+: as → P done := by
  intro done
  induction done using List.reverseRecOn with
  | nil => exact fun _ => hnil
  | append_singleton done a ih =>
    intro h
    exact hsnoc done a h (ih ((List.prefix_append done [a]).trans h))

end DeviceManager.Lockstep
