import Mathlib.Data.List.Basic

namespace DeviceManager.Transducer

variable {σ α β : Type*}

/-- A machine that reads its input once and emits at most one output for an
input. `run` collects what it emits and returns the state it ends in. -/
def run (step : σ → α → Option β × σ) : σ → List α → List β × σ
  | s, [] => ([], s)
  | s, a :: as =>
    ((step s a).1.toList ++ (run step (step s a).2 as).1, (run step (step s a).2 as).2)

/-- The input arrives in chunks, each one a call of `run`. -/
def runChunks (step : σ → α → Option β × σ) : σ → List (List α) → List β × σ
  | s, [] => ([], s)
  | s, chunk :: chunks =>
    ((run step s chunk).1 ++ (runChunks step (run step s chunk).2 chunks).1,
      (runChunks step (run step s chunk).2 chunks).2)

variable {step : σ → α → Option β × σ}

@[simp] theorem run_nil (s : σ) : run step s [] = ([], s) := rfl

theorem run_cons (s : σ) (a : α) (as : List α) :
    run step s (a :: as) =
      ((step s a).1.toList ++ (run step (step s a).2 as).1, (run step (step s a).2 as).2) := rfl

theorem run_append (s : σ) (as bs : List α) :
    run step s (as ++ bs) =
      ((run step s as).1 ++ (run step (run step s as).2 bs).1,
        (run step (run step s as).2 bs).2) := by
  induction as generalizing s with
  | nil => simp
  | cons a as ih =>
    have ht := ih (step s a).2
    rw [List.cons_append, run_cons, run_cons, ht, List.append_assoc]

theorem run_silent {s t : σ} {as : List α} (h : run step s as = ([], t)) (bs : List α) :
    run step s (as ++ bs) = run step t bs := by
  rw [run_append, h, List.nil_append]

def Throughout (step : σ → α → Option β × σ) (P : σ → Prop) (s : σ) (as : List α) : Prop :=
  ∀ done, done <+: as → P (run step s done).2

theorem throughout_nil {P : σ → Prop} {s : σ} : Throughout step P s [] ↔ P s := by
  constructor
  · exact fun h => h [] (List.prefix_refl _)
  · intro h done hdone
    rw [List.prefix_nil.mp hdone]
    exact h

theorem throughout_cons {P : σ → Prop} {s : σ} {a : α} {as : List α} :
    Throughout step P s (a :: as) ↔ P s ∧ Throughout step P (step s a).2 as := by
  constructor
  · intro h
    refine ⟨h [] List.nil_prefix, fun done hdone => ?_⟩
    exact h (a :: done) (List.cons_prefix_cons.mpr ⟨rfl, hdone⟩)
  · rintro ⟨hs, h⟩ done hdone
    cases done with
    | nil => exact hs
    | cons b done =>
      obtain ⟨rfl, hrest⟩ := List.cons_prefix_cons.mp hdone
      exact h done hrest

theorem throughout_append {P : σ → Prop} {s : σ} {as bs : List α} :
    Throughout step P s (as ++ bs) ↔
      Throughout step P s as ∧ Throughout step P (run step s as).2 bs := by
  induction as generalizing s with
  | nil =>
    rw [List.nil_append, throughout_nil, run_nil]
    exact ⟨fun h => ⟨h [] List.nil_prefix, h⟩, And.right⟩
  | cons a as ih => rw [List.cons_append, throughout_cons, throughout_cons, ih, run_cons, and_assoc]

/-- Where the input is cut does not matter. -/
theorem runChunks_eq (s : σ) (chunks : List (List α)) :
    runChunks step s chunks = run step s chunks.flatten := by
  induction chunks generalizing s with
  | nil => rfl
  | cons chunk chunks ih =>
    have ht := ih (run step s chunk).2
    rw [List.flatten_cons, run_append, runChunks, ht]

end DeviceManager.Transducer
