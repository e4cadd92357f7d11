import DeviceManager.History
import Mathlib.Tactic.SplitIfs

namespace DeviceManager.Lanes

open History

variable {P α : Type*} [DecidableEq P]

inductive Op (P α : Type*) where
  | push (priority : P) (entry : α)
  | pop (priority : P) (entry : α)

def lane (p : P) : List (Op P α) → List α
  | [] => []
  | .push p' a :: h => if p' = p then lane p h ++ [a] else lane p h
  | .pop p' _ :: h => if p' = p then (lane p h).tail else lane p h

def pushed (p : P) : List (Op P α) → List α
  | [] => []
  | .push p' a :: h => if p' = p then pushed p h ++ [a] else pushed p h
  | .pop _ _ :: h => pushed p h

def popped (p : P) : List (Op P α) → List α
  | [] => []
  | .push _ _ :: h => popped p h
  | .pop p' a :: h => if p' = p then popped p h ++ [a] else popped p h

def pops : List (Op P α) → List (P × α)
  | [] => []
  | .push _ _ :: h => pops h
  | .pop p a :: h => pops h ++ [(p, a)]

def Orderly (outranks : P → P → Prop) : List (Op P α) → Prop :=
  Always fun op h => ∀ p a, op = .pop p a →
    (∃ rest, lane p h = a :: rest) ∧ ∀ p', outranks p' p → lane p' h = []

theorem orderly_push {outranks : P → P → Prop} {p : P} {a : α} {h : List (Op P α)}
    (ho : Orderly outranks h) : Orderly outranks (.push p a :: h) := ⟨by simp, ho⟩

theorem orderly_pop {outranks : P → P → Prop} {p : P} {a : α} {rest : List α} {h : List (Op P α)}
    (ho : Orderly outranks h) (hl : lane p h = a :: rest)
    (hlow : ∀ p', outranks p' p → lane p' h = []) :
    Orderly outranks (.pop p a :: h) := by
  refine ⟨?_, ho⟩
  intro p' a' he
  obtain ⟨rfl, rfl⟩ := Op.pop.inj he
  exact ⟨⟨rest, hl⟩, hlow⟩

/-- First in, first out in every lane: what was popped and what is still in the
lane are together exactly what was pushed, in order. -/
theorem pushed_eq {outranks : P → P → Prop} {h : List (Op P α)} (ho : Orderly outranks h) (p : P) :
    pushed p h = popped p h ++ lane p h := by
  induction h with
  | nil => rfl
  | cons op h ih =>
    have hh := ih ho.2
    cases op with
    | push p' a =>
      by_cases hp : p' = p
      · simp [pushed, popped, lane, hp, hh]
      · simp [pushed, popped, lane, hp, hh]
    | pop p' a =>
      obtain ⟨⟨rest, hl⟩, -⟩ := ho.1 p' a rfl
      by_cases hp : p' = p
      · subst hp
        simp [pushed, popped, lane, hh, hl]
      · simp [pushed, popped, lane, hp, hh]

/-- When an entry is popped, all that was pushed to the lanes over it is gone. -/
theorem popped_outranks {outranks : P → P → Prop} {h : List (Op P α)} (ho : Orderly outranks h) :
    Always (fun op h => ∀ p a, op = .pop p a → ∀ p', outranks p' p →
      pushed p' h = popped p' h) h := by
  induction h with
  | nil => trivial
  | cons op h ih =>
    refine ⟨?_, ih ho.2⟩
    intro p a hop p' hlow
    have hl := (ho.1 p a hop).2 p' hlow
    have he := pushed_eq ho.2 p'
    rwa [hl, List.append_nil] at he

end DeviceManager.Lanes
