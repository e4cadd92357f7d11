import Mathlib.Data.List.Basic

namespace DeviceManager.Draining

variable {α β : Type*}

/-- One turn of a loop over the front of a buffer: what it emits and how many symbols it
takes away. The loop ends where there is no turn. -/
abbrev Turn (α β : Type*) := List α → Option (List β × Nat)

/-- The loop with a bound on its turns: nothing when the bound is too small. -/
def drain (turn : Turn α β) : Nat → List α → Option (List β × List α)
  | 0, _ => none
  | fuel + 1, buffer =>
    match turn buffer with
    | none => some ([], buffer)
    | some (out, n) => (drain turn fuel (buffer.drop n)).map fun r => (out ++ r.1, r.2)

/-- Every turn takes something, and more symbols behind it do not change it. -/
structure Stable (turn : Turn α β) : Prop where
  pos : ∀ {buffer out n}, turn buffer = some (out, n) → 0 < n
  le : ∀ {buffer out n}, turn buffer = some (out, n) → n ≤ buffer.length
  append : ∀ {buffer out n}, turn buffer = some (out, n) →
    ∀ more, turn (buffer ++ more) = some (out, n)

def Drains (turn : Turn α β) (buffer : List α) (out : List β) (rest : List α) : Prop :=
  ∃ fuel, drain turn fuel buffer = some (out, rest)

variable {turn : Turn α β}

theorem drain_stop {buffer : List α} (h : turn buffer = none) (fuel : Nat) :
    drain turn (fuel + 1) buffer = some ([], buffer) := by
  rw [drain, h]

theorem drain_turn {buffer : List α} {out : List β} {n : Nat} (h : turn buffer = some (out, n))
    (fuel : Nat) :
    drain turn (fuel + 1) buffer =
      (drain turn fuel (buffer.drop n)).map fun r => (out ++ r.1, r.2) := by
  rw [drain, h]

theorem Drains.stop {buffer : List α} (h : turn buffer = none) : Drains turn buffer [] buffer :=
  ⟨1, drain_stop h 0⟩

theorem Drains.next {buffer rest : List α} {out more : List β} {n : Nat}
    (h : turn buffer = some (out, n)) (hrest : Drains turn (buffer.drop n) more rest) :
    Drains turn buffer (out ++ more) rest := by
  obtain ⟨fuel, hfuel⟩ := hrest
  refine ⟨fuel + 1, ?_⟩
  rw [drain_turn h, hfuel]
  rfl

theorem Drains.cases {buffer rest : List α} {out : List β} (h : Drains turn buffer out rest) :
    (turn buffer = none ∧ out = [] ∧ rest = buffer) ∨
      ∃ first n more, turn buffer = some (first, n) ∧ out = first ++ more ∧
        Drains turn (buffer.drop n) more rest := by
  obtain ⟨fuel, hfuel⟩ := h
  cases fuel with
  | zero => cases hfuel
  | succ fuel =>
    cases hturn : turn buffer with
    | none =>
      rw [drain_stop hturn] at hfuel
      obtain ⟨rfl, rfl⟩ := Prod.mk.inj (Option.some.inj hfuel)
      exact Or.inl ⟨rfl, rfl, rfl⟩
    | some r =>
      obtain ⟨first, n⟩ := r
      rw [drain_turn hturn] at hfuel
      obtain ⟨⟨more, left⟩, hmore, he⟩ := Option.map_eq_some_iff.mp hfuel
      obtain ⟨rfl, rfl⟩ := Prod.mk.inj he
      exact Or.inr ⟨first, n, more, rfl, rfl, fuel, hmore⟩

theorem Drains.stopped {buffer rest : List α} {out : List β} (h : Drains turn buffer out rest) :
    turn rest = none := by
  obtain ⟨fuel, hfuel⟩ := h
  induction fuel generalizing buffer out with
  | zero => cases hfuel
  | succ fuel ih =>
    cases hturn : turn buffer with
    | none =>
      rw [drain_stop hturn] at hfuel
      obtain ⟨rfl, rfl⟩ := Prod.mk.inj (Option.some.inj hfuel)
      exact hturn
    | some r =>
      rw [drain_turn hturn] at hfuel
      obtain ⟨⟨more, left⟩, hmore, he⟩ := Option.map_eq_some_iff.mp hfuel
      obtain ⟨-, rfl⟩ := Prod.mk.inj he
      exact ih hmore

theorem Drains.forall_mem {P : β → Prop}
    (hturn : ∀ {buffer out n}, turn buffer = some (out, n) → ∀ b ∈ out, P b)
    {buffer rest : List α} {out : List β} (h : Drains turn buffer out rest) : ∀ b ∈ out, P b := by
  obtain ⟨fuel, hfuel⟩ := h
  induction fuel generalizing buffer out with
  | zero => cases hfuel
  | succ fuel ih =>
    cases ht : turn buffer with
    | none =>
      rw [drain_stop ht] at hfuel
      obtain ⟨rfl, rfl⟩ := Prod.mk.inj (Option.some.inj hfuel)
      exact fun b hb => by cases hb
    | some r =>
      rw [drain_turn ht] at hfuel
      obtain ⟨⟨more, left⟩, hmore, he⟩ := Option.map_eq_some_iff.mp hfuel
      obtain ⟨rfl, rfl⟩ := Prod.mk.inj he
      intro b hb
      obtain hb | hb := List.mem_append.mp hb
      · exact hturn ht b hb
      · exact ih hmore b hb

/-- The bound does not matter once it is large enough. -/
theorem drain_mono {fuel : Nat} {buffer : List α} {r : List β × List α}
    (h : drain turn fuel buffer = some r) : drain turn (fuel + 1) buffer = some r := by
  induction fuel generalizing buffer r with
  | zero => cases h
  | succ fuel ih =>
    cases hturn : turn buffer with
    | none => rwa [drain_stop hturn] at h ⊢
    | some first =>
      rw [drain_turn hturn] at h ⊢
      obtain ⟨more, hmore, he⟩ := Option.map_eq_some_iff.mp h
      exact Option.map_eq_some_iff.mpr ⟨more, ih hmore, he⟩

theorem drain_le {fuel bound : Nat} {buffer : List α} {r : List β × List α}
    (h : drain turn fuel buffer = some r) (hle : fuel ≤ bound) :
    drain turn bound buffer = some r := by
  induction hle with
  | refl => exact h
  | step _ ih => exact drain_mono ih

theorem Drains.unique {buffer rest rest' : List α} {out out' : List β}
    (h : Drains turn buffer out rest) (h' : Drains turn buffer out' rest') :
    out = out' ∧ rest = rest' := by
  obtain ⟨fuel, hfuel⟩ := h
  obtain ⟨bound, hbound⟩ := h'
  have hmax := drain_le hfuel (Nat.le_max_left fuel bound)
  rw [drain_le hbound (Nat.le_max_right fuel bound)] at hmax
  obtain ⟨ho, hr⟩ := Prod.mk.inj (Option.some.inj hmax)
  exact ⟨ho.symm, hr.symm⟩

namespace Stable

variable (hs : Stable turn)
include hs

theorem terminates {fuel : Nat} {buffer : List α} (h : buffer.length < fuel) :
    ∃ r, drain turn fuel buffer = some r := by
  induction fuel generalizing buffer with
  | zero => exact absurd h (Nat.not_lt_zero _)
  | succ fuel ih =>
    cases hturn : turn buffer with
    | none => exact ⟨_, drain_stop hturn fuel⟩
    | some first =>
      obtain ⟨out, n⟩ := first
      have hpos := hs.pos hturn
      have hle := hs.le hturn
      have hshort : (buffer.drop n).length < fuel := by
        rw [List.length_drop]
        omega
      obtain ⟨r, hr⟩ := ih hshort
      exact ⟨_, by rw [drain_turn hturn, hr, Option.map_some]⟩

/-- The loop with as many turns as symbols computes the relation. -/
theorem drain_iff {fuel : Nat} {buffer rest : List α} {out : List β} (h : buffer.length < fuel) :
    drain turn fuel buffer = some (out, rest) ↔ Drains turn buffer out rest := by
  constructor
  · exact fun hd => ⟨fuel, hd⟩
  · intro hd
    obtain ⟨⟨out', rest'⟩, hr⟩ := hs.terminates h
    obtain ⟨rfl, rfl⟩ := Drains.unique hd ⟨fuel, hr⟩
    exact hr

/-- What comes later is read behind what the loop has left. -/
theorem drains_append {buffer rest more last : List α} {out later : List β}
    (h : Drains turn buffer out rest) (hmore : Drains turn (rest ++ more) later last) :
    Drains turn (buffer ++ more) (out ++ later) last := by
  obtain ⟨fuel, hfuel⟩ := h
  induction fuel generalizing buffer out with
  | zero => cases hfuel
  | succ fuel ih =>
    cases hturn : turn buffer with
    | none =>
      rw [drain_stop hturn] at hfuel
      obtain ⟨rfl, rfl⟩ := Prod.mk.inj (Option.some.inj hfuel)
      exact hmore
    | some r =>
      obtain ⟨first, n⟩ := r
      rw [drain_turn hturn] at hfuel
      obtain ⟨⟨tail, left⟩, htail, he⟩ := Option.map_eq_some_iff.mp hfuel
      obtain ⟨rfl, rfl⟩ := Prod.mk.inj he
      have hrest := ih htail
      rw [← List.drop_append_of_le_length (hs.le hturn)] at hrest
      rw [List.append_assoc]
      exact Drains.next (hs.append hturn more) hrest

end Stable

end DeviceManager.Draining
