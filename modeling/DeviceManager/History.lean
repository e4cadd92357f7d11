import Mathlib.Data.List.Basic

namespace DeviceManager.History

variable {ε : Type*}

/-- Histories are kept newest first. `Always P l` says that each event of `l`
stood in the relation `P` to the history before it. -/
def Always (P : ε → List ε → Prop) : List ε → Prop
  | [] => True
  | e :: h => P e h ∧ Always P h

@[simp] theorem always_nil (P : ε → List ε → Prop) : Always P [] := trivial

@[simp] theorem always_cons (P : ε → List ε → Prop) (e : ε) (h : List ε) :
    Always P (e :: h) ↔ P e h ∧ Always P h := Iff.rfl

theorem always_iff (P : ε → List ε → Prop) (l : List ε) :
    Always P l ↔ ∀ e h, e :: h <:+ l → P e h := by
  induction l with
  | nil => simp
  | cons a l ih =>
    constructor
    · rintro ⟨ha, hl⟩ e h hs
      obtain he | hs := List.suffix_cons_iff.mp hs
      · obtain ⟨rfl, rfl⟩ := List.cons.inj he
        exact ha
      · exact ih.mp hl e h hs
    · intro hall
      exact ⟨hall a l (List.suffix_refl _), ih.mpr fun e h hs =>
        hall e h (List.suffix_cons_iff.mpr (Or.inr hs))⟩

theorem Always.mono {P Q : ε → List ε → Prop} {l : List ε} (h : Always P l)
    (hpq : ∀ e h, P e h → Q e h) : Always Q l := by
  induction l with
  | nil => trivial
  | cons e l ih => exact ⟨hpq e l h.1, ih h.2⟩

end DeviceManager.History
