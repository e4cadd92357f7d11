import Mathlib.Init

namespace DeviceManager.Fallible

variable {ε σ τ α β : Type}

/-- How a computation ends: what it has written stays written when something is thrown. -/
def exit (m : EStateM ε σ α) (s : σ) : σ × Except ε α :=
  match m s with
  | .ok a s => (s, .ok a)
  | .error e s => (s, .error e)

/-- A call that leaves the state alone. -/
def outside (reply : Except ε α) : EStateM ε σ α := fun s =>
  match reply with
  | .ok a => .ok a s
  | .error e => .error e s

/-- A computation on a part of the state, put back at its end and when it throws. -/
def within (put : τ → σ → σ) (m : EStateM ε τ α) (t : τ) : EStateM ε σ α := fun s =>
  match m t with
  | .ok a t => .ok a (put t s)
  | .error e t => .error e (put t s)

def returns : Except ε α → Bool
  | .ok _ => true
  | .error _ => false

@[simp] theorem returns_ok (a : α) : returns (.ok a : Except ε α) = true := rfl

@[simp] theorem returns_error (e : ε) : returns (.error e : Except ε α) = false := rfl

@[simp] theorem exit_pure (a : α) (s : σ) : exit (pure a : EStateM ε σ α) s = (s, .ok a) := rfl

@[simp] theorem exit_outside (reply : Except ε α) (s : σ) : exit (outside reply) s = (s, reply) := by
  cases reply <;> rfl

@[simp] theorem exit_get (f : σ → EStateM ε σ α) (s : σ) : exit (get >>= f) s = exit (f s) s := rfl

@[simp] theorem exit_modify (f : σ → σ) (m : Unit → EStateM ε σ α) (s : σ) :
    exit (modify f >>= m) s = exit (m ()) (f s) := rfl

theorem exit_bind (m : EStateM ε σ α) (f : α → EStateM ε σ β) (s : σ) :
    exit (m >>= f) s =
      match (exit m s).2 with
      | .ok a => exit (f a) (exit m s).1
      | .error e => ((exit m s).1, .error e) := by
  show exit (EStateM.bind m f) s = _
  unfold exit EStateM.bind
  cases m s <;> rfl

theorem exit_within (put : τ → σ → σ) (m : EStateM ε τ α) (t : τ) (s : σ) :
    exit (within put m t) s = (put (exit m t).1 s, (exit m t).2) := by
  unfold exit within
  cases m t <;> rfl

theorem bind_ok {action : Except ε α} {rest : α → Except ε β} {b : β}
    (h : action >>= rest = .ok b) : ∃ a, action = .ok a ∧ rest a = .ok b := by
  cases action with
  | error e => cases h
  | ok a => exact ⟨a, rfl, h⟩

end DeviceManager.Fallible
