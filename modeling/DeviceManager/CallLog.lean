import DeviceManager.Fallible

namespace DeviceManager.CallLog

open Fallible

variable {A R ε α β γ : Type}

/-- The outside answers a call by all that has been called, the newest call first. -/
abbrev Answers (A R ε : Type) : Type := List A → Except ε R

def call (answers : Answers A R ε) (a : A) : EStateM ε (List A) R := fun log =>
  match answers (a :: log) with
  | .ok r => .ok r (a :: log)
  | .error e => .error e (a :: log)

def note (a : A) : EStateM ε (List A) Unit := modify (a :: ·)

def reword (words : ε → ε) (m : EStateM ε (List A) α) : EStateM ε (List A) α := fun log =>
  match m log with
  | .ok a log => .ok a log
  | .error e log => .error (words e) log

theorem exit_call (answers : Answers A R ε) (a : A) (log : List A) :
    exit (call answers a) log = (a :: log, answers (a :: log)) := by
  unfold exit call
  cases answers (a :: log) <;> rfl

theorem exit_note (a : A) (log : List A) :
    exit (note a : EStateM ε (List A) Unit) log = (a :: log, .ok ()) := rfl

theorem exit_reword (words : ε → ε) (m : EStateM ε (List A) α) (log : List A) :
    exit (reword words m) log =
      ((exit m log).1, match (exit m log).2 with
        | .ok a => .ok a
        | .error e => .error (words e)) := by
  unfold exit reword
  cases m log <;> rfl

theorem bind_returns {m : EStateM ε (List A) α} {f : α → EStateM ε (List A) β}
    {log log' : List A} {b : β} (h : exit (m >>= f) log = (log', .ok b)) :
    ∃ a mid, exit m log = (mid, .ok a) ∧ exit (f a) mid = (log', .ok b) := by
  rw [exit_bind] at h
  cases hend : (exit m log).2 with
  | ok a =>
    rw [hend] at h
    exact ⟨a, (exit m log).1, Prod.ext rfl hend, h⟩
  | error e =>
    rw [hend] at h
    cases h

theorem reword_returns {words : ε → ε} {m : EStateM ε (List A) α} {log log' : List A} {a : α}
    (h : exit (reword words m) log = (log', .ok a)) : exit m log = (log', .ok a) := by
  rw [exit_reword, Prod.mk.injEq] at h
  obtain ⟨rfl, hok⟩ := h
  cases hend : (exit m log).2 with
  | ok b =>
    rw [hend] at hok
    cases hok
    exact Prod.ext rfl hend
  | error e =>
    rw [hend] at hok
    cases hok

theorem call_returns {answers : Answers A R ε} {a : A} {log log' : List A} {r : R}
    (h : exit (call answers a) log = (log', .ok r)) :
    log' = a :: log ∧ answers (a :: log) = .ok r := by
  rw [exit_call, Prod.mk.injEq] at h
  exact ⟨h.1.symm, h.2⟩

/-- What every turn of a loop keeps. -/
theorem foldlM_range_returns {f : α → Nat → EStateM ε (List A) α} {a b : α} {n : Nat}
    {log log' : List A} (I : Nat → α → List A → Prop) (hfirst : I 0 a log)
    (hturn : ∀ k < n, ∀ a a' log log', I k a log → exit (f a k) log = (log', .ok a') →
      I (k + 1) a' log')
    (h : exit ((List.range n).foldlM f a) log = (log', .ok b)) : I n b log' := by
  induction n generalizing b log' with
  | zero =>
    cases h
    exact hfirst
  | succ n ih =>
    rw [List.range_succ, List.foldlM_append] at h
    obtain ⟨c, mid, hbefore, hlast⟩ := bind_returns h
    rw [List.foldlM_cons] at hlast
    obtain ⟨d, turned, hturned, hend⟩ := bind_returns hlast
    cases hend
    exact hturn n (Nat.lt_succ_self n) c _ mid _
      (ih (fun k hk => hturn k (Nat.lt_succ_of_lt hk)) hbefore) hturned

section Runs

variable (answers : Answers A R ε) (counts : A → Bool) (P : A → Prop)

def Smooth (log : List A) : List A → Prop
  | [] => True
  | a :: new => Smooth log new ∧ (counts a = true → returns (answers (a :: (new ++ log))) = true)

theorem smooth_append (log first second : List A) :
    Smooth answers counts log (second ++ first) ↔
      Smooth answers counts log first ∧ Smooth answers counts (first ++ log) second := by
  induction second with
  | nil => simp [Smooth]
  | cons a second ih =>
    rw [List.cons_append, Smooth, Smooth, ih, List.append_assoc, and_assoc]

/-- A computation that does nothing but what `P` says and ends with the first call that fails. -/
def Runs (m : EStateM ε (List A) α) : Prop := ∀ log, ∃ new, (exit m log).1 = new ++ log ∧
  (∀ a ∈ new, P a) ∧ (returns (exit m log).2 = true ↔ Smooth answers counts log new)

variable {answers counts P}

theorem runs_pure (a : α) : Runs answers counts P (pure a) := fun log =>
  ⟨[], rfl, fun b hb => absurd hb List.not_mem_nil, by simp [Smooth]⟩

theorem runs_mono {Q : A → Prop} (hQ : ∀ a, P a → Q a) {m : EStateM ε (List A) α}
    (hm : Runs answers counts P m) : Runs answers counts Q m := fun log => by
  obtain ⟨new, hlog, hP, hok⟩ := hm log
  exact ⟨new, hlog, fun a ha => hQ a (hP a ha), hok⟩

theorem runs_note {a : A} (ha : P a) (hfree : counts a = false) :
    Runs answers counts P (note a) := fun log => by
  refine ⟨[a], rfl, ?_, ?_⟩
  · intro b hb
    rwa [List.mem_singleton.mp hb]
  · rw [exit_note]
    simp [Smooth, hfree]

theorem runs_call {a : A} (ha : P a) (hcounts : counts a = true) :
    Runs answers counts P (call answers a) := fun log => by
  rw [exit_call]
  refine ⟨[a], rfl, ?_, ?_⟩
  · intro b hb
    rwa [List.mem_singleton.mp hb]
  · simp [Smooth, hcounts]

theorem runs_reword {m : EStateM ε (List A) α} (words : ε → ε) (hm : Runs answers counts P m) :
    Runs answers counts P (reword words m) := fun log => by
  obtain ⟨new, hlog, hP, hok⟩ := hm log
  rw [exit_reword]
  refine ⟨new, hlog, hP, ?_⟩
  rw [← hok]
  cases (exit m log).2 with
  | ok a => rfl
  | error e => rfl

theorem runs_bind {m : EStateM ε (List A) α} {f : α → EStateM ε (List A) β}
    (hm : Runs answers counts P m) (hf : ∀ a, Runs answers counts P (f a)) :
    Runs answers counts P (m >>= f) := fun log => by
  obtain ⟨first, hlog, hP, hok⟩ := hm log
  rw [exit_bind]
  cases hend : (exit m log).2 with
  | ok a =>
    obtain ⟨second, hlog', hP', hok'⟩ := hf a (exit m log).1
    rw [hlog] at hlog' hok' ⊢
    refine ⟨second ++ first, ?_, ?_, ?_⟩
    · rw [hlog', List.append_assoc]
    · intro b hb
      exact (List.mem_append.mp hb).elim (hP' b) (hP b)
    · rw [hend] at hok
      rw [hok', smooth_append]
      simp only [hok.mp rfl, true_and]
  | error e =>
    refine ⟨first, hlog, hP, ?_⟩
    rw [hend] at hok
    exact hok

theorem runs_forM {l : List γ} {f : γ → EStateM ε (List A) PUnit}
    (hf : ∀ c ∈ l, Runs answers counts P (f c)) : Runs answers counts P (forM l f) := by
  induction l with
  | nil => exact runs_pure ()
  | cons c l ih =>
    rw [List.forM_cons]
    exact runs_bind (hf c (List.mem_cons_self ..)) fun _ =>
      ih fun d hd => hf d (List.mem_cons_of_mem _ hd)

theorem runs_foldlM {l : List γ} {f : α → γ → EStateM ε (List A) α} (a : α)
    (hf : ∀ a, ∀ c ∈ l, Runs answers counts P (f a c)) :
    Runs answers counts P (l.foldlM f a) := by
  induction l generalizing a with
  | nil => exact runs_pure a
  | cons c l ih =>
    rw [List.foldlM_cons]
    exact runs_bind (hf a c (List.mem_cons_self ..)) fun _ =>
      ih _ fun b d hd => hf b d (List.mem_cons_of_mem _ hd)

theorem runs_exit {m : EStateM ε (List A) α} (hm : Runs answers counts P m) (log : List A) :
    ∃ new ending, exit m log = (new ++ log, ending) ∧ (∀ a ∈ new, P a) ∧
      (returns ending = true ↔ Smooth answers counts log new) := by
  obtain ⟨new, hlog, hP, hok⟩ := hm log
  exact ⟨new, (exit m log).2, Prod.ext hlog rfl, hP, hok⟩

theorem runs_returns {m : EStateM ε (List A) α} (hm : Runs answers counts P m)
    (hall : ∀ log, returns (answers log) = true) (log : List A) :
    ∃ log' a, exit m log = (log', .ok a) := by
  have hsmooth : ∀ new, Smooth answers counts log new := fun new => by
    induction new with
    | nil => trivial
    | cons a new ih => exact ⟨ih, fun _ => hall _⟩
  obtain ⟨new, ending, hexit, -, hok⟩ := runs_exit hm log
  cases ending with
  | ok a => exact ⟨new ++ log, a, hexit⟩
  | error e => exact absurd (hok.mpr (hsmooth new)) (by simp)

theorem runs_grows {m : EStateM ε (List A) α} (hm : Runs answers counts P m) (log : List A) :
    ∃ new, (exit m log).1 = new ++ log := by
  obtain ⟨new, hlog, -, -⟩ := hm log
  exact ⟨new, hlog⟩

end Runs

def StartsWith (a : A) (m : EStateM ε (List A) α) : Prop :=
  ∀ log, ∃ new, (exit m log).1 = new ++ log ∧ a ∈ new

theorem startsWith_call (answers : Answers A R ε) (a : A) : StartsWith a (call answers a) :=
  fun log => by
    rw [exit_call]
    exact ⟨[a], rfl, List.mem_singleton_self a⟩

theorem startsWith_reword {a : A} {m : EStateM ε (List A) α} (words : ε → ε)
    (hm : StartsWith a m) : StartsWith a (reword words m) := fun log => by
  rw [exit_reword]
  exact hm log

theorem startsWith_bind {a : A} {m : EStateM ε (List A) α} {f : α → EStateM ε (List A) β}
    (hm : StartsWith a m) (hf : ∀ b log, ∃ new, (exit (f b) log).1 = new ++ log) :
    StartsWith a (m >>= f) := fun log => by
  obtain ⟨first, hlog, ha⟩ := hm log
  rw [exit_bind]
  cases (exit m log).2 with
  | ok b =>
    obtain ⟨second, hlog'⟩ := hf b (exit m log).1
    rw [hlog] at hlog' ⊢
    refine ⟨second ++ first, ?_, List.mem_append_right _ ha⟩
    rw [List.append_assoc]
    exact hlog'
  | error e => exact ⟨first, hlog, ha⟩

theorem runs_exit_startsWith {answers : Answers A R ε} {counts : A → Bool} {P : A → Prop} {a : A}
    {m : EStateM ε (List A) α} (hm : Runs answers counts P m) (hstarts : StartsWith a m)
    (log : List A) : ∃ new ending, exit m log = (new ++ log, ending) ∧ (∀ a ∈ new, P a) ∧
      (returns ending = true ↔ Smooth answers counts log new) ∧ a ∈ new := by
  obtain ⟨new, ending, hexit, hP, hok⟩ := runs_exit hm log
  obtain ⟨new', hlog, ha⟩ := hstarts log
  rw [hexit] at hlog
  rw [← List.append_cancel_right hlog] at ha
  exact ⟨new, ending, hexit, hP, hok, ha⟩

end DeviceManager.CallLog
