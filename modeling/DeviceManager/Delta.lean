import DeviceManager.Ledger
import DeviceManager.Log
import DeviceManager.QueueStep

namespace DeviceManager.Delta

open Domain WorkerThread Queue QueueStep Log Ledger

/-- The desired map after the patches of a history. -/
def desired (parameters : ParameterMap) : List Event → ParameterMap
  | [] => parameters
  | .patched patch _ :: h => insertOrAssign (desired parameters h) patch
  | _ :: h => desired parameters h

/-- The patches that owe a call of `parameter_transitions`, and the takes. A
lone `device.enable` only moves the gate. -/
def entries : List Event → List (Entry (ParameterMap × RequestPriority))
  | [] => []
  | .patched patch priority :: h =>
    if loneEnable patch then entries h else .give (patch, priority) :: entries h
  | .taken _ _ :: h => .take :: entries h
  | _ :: h => entries h

/-- The right-biased union of patches in acceptance order. -/
def delta (patches : List (ParameterMap × RequestPriority)) : ParameterMap :=
  (patches.map Prod.fst).foldl insertOrAssign ∅

def patches : List Event → Nat
  | [] => 0
  | .patched _ _ :: h => patches h + 1
  | _ :: h => patches h

/-- The `patch` arguments of the calls of `parameter_transitions`, in order. -/
def calls : List Event → List ParameterMap
  | [] => []
  | .planned _ _ patch _ :: h => calls h ++ [patch]
  | _ :: h => calls h

def beforeTake : List Event → Option (List Event)
  | [] => none
  | .taken _ _ :: h => some h
  | _ :: h => beforeTake h

def lastTake : List Event → Option (ParameterMap × ParameterMap)
  | [] => none
  | .taken parameters patch :: _ => some (parameters, patch)
  | _ :: h => lastTake h

theorem beforeTake_suffix {log older : List Event} (h : beforeTake log = some older) :
    older <:+ log := by
  induction log with
  | nil => cases h
  | cons event log ih =>
    cases event with
    | taken m p => exact Option.some.inj h ▸ List.suffix_cons _ _
    | _ => exact (ih h).trans (List.suffix_cons _ _)

theorem delta_snoc (given : List (ParameterMap × RequestPriority)) (patch : ParameterMap)
    (priority : RequestPriority) :
    delta (given ++ [(patch, priority)]) = insertOrAssign (delta given) patch := by
  simp [delta]

theorem mem_delta (given : List (ParameterMap × RequestPriority)) (key : String) :
    key ∈ delta given ↔ ∃ entry ∈ given, key ∈ entry.1 := by
  induction given using List.reverseRecOn with
  | nil => simpa [delta] using Finmap.notMem_empty
  | append_singleton given entry ih =>
    obtain ⟨patch, priority⟩ := entry
    rw [delta_snoc, mem_insertOrAssign, ih]
    constructor
    · rintro (hp | ⟨e, he, hk⟩)
      · exact ⟨(patch, priority), by simp, hp⟩
      · exact ⟨e, by simp [he], hk⟩
    · rintro ⟨e, he, hk⟩
      obtain he | he := List.mem_append.mp he
      · exact Or.inr ⟨e, he, hk⟩
      · rw [List.mem_singleton.mp he] at hk
        exact Or.inl hk

/-- A read changes none of the accounts of a history. -/
theorem accounts_read {event : Event} (h : event.isRead = true) (older : List Event)
    (parameters : ParameterMap) :
    entries (event :: older) = entries older ∧ patches (event :: older) = patches older ∧
      calls (event :: older) = calls older ∧
      desired parameters (event :: older) = desired parameters older ∧
      lastTake (event :: older) = lastTake older := by
  cases event with
  | planRead | sourceRead | targetRead | safeRead | finalRead => exact ⟨rfl, rfl, rfl, rfl, rfl⟩
  | _ => cases h

def held : Worker → Option (UInt64 × ParameterMap)
  | .examining revision patch => some (revision, patch)
  | _ => none

def chosen : Worker → Option (ParameterMap × ParameterMap)
  | .planning parameters patch | .transitions _ parameters patch => some (parameters, patch)
  | _ => none

theorem held_resume (ret : Return) (ok : Bool) :
    held (ret.resume ok) = none ∧ chosen (ret.resume ok) = none :=
  resume_elim (P := fun worker => held worker = none ∧ chosen worker = none) ret ok ⟨rfl, rfl⟩
    ⟨rfl, rfl⟩ fun _ _ _ _ => ⟨rfl, rfl⟩

theorem chosen_enter (batch : RequestBatch) : chosen (enter batch) = none :=
  enter_elim (P := fun worker => chosen worker = none) batch (fun _ _ => rfl)
    fun _ => (held_resume _ _).2

theorem held_afterOutcome (request : TransitionRequest) (ret : Return)
    (reply : Reply TransitionOutcome) :
    held (afterOutcome request ret reply) = none ∧
      chosen (afterOutcome request ret reply) = none := by
  cases reply <;> exact ⟨rfl, rfl⟩

theorem held_afterPlan (state : LifecycleState) (parameters patch : ParameterMap)
    (reply : Reply (List TransitionRequest)) :
    held (afterPlan state parameters patch reply) = none ∧
      chosen (afterPlan state parameters patch reply) = none := by
  cases reply with
  | ok requests => exact held_resume _ _
  | error thrown => exact ⟨rfl, rfl⟩

theorem held_reads {worker : Worker} {event : Reply LifecycleState → Event}
    (h : worker.reads = some event) (reply : Reply LifecycleState) :
    held worker = none ∧ held (worker.afterState reply) = none := by
  cases worker with
  | reading request ret =>
    obtain he | ⟨record, -, -, he⟩ := reading_next request ret reply <;> rw [he] <;>
      exact ⟨rfl, rfl⟩
  | finalizing =>
    obtain he | ⟨state, he⟩ := finalizing_next reply <;> rw [he] <;> exact ⟨rfl, rfl⟩
  | _ => cases reply <;> first | exact ⟨rfl, rfl⟩ | cases h

theorem chosen_reads {worker : Worker} {event : Reply LifecycleState → Event}
    (h : worker.reads = some event) (reply : Reply LifecycleState) :
    chosen (worker.afterState reply) = chosen worker ∨
      (∃ m p thrown, worker = .planning m p ∧ reply = .error thrown) ∧
        chosen (worker.afterState reply) = none := by
  cases worker with
  | reading request ret =>
    obtain he | ⟨record, -, -, he⟩ := reading_next request ret reply <;> rw [he] <;>
      exact Or.inl rfl
  | finalizing =>
    obtain he | ⟨state, he⟩ := finalizing_next reply <;> rw [he] <;> exact Or.inl rfl
  | planning parameters patch =>
    cases reply with
    | ok state => exact Or.inl rfl
    | error thrown => exact Or.inr ⟨⟨parameters, patch, thrown, rfl, rfl⟩, rfl⟩
  | _ => cases reply <;> first | exact Or.inl rfl | cases h

end DeviceManager.Delta
