import DeviceManager.Fallible
import DeviceManager.ReliableRuntime
import DeviceManager.RuntimeBase

namespace DeviceManager.InProcess

open Domain Transition Fallible RuntimeBase
open ReliableRuntime (stable)

/-- `{TransitionResult::kSuccess, {}}`. -/
def done : TransitionOutcome := ⟨.success, ""⟩

def alreadyMaterialized : TransitionOutcome := ⟨.failure, "runtime is already materialized"⟩

def notMaterialized : TransitionOutcome := ⟨.failure, "runtime is not materialized"⟩

def sourceMismatch : TransitionOutcome := ⟨.failure, "source state does not match"⟩

/-- The event of `emit_error_event` where a configure could not connect. -/
def connectFailed (source code message : String) : DeviceEvent :=
  ⟨.error, code, message, source, .unconfigured, ∅⟩

def target : Operation → LifecycleState
  | .materialize _ | .cleanup _ => .unconfigured
  | .configure _ | .deactivate => .inactive
  | .activate => .active
  | .dematerialize => .finalized

def isConfigure : Operation → Bool
  | .configure _ => true
  | _ => false

def succeeded : Reply TransitionOutcome → Bool
  | .ok outcome => decide (outcome.result = .success)
  | .error _ => false

/-- No operation ends in a transitional state; a success has reached its target, and a
configure that returns anything else or throws is back where it began. -/
def Unwedged (operation : Operation) (before after : LifecycleState)
    (reply : Reply TransitionOutcome) : Prop :=
  stable after = true ∧ (succeeded reply = true → after = target operation) ∧
    (isConfigure operation = true → succeeded reply = false → after = before)

theorem stable_target (operation : Operation) : stable (target operation) = true := by
  cases operation <;> rfl

theorem unwedged_refused (operation : Operation) {state : LifecycleState}
    {outcome : TransitionOutcome} (hs : stable state = true) (ho : outcome.result ≠ .success) :
    Unwedged operation state state (.ok outcome) := by
  refine ⟨hs, fun h => ?_, fun _ _ => rfl⟩
  exact (ho (of_decide_eq_true h)).elim

theorem unwedged_done (operation : Operation) (before : LifecycleState) :
    Unwedged operation before (target operation) (.ok done) :=
  ⟨stable_target operation, fun _ => rfl, fun _ h => by cases h⟩

theorem not_unwedged {operation : Operation} {before after : LifecycleState}
    {reply : Reply TransitionOutcome} (h : stable after = false) :
    ¬ Unwedged operation before after reply := by
  rintro ⟨hs, -⟩
  rw [h] at hs
  cases hs

theorem unwedged_thrown {operation : Operation} (before : LifecycleState) {after : LifecycleState}
    (hs : stable after = true) (hc : isConfigure operation = false) (thrown : Thrown) :
    Unwedged operation before after (.error thrown) := by
  refine ⟨hs, fun h => (by cases h), fun h => ?_⟩
  rw [hc] at h
  cases h

/-- An in-process runtime. In one request, `Outside` is what the calls answer or throw that
leave the runtime. -/
structure Model where
  State : Type
  Outside : Type
  initial : State
  state : State → LifecycleState
  perform : Outside → Operation → EStateM Thrown State TransitionOutcome

/-- `DeviceRuntimeBase::request_transition`. -/
def Model.requestTransition (m : Model) (outside : m.Outside) (request : TransitionRequest) :
    EStateM Thrown m.State TransitionOutcome :=
  match RuntimeBase.requestTransition request with
  | some operation => m.perform outside operation
  | none => pure unsupportedTransition

def Model.next (m : Model) (s : m.State) (action : TransitionRequest × m.Outside) :
    Option m.State := some (exit (m.requestTransition action.2 action.1) s).1

/-- `Unwedged` for a request. -/
def Model.Settles (m : Model) (s : m.State) (action : TransitionRequest × m.Outside) : Prop :=
  let (t, reply) := exit (m.requestTransition action.2 action.1) s
  stable (m.state t) = true ∧ (succeeded reply = true → m.state t = action.1.targetState) ∧
    (action.1.fromState = .unconfigured → action.1.targetState = .inactive →
      succeeded reply = false → m.state t = m.state s)

theorem requestTransition_target {request : TransitionRequest} {operation : Operation}
    (h : RuntimeBase.requestTransition request = some operation) :
    target operation = request.targetState ∧ (isConfigure operation = true ↔
      request.fromState = .unconfigured ∧ request.targetState = .inactive) := by
  unfold RuntimeBase.requestTransition at h
  split at h <;> cases h <;> simp [*, target, isConfigure]

/-- The condition on an operation, for a request. -/
def Model.calmly (m : Model) (calm : m.Outside → Operation → m.State → Bool) (s : m.State)
    (action : TransitionRequest × m.Outside) : Bool :=
  match RuntimeBase.requestTransition action.1 with
  | some operation => calm action.2 operation s
  | none => true

theorem settles_iff {m : Model} {calm : m.Outside → Operation → m.State → Bool}
    (h : ∀ outside operation s, stable (m.state s) = true →
      (Unwedged operation (m.state s) (m.state (exit (m.perform outside operation) s).1)
        (exit (m.perform outside operation) s).2 ↔ calm outside operation s = true))
    {s : m.State} (hs : stable (m.state s) = true) (action : TransitionRequest × m.Outside) :
    m.Settles s action ↔ m.calmly calm s action = true := by
  unfold Model.Settles Model.calmly Model.requestTransition
  cases ho : RuntimeBase.requestTransition action.1 with
  | none =>
    refine iff_of_true ⟨hs, ?_, fun _ _ _ => rfl⟩ rfl
    exact fun hf => by cases hf
  | some operation =>
    obtain ⟨htarget, hconfigure⟩ := requestTransition_target ho
    rw [← h action.2 operation s hs]
    unfold Unwedged
    rw [htarget, hconfigure, and_imp]

/-- In a run whose requests are all calm the runtime is never left in a transitional state. -/
theorem stable_run {m : Model} {calm : m.Outside → Operation → m.State → Bool}
    (h : ∀ outside operation s, stable (m.state s) = true →
      (Unwedged operation (m.state s) (m.state (exit (m.perform outside operation) s).1)
        (exit (m.perform outside operation) s).2 ↔ calm outside operation s = true))
    (hinitial : stable (m.state m.initial) = true) {s : m.State}
    (hrun : Runs m.next (fun s action => m.calmly calm s action = true) m.initial s) :
    stable (m.state s) = true := by
  refine Runs.invariant (I := fun s => stable (m.state s) = true) hrun hinitial ?_
  intro u action t hu hcalm hn
  obtain rfl := Option.some.inj hn
  exact ((settles_iff h hu action).mpr hcalm).1

end DeviceManager.InProcess
