import DeviceManager.RuntimeHooks

namespace DeviceManager.Disabled

open Domain Hook RuntimeHooks

/-- FINALIZED < UNCONFIGURED < INACTIVE < ACTIVE. -/
def rank : LifecycleState → Option Nat
  | .finalized => some 0
  | .unconfigured => some 1
  | .inactive => some 2
  | .active => some 3
  | _ => none

def higher (source target : LifecycleState) : Bool :=
  match rank source, rank target with
  | some s, some t => decide (s < t)
  | _, _ => false

/-- The request leaves FINALIZED, or its target is higher than its source. -/
def climbs (request : TransitionRequest) : Bool :=
  decide (request.fromState = .finalized) || higher request.fromState request.targetState

/-- `transitions_to` has a path up. From FINALIZED it only knows the first step. -/
def pathUp (source target : LifecycleState) : Bool :=
  match source with
  | .finalized => decide (target = .unconfigured)
  | _ => higher source target

/-- The event lies above the state, and no earlier call has made it handled. -/
def PendingUp (history : List HookContext) (context : HookContext) : Prop :=
  ∃ event, RosAdapter.process.watched context = some event ∧
    pathUp context.state event.targetState = true ∧
    ∀ earlier ∈ history, RosAdapter.process.closes earlier →
      ¬ context.latestEventRevision ≤ earlier.latestEventRevision

theorem any_climbs_path (source target : LifecycleState) (parameters : ParameterMap) :
    (processPath source target parameters).any climbs = pathUp source target := by
  cases source <;> cases target <;> rfl

theorem any_climbs_startup {context : HookContext} (hd : context.enabled = false) :
    (processStartup context).any climbs = false := by
  by_cases hs : context.state = .finalized
  · simp [processStartup, hd, hs]
  · have hdown : processStartup context =
        processPath context.state .finalized context.parameters := by
      simp [processStartup, hd, hs]
    rw [hdown, any_climbs_path]
    cases context.state <;> rfl

theorem pathUp_ne {source target : LifecycleState} (h : pathUp source target = true) :
    source ≠ target := by
  rintro rfl
  cases source <;> cases h

theorem any_climbs_process (history : List HookContext) {context : HookContext}
    (hd : context.enabled = false) :
    (RosAdapter.process.registerHook.returns history context).any climbs = true ↔
      PendingUp history context := by
  have hstart := any_climbs_startup hd
  have hseen := alreadyHandled_after .process history context.latestEventRevision
  rw [returns_eq]
  cases hook_cases .process (RosAdapter.process.after history) context with
  | unwatched hw he =>
    rw [he, RosAdapter.startup, hstart]
    simp [PendingUp, hw]
  | handled hh he =>
    rw [he, RosAdapter.startup, hstart]
    obtain ⟨earlier, hm, hc, hle⟩ := hseen.mp hh
    simp only [Bool.false_eq_true, false_iff]
    rintro ⟨event, -, -, hnone⟩
    exact hnone earlier hm hc hle
  | closes hh hc he =>
    rw [he, RosAdapter.startup, hstart]
    simp only [Bool.false_eq_true, false_iff]
    rintro ⟨event, hw, hup, -⟩
    obtain ⟨event', hw', hc⟩ := hc
    obtain rfl := Option.some.inj (hw.symm.trans hw')
    obtain hs | hp := hc
    · exact pathUp_ne hup hs
    · have hany := any_climbs_path context.state event.targetState context.parameters
      rw [RosAdapter.path] at hp
      rw [hp, hup] at hany
      cases hany
  | pending event hw hh hc he =>
    have hopen : ∀ earlier ∈ history, RosAdapter.process.closes earlier →
        ¬ context.latestEventRevision ≤ earlier.latestEventRevision := by
      intro earlier hm hc hle
      rw [hseen.mpr ⟨earlier, hm, hc, hle⟩] at hh
      cases hh
    rw [he, RosAdapter.path, any_climbs_path]
    unfold PendingUp
    rw [hw]
    constructor
    · exact fun hup => ⟨event, rfl, hup, hopen⟩
    · rintro ⟨event', hw', hup, -⟩
      exact Option.some.inj hw' ▸ hup

theorem any_climbs_lifecycle (history : List HookContext) {context : HookContext}
    (hd : context.enabled = false) :
    (RosAdapter.lifecycle.registerHook.returns history context).any climbs = false := by
  have hnil : (lifecycleHook (RosAdapter.lifecycle.after history) context).2 = [] := by
    simp [lifecycleHook, hd]
  rw [returns_eq, RosAdapter.hook, hnil]
  rfl

theorem any_climbs_inProcess (runtime : InProcessRuntime) (history : List HookContext)
    {context : HookContext} (hd : context.enabled = false) :
    ((inProcessHook runtime).returns history context).any climbs = false := by
  have hdown : ((inProcessHook runtime).returns history context) =
      runtime.recoveryRequests context.state .finalized := by
    simp [StatefulHook.returns, inProcessHook, InProcessRuntime.hook, hookWith, hd]
  rw [hdown]
  cases runtime <;> cases context.state <;> rfl

/-- A call with the gate closed asks for no step up, except the process hook with
an event pending above the state. -/
theorem disabled_descends (runtime : ShippedRuntime) (history : List HookContext)
    (context : HookContext) (hd : context.enabled = false) :
    (∀ request ∈ runtime.registerHook.returns history context, climbs request = false) ↔
      ¬ (runtime = .ros2 .process ∧ PendingUp history context) := by
  have hall : ∀ requests : List TransitionRequest,
      (∀ request ∈ requests, climbs request = false) ↔ requests.any climbs = false := by
    simp
  rw [hall]
  cases runtime with
  | inProcess runtime => simp [ShippedRuntime.registerHook, any_climbs_inProcess runtime history hd]
  | ros2 adapter =>
    cases adapter with
    | lifecycle => simp [ShippedRuntime.registerHook, any_climbs_lifecycle history hd]
    | process =>
      rw [ShippedRuntime.registerHook, ← Bool.not_eq_true, any_climbs_process history hd]
      simp

def reconnected (state : LifecycleState) (enabled : Bool) : HookContext :=
  ⟨state, enabled, ∅, some ⟨.error, "driver.disconnected", "", "driver", .active, ∅⟩, 1⟩

theorem disabled_descends_closed :
    (reconnected .unconfigured false).enabled = false ∧
    ∀ request ∈ (ShippedRuntime.ros2 .process).registerHook.returns
      [reconnected .active true] (reconnected .unconfigured false), climbs request = false := by
  refine ⟨rfl, (disabled_descends (.ros2 .process) [reconnected .active true]
    (reconnected .unconfigured false) rfl).mpr ?_⟩
  rintro ⟨-, event, hw, -, hnone⟩
  exact hnone _ (List.mem_singleton_self _) ⟨_, rfl, Or.inl rfl⟩ (by decide)

/-- Without the earlier call the disabled device is configured and activated. -/
theorem disabled_climbs :
    (reconnected .unconfigured false).enabled = false ∧
    (ShippedRuntime.ros2 .process).registerHook.returns [] (reconnected .unconfigured false) =
      [⟨.unconfigured, .inactive, ∅⟩, ⟨.inactive, .active, ∅⟩] ∧
    climbs ⟨.unconfigured, .inactive, ∅⟩ = true ∧ climbs ⟨.inactive, .active, ∅⟩ = true :=
  ⟨rfl, rfl, rfl, rfl⟩

end DeviceManager.Disabled
