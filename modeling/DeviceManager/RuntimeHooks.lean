import DeviceManager.ReliableRuntime

namespace DeviceManager.RuntimeHooks

open Domain Hook ReliableRuntime

/-- `detail::transitions_to`. -/
def transitionsTo (source target : LifecycleState)
    (parameters cleanupParameters : ParameterMap) : List TransitionRequest :=
  match source, target with
  | .finalized, .unconfigured => [⟨.finalized, .unconfigured, parameters⟩]
  | .unconfigured, .finalized => [⟨.unconfigured, .finalized, ∅⟩]
  | .inactive, .finalized => [⟨.inactive, .finalized, ∅⟩]
  | .active, .finalized => [⟨.active, .finalized, ∅⟩]
  | .unconfigured, .inactive => [⟨.unconfigured, .inactive, parameters⟩]
  | .unconfigured, .active => [⟨.unconfigured, .inactive, parameters⟩, ⟨.inactive, .active, ∅⟩]
  | .inactive, .unconfigured => [⟨.inactive, .unconfigured, cleanupParameters⟩]
  | .inactive, .active => [⟨.inactive, .active, ∅⟩]
  | .active, .inactive => [⟨.active, .inactive, ∅⟩]
  | .active, .unconfigured =>
    [⟨.active, .inactive, ∅⟩, ⟨.inactive, .unconfigured, cleanupParameters⟩]
  | _, _ => []

/-- The local copy of the lifecycle adapter. It never materializes. -/
def lifecycleTransitionsTo (source target : LifecycleState) (parameters : ParameterMap) :
    List TransitionRequest :=
  match source, target with
  | .unconfigured, .finalized => [⟨.unconfigured, .finalized, ∅⟩]
  | .inactive, .finalized => [⟨.inactive, .finalized, ∅⟩]
  | .active, .finalized => [⟨.active, .finalized, ∅⟩]
  | .unconfigured, .inactive => [⟨.unconfigured, .inactive, parameters⟩]
  | .unconfigured, .active => [⟨.unconfigured, .inactive, parameters⟩, ⟨.inactive, .active, ∅⟩]
  | .inactive, .unconfigured => [⟨.inactive, .unconfigured, ∅⟩]
  | .inactive, .active => [⟨.inactive, .active, ∅⟩]
  | .active, .inactive => [⟨.active, .inactive, ∅⟩]
  | .active, .unconfigured => [⟨.active, .inactive, ∅⟩, ⟨.inactive, .unconfigured, ∅⟩]
  | _, _ => []

/-- `RecoveryHookState`: its optional `handled_event_revision`. -/
abbrev RecoveryHookState := Option UInt64

/-- The local `already_handled`. -/
def alreadyHandled (handled : RecoveryHookState) (revision : UInt64) : Bool :=
  match handled with
  | some value => decide (revision ≤ value)
  | none => false

/-- The lines under the mutex that both adapters have: the path of an event that
is not handled is returned while there is one, else the event becomes handled. -/
def recover (handled : RecoveryHookState) (revision : UInt64) (targetReached : Bool)
    (requests : List TransitionRequest) : RecoveryHookState × Option (List TransitionRequest) :=
  if !alreadyHandled handled revision && !targetReached && !requests.isEmpty then
    (handled, some requests)
  else (if alreadyHandled handled revision then handled else some revision, none)

/-- What one of the two adapters does with a context whose event it looks at. -/
def recoverFrom (path : LifecycleState → LifecycleState → ParameterMap → List TransitionRequest)
    (handled : RecoveryHookState) (context : HookContext) (event : DeviceEvent) :
    RecoveryHookState × Option (List TransitionRequest) :=
  recover handled context.latestEventRevision (decide (context.state = event.targetState))
    (path context.state event.targetState context.parameters)

/-- The end of a hook: the recovery path, or what it returns without an event. -/
def orElse (recovery : RecoveryHookState × Option (List TransitionRequest))
    (otherwise : List TransitionRequest) : RecoveryHookState × List TransitionRequest :=
  (recovery.1, recovery.2.getD otherwise)

/-- `transitions_to` as the process adapter calls it. -/
def processPath (source target : LifecycleState) (parameters : ParameterMap) :
    List TransitionRequest := transitionsTo source target parameters ∅

def automaticTarget (state : LifecycleState) : LifecycleState :=
  if state = .unconfigured then .inactive else .active

/-- The process hook behind its event branch. -/
def processStartup (context : HookContext) : List TransitionRequest :=
  if context.state = .finalized then
    if !context.enabled then [] else processPath context.state .unconfigured context.parameters
  else if !context.enabled then processPath context.state .finalized context.parameters
  else processPath context.state (automaticTarget context.state) context.parameters

/-- The hook of `Ros2ProcessDeviceRuntimeAdapter`. -/
def processHook (handled : RecoveryHookState) (context : HookContext) :
    RecoveryHookState × List TransitionRequest :=
  match context.latestEvent with
  | some event =>
    if context.latestEventRevision ≠ 0 then
      orElse (recoverFrom processPath handled context event) (processStartup context)
    else (handled, processStartup context)
  | none => (handled, processStartup context)

def lifecycleStartup (context : HookContext) : List TransitionRequest :=
  lifecycleTransitionsTo context.state (automaticTarget context.state) context.parameters

/-- The hook of `Ros2LifecycleDriverAdapter`. -/
def lifecycleHook (handled : RecoveryHookState) (context : HookContext) :
    RecoveryHookState × List TransitionRequest :=
  if !context.enabled then (handled, [])
  else
    match context.latestEvent with
    | some event =>
      if eventNeedsRecovery event then
        orElse (recoverFrom lifecycleTransitionsTo handled context event) (lifecycleStartup context)
      else (handled, lifecycleStartup context)
    | none => (handled, lifecycleStartup context)

structure StatefulHook where
  Memory : Type
  initial : Memory
  call : Memory → HookContext → Memory × List TransitionRequest

def StatefulHook.after (h : StatefulHook) (history : List HookContext) : h.Memory :=
  history.foldl (fun memory context => (h.call memory context).1) h.initial

/-- What a call with this context returns after this history. -/
def StatefulHook.returns (h : StatefulHook) (history : List HookContext) (context : HookContext) :
    List TransitionRequest := (h.call (h.after history) context).2

/-- The hook of the in-process runtimes, with the `recovery_requests` of its file. -/
def hookWith (recovery : LifecycleState → LifecycleState → List TransitionRequest)
    (handledEventRevision : UInt64) (context : HookContext) : UInt64 × List TransitionRequest :=
  if !context.enabled then (handledEventRevision, recovery context.state .finalized)
  else
    match context.state, context.latestEvent with
    | .finalized, _ =>
      (handledEventRevision, [⟨.finalized, .unconfigured, context.parameters⟩])
    | .unconfigured, _ =>
      (handledEventRevision, [⟨.unconfigured, .inactive, context.parameters⟩])
    | .inactive, _ => (handledEventRevision, [⟨.inactive, .active, ∅⟩])
    | .active, some event =>
      if !eventNeedsRecovery event ∨ context.latestEventRevision ≤ handledEventRevision then
        (handledEventRevision, [])
      else (context.latestEventRevision, recovery .active event.targetState)
    | _, _ => (handledEventRevision, [])

theorem standardHook_eq : standardHook = hookWith recoveryRequests := rfl

/-- The `recovery_requests` of the GMSL camera has no path from ACTIVE to INACTIVE. -/
def gmslRecoveryRequests (source target : LifecycleState) : List TransitionRequest :=
  match target, source with
  | .finalized, .active =>
    [⟨.active, .inactive, ∅⟩, ⟨.inactive, .unconfigured, ∅⟩, ⟨.unconfigured, .finalized, ∅⟩]
  | .finalized, .inactive => [⟨.inactive, .unconfigured, ∅⟩, ⟨.unconfigured, .finalized, ∅⟩]
  | .finalized, .unconfigured => [⟨.unconfigured, .finalized, ∅⟩]
  | .unconfigured, .active => [⟨.active, .inactive, ∅⟩, ⟨.inactive, .unconfigured, ∅⟩]
  | .unconfigured, .inactive => [⟨.inactive, .unconfigured, ∅⟩]
  | _, _ => []

theorem gmslRecoveryRequests_eq (source target : LifecycleState) :
    gmslRecoveryRequests source target =
      if source = .active ∧ target = .inactive then [] else recoveryRequests source target := by
  cases source <;> cases target <;> rfl

inductive InProcessRuntime where
  | twsBattery | ch020Imu | smitLidar | pager100Lora | oradarLidar | gmslV4l2Camera
  deriving DecidableEq

def InProcessRuntime.recoveryRequests :
    InProcessRuntime → LifecycleState → LifecycleState → List TransitionRequest
  | .gmslV4l2Camera => gmslRecoveryRequests
  | .twsBattery | .ch020Imu | .smitLidar | .pager100Lora | .oradarLidar => Hook.recoveryRequests

/-- The hook that an in-process runtime registers. -/
def InProcessRuntime.hook (runtime : InProcessRuntime) :
    UInt64 → HookContext → UInt64 × List TransitionRequest := hookWith runtime.recoveryRequests

def inProcessHook (runtime : InProcessRuntime) : StatefulHook := ⟨UInt64, 0, runtime.hook⟩

inductive RosAdapter where
  | process | lifecycle
  deriving DecidableEq

def RosAdapter.hook : RosAdapter → RecoveryHookState → HookContext →
    RecoveryHookState × List TransitionRequest
  | .process => processHook
  | .lifecycle => lifecycleHook

def RosAdapter.registerHook (adapter : RosAdapter) : StatefulHook :=
  ⟨RecoveryHookState, none, adapter.hook⟩

inductive ShippedRuntime where
  | ros2 (adapter : RosAdapter)
  | inProcess (runtime : InProcessRuntime)
  deriving DecidableEq

def ShippedRuntime.registerHook : ShippedRuntime → StatefulHook
  | .ros2 adapter => adapter.registerHook
  | .inProcess runtime => inProcessHook runtime

theorem after_snoc (h : StatefulHook) (history : List HookContext) (context : HookContext) :
    h.after (history ++ [context]) = (h.call (h.after history) context).1 := by
  simp [StatefulHook.after]

/-- The two copies of `transitions_to` differ at FINALIZED only. -/
theorem lifecycleTransitionsTo_eq {source : LifecycleState} (h : source ≠ .finalized)
    (target : LifecycleState) (parameters : ParameterMap) :
    lifecycleTransitionsTo source target parameters = processPath source target parameters := by
  cases source <;> cases target <;> first | rfl | exact (h rfl).elim

theorem lifecycleTransitionsTo_finalized (target : LifecycleState) (parameters : ParameterMap) :
    lifecycleTransitionsTo .finalized target parameters = [] := by
  cases target <;> rfl

def Path (source target : LifecycleState) (requests : List TransitionRequest) : Prop :=
  isContiguous requests = true ∧ requests.head?.map TransitionRequest.fromState = some source ∧
    requests.getLast?.map TransitionRequest.targetState = some target

theorem path_transitionsTo (source target : LifecycleState)
    (parameters cleanupParameters : ParameterMap) :
    transitionsTo source target parameters cleanupParameters = [] ∨
      Path source target (transitionsTo source target parameters cleanupParameters) := by
  cases source <;> cases target <;> simp [transitionsTo, Path, isContiguous]

theorem path_lifecycle (source target : LifecycleState) (parameters : ParameterMap) :
    lifecycleTransitionsTo source target parameters = [] ∨
      Path source target (lifecycleTransitionsTo source target parameters) := by
  by_cases hs : source = .finalized
  · rw [hs]
    exact Or.inl (lifecycleTransitionsTo_finalized target parameters)
  · rw [lifecycleTransitionsTo_eq hs]
    exact path_transitionsTo source target parameters ∅

theorem recover_pending {handled : RecoveryHookState} {revision : UInt64}
    {requests : List TransitionRequest} (hh : alreadyHandled handled revision = false)
    (hr : requests ≠ []) : recover handled revision false requests = (handled, some requests) := by
  have hne : requests.isEmpty = false := List.isEmpty_eq_false_iff.mpr hr
  simp [recover, hh, hne]

theorem recover_handled {handled : RecoveryHookState} {revision : UInt64}
    (hh : alreadyHandled handled revision = true) (reached : Bool)
    (requests : List TransitionRequest) :
    recover handled revision reached requests = (handled, none) := by
  simp [recover, hh]

theorem recover_close {handled : RecoveryHookState} {revision : UInt64} {reached : Bool}
    {requests : List TransitionRequest} (hh : alreadyHandled handled revision = false)
    (hc : reached = true ∨ requests = []) :
    recover handled revision reached requests = (some revision, none) := by
  obtain rfl | rfl := hc <;> simp [recover, hh]

def RosAdapter.path : RosAdapter → LifecycleState → LifecycleState → ParameterMap →
    List TransitionRequest
  | .process => processPath
  | .lifecycle => lifecycleTransitionsTo

def RosAdapter.watched (adapter : RosAdapter) (context : HookContext) : Option DeviceEvent :=
  match adapter with
  | .process => context.latestEvent.filter fun _ => decide (context.latestEventRevision ≠ 0)
  | .lifecycle => context.latestEvent.filter fun event => context.enabled && eventNeedsRecovery event

def RosAdapter.startup (adapter : RosAdapter) (context : HookContext) : List TransitionRequest :=
  match adapter with
  | .process => processStartup context
  | .lifecycle => if context.enabled then lifecycleStartup context else []

/-- The two hooks have one shape. -/
theorem hook_eq (adapter : RosAdapter) (handled : RecoveryHookState) (context : HookContext) :
    adapter.hook handled context =
      match adapter.watched context with
      | some event => orElse (recoverFrom adapter.path handled context event)
          (adapter.startup context)
      | none => (handled, adapter.startup context) := by
  cases adapter with
  | process =>
    cases he : context.latestEvent with
    | none => simp [RosAdapter.hook, processHook, RosAdapter.watched, RosAdapter.startup, he]
    | some event =>
      by_cases hr : context.latestEventRevision = 0
      · simp [RosAdapter.hook, processHook, RosAdapter.watched, RosAdapter.startup, he, hr,
          Option.filter]
      · simp [RosAdapter.hook, processHook, RosAdapter.watched, RosAdapter.startup, he, hr,
          Option.filter, RosAdapter.path]
  | lifecycle =>
    cases hen : context.enabled with
    | false =>
      cases he : context.latestEvent <;>
        simp [RosAdapter.hook, lifecycleHook, RosAdapter.watched, RosAdapter.startup, he, hen]
    | true =>
      cases he : context.latestEvent with
      | none =>
        simp [RosAdapter.hook, lifecycleHook, RosAdapter.watched, RosAdapter.startup, he, hen]
      | some event =>
        cases hn : eventNeedsRecovery event <;>
          simp [RosAdapter.hook, lifecycleHook, RosAdapter.watched, RosAdapter.startup, he, hen, hn,
            Option.filter, RosAdapter.path]

def RosAdapter.closes (adapter : RosAdapter) (context : HookContext) : Prop :=
  ∃ event, adapter.watched context = some event ∧
    (context.state = event.targetState ∨
      adapter.path context.state event.targetState context.parameters = [])

theorem hook_none {adapter : RosAdapter} {context : HookContext}
    (h : adapter.watched context = none) (handled : RecoveryHookState) :
    adapter.hook handled context = (handled, adapter.startup context) := by
  rw [hook_eq, h]

theorem hook_handled {adapter : RosAdapter} {handled : RecoveryHookState} {context : HookContext}
    (h : alreadyHandled handled context.latestEventRevision = true) :
    adapter.hook handled context = (handled, adapter.startup context) := by
  rw [hook_eq]
  cases adapter.watched context with
  | none => rfl
  | some event => simp [recoverFrom, recover_handled h, orElse]

theorem hook_closes {adapter : RosAdapter} {handled : RecoveryHookState} {context : HookContext}
    (h : alreadyHandled handled context.latestEventRevision = false) (hc : adapter.closes context) :
    adapter.hook handled context =
      (some context.latestEventRevision, adapter.startup context) := by
  obtain ⟨event, hw, hc⟩ := hc
  have hclose : decide (context.state = event.targetState) = true ∨
      adapter.path context.state event.targetState context.parameters = [] := by simpa using hc
  rw [hook_eq, hw]
  simp [recoverFrom, recover_close h hclose, orElse]

theorem hook_pending {adapter : RosAdapter} {handled : RecoveryHookState} {context : HookContext}
    {event : DeviceEvent} (hw : adapter.watched context = some event)
    (h : alreadyHandled handled context.latestEventRevision = false)
    (hc : ¬ adapter.closes context) :
    adapter.hook handled context =
      (handled, adapter.path context.state event.targetState context.parameters) := by
  have hopen : ¬ (context.state = event.targetState ∨
      adapter.path context.state event.targetState context.parameters = []) :=
    fun hor => hc ⟨event, hw, hor⟩
  obtain ⟨hs, hp⟩ := not_or.mp hopen
  rw [hook_eq, hw]
  simp [recoverFrom, hs, recover_pending h hp, orElse]

inductive HookCase (adapter : RosAdapter) (handled : RecoveryHookState) (context : HookContext) :
    Prop
  | unwatched (hw : adapter.watched context = none)
      (he : adapter.hook handled context = (handled, adapter.startup context))
  | handled (hh : alreadyHandled handled context.latestEventRevision = true)
      (he : adapter.hook handled context = (handled, adapter.startup context))
  | closes (hh : alreadyHandled handled context.latestEventRevision = false)
      (hc : adapter.closes context)
      (he : adapter.hook handled context =
        (some context.latestEventRevision, adapter.startup context))
  | pending (event : DeviceEvent) (hw : adapter.watched context = some event)
      (hh : alreadyHandled handled context.latestEventRevision = false)
      (hc : ¬ adapter.closes context)
      (he : adapter.hook handled context =
        (handled, adapter.path context.state event.targetState context.parameters))

theorem hook_cases (adapter : RosAdapter) (handled : RecoveryHookState) (context : HookContext) :
    HookCase adapter handled context := by
  cases hw : adapter.watched context with
  | none => exact HookCase.unwatched hw (hook_none hw handled)
  | some event =>
    cases hh : alreadyHandled handled context.latestEventRevision with
    | true => exact HookCase.handled hh (hook_handled hh)
    | false =>
      by_cases hc : adapter.closes context
      · exact HookCase.closes hh hc (hook_closes hh hc)
      · exact HookCase.pending event hw hh hc (hook_pending hw hh hc)

def RosAdapter.after (adapter : RosAdapter) (history : List HookContext) : RecoveryHookState :=
  adapter.registerHook.after history

theorem RosAdapter.after_snoc (adapter : RosAdapter) (history : List HookContext)
    (context : HookContext) :
    adapter.after (history ++ [context]) = (adapter.hook (adapter.after history) context).1 :=
  RuntimeHooks.after_snoc adapter.registerHook history context

theorem returns_eq (adapter : RosAdapter) (history : List HookContext) (context : HookContext) :
    adapter.registerHook.returns history context =
      (adapter.hook (adapter.after history) context).2 := rfl

/-- A revision is handled when a call that closes its event, or a newer one, has been made. -/
theorem alreadyHandled_after (adapter : RosAdapter) (history : List HookContext)
    (revision : UInt64) :
    alreadyHandled (adapter.after history) revision = true ↔
      ∃ context ∈ history, adapter.closes context ∧ revision ≤ context.latestEventRevision := by
  induction history using List.reverseRecOn generalizing revision with
  | nil => simp [RosAdapter.after, StatefulHook.after, RosAdapter.registerHook, alreadyHandled]
  | append_singleton history context ih =>
    have hmem : (∃ c ∈ history ++ [context], adapter.closes c ∧ revision ≤ c.latestEventRevision) ↔
        (∃ c ∈ history, adapter.closes c ∧ revision ≤ c.latestEventRevision) ∨
          (adapter.closes context ∧ revision ≤ context.latestEventRevision) := by
      simp only [List.mem_append, List.mem_singleton, or_and_right, exists_or, exists_eq_left]
    rw [RosAdapter.after_snoc, hmem, ← ih]
    cases hook_cases adapter (adapter.after history) context with
    | unwatched hw he =>
      rw [he]
      simp [RosAdapter.closes, hw]
    | handled hh he =>
      rw [he]
      constructor
      · exact Or.inl
      · rintro (h | ⟨-, hr⟩)
        · exact h
        · obtain ⟨c, hm, hc, hle⟩ := (ih _).mp hh
          exact (ih _).mpr ⟨c, hm, hc, UInt64.le_trans hr hle⟩
    | closes hh hc he =>
      rw [he]
      simp only [alreadyHandled, decide_eq_true_eq, hc, true_and]
      constructor
      · rintro h
        exact Or.inr h
      · rintro (h | h)
        · obtain ⟨c, hm, hcc, hle⟩ := (ih _).mp h
          have hlt : ¬ context.latestEventRevision ≤ c.latestEventRevision := by
            intro hge
            rw [(ih _).mpr ⟨c, hm, hcc, hge⟩] at hh
            cases hh
          exact UInt64.le_trans hle (UInt64.le_of_lt (UInt64.not_le.mp hlt))
        · exact h
    | pending event hw hh hc he =>
      rw [he]
      simp [hc]

end DeviceManager.RuntimeHooks
