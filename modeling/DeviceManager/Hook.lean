import DeviceManager.Queue

namespace DeviceManager.Hook

open Domain WorkerThread Queue Transition

def eventNeedsRecovery (event : DeviceEvent) : Bool :=
  decide (event.level = .error ∨ event.level = .stale)

def recoveryRequests (source target : LifecycleState) : List TransitionRequest :=
  match target, source with
  | .finalized, .active =>
    [⟨.active, .inactive, ∅⟩, ⟨.inactive, .unconfigured, ∅⟩, ⟨.unconfigured, .finalized, ∅⟩]
  | .finalized, .inactive => [⟨.inactive, .unconfigured, ∅⟩, ⟨.unconfigured, .finalized, ∅⟩]
  | .finalized, .unconfigured => [⟨.unconfigured, .finalized, ∅⟩]
  | .inactive, .active => [⟨.active, .inactive, ∅⟩]
  | .unconfigured, .active => [⟨.active, .inactive, ∅⟩, ⟨.inactive, .unconfigured, ∅⟩]
  | .unconfigured, .inactive => [⟨.inactive, .unconfigured, ∅⟩]
  | _, _ => []

/-- The hook that the in-process runtimes register (the one of the GMSL camera has
a path less). It returns its captured `*handled_event_revision` with the requests. -/
def standardHook (handledEventRevision : UInt64) (context : HookContext) :
    UInt64 × List TransitionRequest :=
  if !context.enabled then (handledEventRevision, recoveryRequests context.state .finalized)
  else
    match context.state, context.latestEvent with
    | .finalized, _ =>
      (handledEventRevision, [⟨.finalized, .unconfigured, context.parameters⟩])
    | .unconfigured, _ =>
      (handledEventRevision, [⟨.unconfigured, .inactive, context.parameters⟩])
    | .inactive, _ => (handledEventRevision, [⟨.inactive, .active, ∅⟩])
    | .active, some event =>
      if !eventNeedsRecovery event ∨ context.latestEventRevision ≤ handledEventRevision then
        (handledEventRevision, [])
      else (context.latestEventRevision, recoveryRequests .active event.targetState)
    | _, _ => (handledEventRevision, [])

/-- One device in one call of `tick`: between the read of `safe_state` and the
lock, between the lock and the hook, and between the hook and the submission. -/
inductive Tick where
  | observed (state : LifecycleState)
  | informed (context : HookContext)
  | holding (requests : List TransitionRequest)

structure Hooked where
  queue : DeviceQueue
  latestEvent : Option DeviceEvent
  latestEventRevision : UInt64
  handledEventRevision : UInt64
  ticks : List Tick

/-- `hook_context` under the observation lock. -/
def Hooked.context (h : Hooked) (state : LifecycleState) : HookContext :=
  ⟨state, h.queue.enabled, h.queue.parameters, h.latestEvent, h.latestEventRevision⟩

/-- The submission that ends a tick, with the checks of `DeviceManager::enqueue`. -/
def submit (q : DeviceQueue) (requests : List TransitionRequest) : DeviceQueue :=
  if requests.isEmpty || !isContiguous requests then q else (q.enqueue requests .normal).2

inductive HookedAction where
  | device (action : Action)
  | event (event : DeviceEvent)
  | tick (state : LifecycleState)
  | context (index : Nat)
  | hook (index : Nat)
  | submit (index : Nat)

def Hooked.next (h : Hooked) : HookedAction → Option Hooked
  | .device action => (Queue.next h.queue action).map fun q => { h with queue := q }
  | .event event => some { h with
      latestEvent := some event
      latestEventRevision := h.latestEventRevision + 1 }
  | .tick state => some { h with ticks := h.ticks ++ [.observed state] }
  | .context index =>
    match h.ticks[index]? with
    | some (.observed state) =>
      some { h with ticks := h.ticks.set index (.informed (h.context state)) }
    | _ => none
  | .hook index =>
    match h.ticks[index]? with
    | some (.informed context) => some { h with
        handledEventRevision := (standardHook h.handledEventRevision context).1
        ticks := h.ticks.set index (.holding (standardHook h.handledEventRevision context).2) }
    | _ => none
  | .submit index =>
    match h.ticks[index]? with
    | some (.holding requests) => some { h with
        queue := submit h.queue requests
        ticks := h.ticks.eraseIdx index }
    | _ => none

theorem isContiguous_recoveryRequests (source target : LifecycleState) :
    isContiguous (recoveryRequests source target) = true := by
  cases source <;> cases target <;> rfl

/-- The hook never has a submission refused for its shape. -/
theorem isContiguous_standardHook (handled : UInt64) (context : HookContext) :
    isContiguous (standardHook handled context).2 = true := by
  unfold standardHook
  split
  · exact isContiguous_recoveryRequests _ _
  · split
    · rfl
    · rfl
    · rfl
    · split
      · rfl
      · exact isContiguous_recoveryRequests _ _
    · rfl

inductive HookedMove (h : Hooked) : HookedAction → Hooked → Prop
  | device (action : Action) (q : DeviceQueue) (hn : Queue.next h.queue action = some q) :
    HookedMove h (.device action) { h with queue := q }
  | event (event : DeviceEvent) :
    HookedMove h (.event event)
      { h with latestEvent := some event, latestEventRevision := h.latestEventRevision + 1 }
  | tick (state : LifecycleState) :
    HookedMove h (.tick state) { h with ticks := h.ticks ++ [.observed state] }
  | context (index : Nat) (state : LifecycleState)
      (hi : h.ticks[index]? = some (.observed state)) :
    HookedMove h (.context index)
      { h with ticks := h.ticks.set index (.informed (h.context state)) }
  | hook (index : Nat) (context : HookContext)
      (hi : h.ticks[index]? = some (.informed context)) :
    HookedMove h (.hook index)
      { h with
        handledEventRevision := (standardHook h.handledEventRevision context).1
        ticks := h.ticks.set index (.holding (standardHook h.handledEventRevision context).2) }
  | refused (index : Nat) (requests : List TransitionRequest)
      (hi : h.ticks[index]? = some (.holding requests)) :
    HookedMove h (.submit index) { h with ticks := h.ticks.eraseIdx index }
  | submit (index : Nat) (requests : List TransitionRequest)
      (hi : h.ticks[index]? = some (.holding requests)) (hr : h.queue.running = true)
      (hs : h.queue.stopping = false) :
    HookedMove h (.submit index)
      { h with
        queue := h.queue.push .normal ⟨requests, none, ∅⟩
        ticks := h.ticks.eraseIdx index }

theorem submit_cases (q : DeviceQueue) (requests : List TransitionRequest) :
    submit q requests = q ∨ (q.running = true ∧ q.stopping = false ∧
      submit q requests = q.push .normal ⟨requests, none, ∅⟩) := by
  unfold submit DeviceQueue.enqueue
  split
  · exact Or.inl rfl
  · split
    · exact Or.inl rfl
    · next hacc =>
      have hrs : q.running = true ∧ q.stopping = false := by simpa using hacc
      exact Or.inr ⟨hrs.1, hrs.2, rfl⟩

theorem hooked_move {h t : Hooked} {action : HookedAction} (hn : h.next action = some t) :
    HookedMove h action t := by
  cases action with
  | device action =>
    obtain ⟨q, hq, rfl⟩ := Option.map_eq_some_iff.mp hn
    exact HookedMove.device action q hq
  | event event => exact Option.some.inj hn ▸ HookedMove.event event
  | tick state => exact Option.some.inj hn ▸ HookedMove.tick state
  | context index =>
    simp only [Hooked.next] at hn
    split at hn
    · next state hi => exact Option.some.inj hn ▸ HookedMove.context index state hi
    · cases hn
  | hook index =>
    simp only [Hooked.next] at hn
    split at hn
    · next context hi =>
      exact Option.some.inj hn ▸ HookedMove.hook index context hi
    · cases hn
  | submit index =>
    simp only [Hooked.next] at hn
    split at hn
    · next requests hi =>
      obtain rfl := Option.some.inj hn
      obtain hs | ⟨hr, hst, hs⟩ := submit_cases h.queue requests
      · rw [hs]
        exact HookedMove.refused index requests hi
      · rw [hs]
        exact HookedMove.submit index requests hi hr hst
    · cases hn

theorem mem_set_or {Q : Tick → Prop} {ticks : List Tick} (index : Nat) {tick : Tick}
    (h : Q tick) : ∀ t ∈ ticks.set index tick, t ∈ ticks ∨ Q t := by
  intro t hm
  obtain hm | rfl := List.mem_or_eq_of_mem_set hm
  · exact Or.inl hm
  · exact Or.inr h

theorem mem_snoc_or {Q : Tick → Prop} {ticks : List Tick} {tick : Tick} (h : Q tick) :
    ∀ t ∈ ticks ++ [tick], t ∈ ticks ∨ Q t := by
  intro t hm
  obtain hm | hm := List.mem_append.mp hm
  · exact Or.inl hm
  · rw [List.mem_singleton.mp hm]
    exact Or.inr h

end DeviceManager.Hook
