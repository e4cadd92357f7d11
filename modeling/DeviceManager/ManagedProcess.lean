import DeviceManager.ProcessAdapter
import DeviceManager.RuntimeHooks

namespace DeviceManager.ManagedProcess

open Domain WorkerThread Queue QueueStep Transition RuntimeBase ParameterText Hook RuntimeHooks
  ProcessAdapter

/-- A running device whose runtime is a `Ros2ProcessDeviceRuntimeAdapter`, with the ticks
in flight. `delivered` are the events that have been in the slot, newest first. -/
structure Managed where
  queue : DeviceQueue
  adapter : Adapter
  latestEvent : Option DeviceEvent
  latestEventRevision : UInt64
  handled : RecoveryHookState
  ticks : List Tick
  delivered : List DeviceEvent

/-- The event handler of `Device::start`. -/
def Managed.deliver (m : Managed) (event : DeviceEvent) : Managed :=
  { m with
    latestEvent := some event
    latestEventRevision := m.latestEventRevision + 1
    delivered := event :: m.delivered }

def Managed.called (m : Managed) (adapter : Adapter) (event : Option DeviceEvent) : Managed :=
  match event with
  | some event => { m with adapter := adapter }.deliver event
  | none => { m with adapter := adapter }

/-- `hook_context` under the observation lock. -/
def Managed.context (m : Managed) (state : LifecycleState) : HookContext :=
  ⟨state, m.queue.enabled, m.queue.parameters, m.latestEvent, m.latestEventRevision⟩

def workerCall : Worker → Option Call
  | .superseded | .planning _ _ | .reading _ _ | .checking _ _ _ | .recovering _ _ _ | .finalizing =>
    some .state
  | .awaiting request _ => (requestTransition request).map .operation
  | _ => none

def workerAnswer : Worker → Queue.Answer
  | .awaiting _ _ => .outcome (.ok unsupportedTransition)
  | .transitions state parameters _ => .plan (.ok (standardParameterTransitions state parameters))
  | _ => .go

def reply : ProcessAdapter.Answer → Queue.Answer
  | .state state => .state (.ok state)
  | .outcome outcome => .outcome (.ok outcome)

def observedState : ProcessAdapter.Answer → LifecycleState
  | .state state => state
  | .outcome _ => .unknown

inductive ManagedAction where
  | spawn
  | work (answers : Answers)
  | query (answers : Answers)
  | driver (event : DeviceEvent)
  | tick (answers : Answers)
  | context (index : Nat)
  | hook (index : Nat)
  | submit (index : Nat)

/-- The worker, a query of the state, a `device_event` message of the driver, and the ticks. -/
def Managed.next (yaml : DoubleQuoted) (m : Managed) : ManagedAction → Option Managed
  | .spawn => (Queue.next m.queue .spawn).map fun q => { m with queue := q }
  | .work answers =>
    match workerCall m.queue.worker with
    | some call =>
      let (result, event) := m.adapter.perform yaml answers call
      (Queue.next m.queue (.work (reply result.2))).map fun q =>
        { m with queue := q }.called result.1 event
    | none =>
      (Queue.next m.queue (.work (workerAnswer m.queue.worker))).map fun q => { m with queue := q }
  | .query answers =>
    let (result, event) := m.adapter.perform yaml answers .state
    some (m.called result.1 event)
  | .driver event => some (m.deliver event)
  | .tick answers =>
    let (result, event) := m.adapter.perform yaml answers .state
    some ({ m with ticks := m.ticks ++ [Tick.observed (observedState result.2)] }.called result.1 event)
  | .context index =>
    match m.ticks[index]? with
    | some (.observed state) =>
      some { m with ticks := m.ticks.set index (.informed (m.context state)) }
    | _ => none
  | .hook index =>
    match m.ticks[index]? with
    | some (.informed context) => some { m with
        handled := (processHook m.handled context).1
        ticks := m.ticks.set index (.holding (processHook m.handled context).2) }
    | _ => none
  | .submit index =>
    match m.ticks[index]? with
    | some (.holding requests) => some { m with
        queue := submit m.queue requests
        ticks := m.ticks.eraseIdx index }
    | _ => none

/-- A device right after its first start, with the gate open. -/
structure Begun (m : Managed) : Prop where
  queue : Started m.queue
  enabled : m.queue.enabled = true
  adapter : ∃ process, m.adapter = Adapter.initial process
  event : m.latestEvent = none
  revision : m.latestEventRevision = 0
  handled : m.handled = none
  ticks : m.ticks = []
  delivered : m.delivered = []

/-- What a step does to the queue, if anything. -/
def Touched (q t : DeviceQueue) : Prop :=
  q = t ∨ Queue.next q .spawn = some t ∨ (∃ answer, Queue.next q (.work answer) = some t) ∨
    ∃ requests, t = submit q requests

inductive Move (yaml : DoubleQuoted) (m : Managed) : ManagedAction → Managed → Prop
  | queue (action : ManagedAction) (q : DeviceQueue) (hq : Touched m.queue q) :
    Move yaml m action { m with queue := q }
  | call (action : ManagedAction) (answers : Answers) (call : Call) (q : DeviceQueue)
      (hq : Touched m.queue q) :
    Move yaml m action ({ m with queue := q }.called (m.adapter.perform yaml answers call).1.1
      (m.adapter.perform yaml answers call).2)
  | driver (event : DeviceEvent) : Move yaml m (.driver event) (m.deliver event)
  | tick (answers : Answers) :
    Move yaml m (.tick answers)
      ({ m with ticks := m.ticks ++
          [Tick.observed (observedState (m.adapter.perform yaml answers .state).1.2)] }.called
        (m.adapter.perform yaml answers .state).1.1 (m.adapter.perform yaml answers .state).2)
  | context (index : Nat) (state : LifecycleState)
      (hi : m.ticks[index]? = some (.observed state)) :
    Move yaml m (.context index)
      { m with ticks := m.ticks.set index (.informed (m.context state)) }
  | hook (index : Nat) (context : HookContext) (hi : m.ticks[index]? = some (.informed context)) :
    Move yaml m (.hook index)
      { m with
        handled := (processHook m.handled context).1
        ticks := m.ticks.set index (.holding (processHook m.handled context).2) }
  | submit (index : Nat) (requests : List TransitionRequest)
      (hi : m.ticks[index]? = some (.holding requests)) :
    Move yaml m (.submit index)
      { m with queue := submit m.queue requests, ticks := m.ticks.eraseIdx index }

theorem managed_move {yaml : DoubleQuoted} {m t : Managed} {action : ManagedAction}
    (h : m.next yaml action = some t) : Move yaml m action t := by
  cases action with
  | spawn =>
    obtain ⟨q, hq, rfl⟩ := Option.map_eq_some_iff.mp h
    exact Move.queue _ q (Or.inr (Or.inl hq))
  | work answers =>
    simp only [Managed.next] at h
    split at h
    · next call hc =>
      obtain ⟨q, hq, rfl⟩ := Option.map_eq_some_iff.mp h
      exact Move.call _ answers call q (Or.inr (Or.inr (Or.inl ⟨_, hq⟩)))
    · obtain ⟨q, hq, rfl⟩ := Option.map_eq_some_iff.mp h
      exact Move.queue _ q (Or.inr (Or.inr (Or.inl ⟨_, hq⟩)))
  | query answers =>
    obtain rfl := Option.some.inj h
    exact Move.call _ answers .state m.queue (Or.inl rfl)
  | driver event => exact Option.some.inj h ▸ Move.driver event
  | tick answers =>
    obtain rfl := Option.some.inj h
    exact Move.tick answers
  | context index =>
    simp only [Managed.next] at h
    split at h
    · next state hi => exact Option.some.inj h ▸ Move.context index state hi
    · cases h
  | hook index =>
    simp only [Managed.next] at h
    split at h
    · next context hi => exact Option.some.inj h ▸ Move.hook index context hi
    · cases h
  | submit index =>
    simp only [Managed.next] at h
    split at h
    · next requests hi => exact Option.some.inj h ▸ Move.submit index requests hi
    · cases h

/-- No step closes the gate or stops the device. -/
theorem touched_flags {q t : DeviceQueue} (h : Touched q t) :
    t.running = q.running ∧ t.stopping = q.stopping ∧ t.enabled = q.enabled := by
  have hflags : ∀ {action : Action}, Queue.next q action = some t → serving q action →
      (∀ patch priority, action ≠ .patch patch priority) →
      t.running = q.running ∧ t.stopping = q.stopping ∧ t.enabled = q.enabled := by
    intro action hn hs hp
    obtain ⟨hr, hst⟩ := serving_flags hs hn
    refine ⟨hr, hst, ?_⟩
    cases next_move hn with
    | start | startAgain | stop | stopAgain | join => exact hs.elim
    | refusePatch patch priority | drop patch priority | lone patch priority
    | queuePatch patch priority => exact (hp patch priority rfl).elim
    | _ => simp
  obtain rfl | hn | ⟨answer, hn⟩ | ⟨requests, rfl⟩ := h
  · exact ⟨rfl, rfl, rfl⟩
  · exact hflags hn trivial (by simp)
  · exact hflags hn trivial (by simp)
  · obtain he | ⟨-, -, he⟩ := submit_cases q requests
    · rw [he]
      exact ⟨rfl, rfl, rfl⟩
    · rw [he]
      simp

end DeviceManager.ManagedProcess
