import DeviceManager.RuntimeHooks

namespace DeviceManager.Retry

open Domain WorkerThread Queue Transition Hook RuntimeHooks

def nextWith (runtime : InProcessRuntime) (h : Hooked) : HookedAction → Option Hooked
  | .hook index =>
    match h.ticks[index]? with
    | some (.informed context) => some { h with
        handledEventRevision := (runtime.hook h.handledEventRevision context).1
        ticks := h.ticks.set index (.holding (runtime.hook h.handledEventRevision context).2) }
    | _ => none
  | action => h.next action

/-- The device with the state of its runtime. `since` are the states that the
runtime has had since the latest event, `calls` the contexts the hook was called
with, both newest first. -/
structure Faulted where
  hooked : Hooked
  state : LifecycleState
  since : List LifecycleState
  calls : List HookContext

inductive FaultedAction where
  | move (state : LifecycleState)
  | step (action : HookedAction)

/-- A read of the state returns it. `safe_state` may answer UNKNOWN. -/
def truthful (state : LifecycleState) : HookedAction → Bool
  | .tick observed => decide (observed = state ∨ observed = .unknown)
  | .device (.work (.state (.ok answer))) => decide (answer = state)
  | _ => true

def Faulted.states (f : Faulted) : HookedAction → List LifecycleState
  | .event _ => [f.state]
  | _ => f.since

def Faulted.contexts (f : Faulted) : HookedAction → List HookContext
  | .hook index =>
    match f.hooked.ticks[index]? with
    | some (.informed context) => context :: f.calls
    | _ => f.calls
  | _ => f.calls

/-- The runtime moves, in a transition or by itself, or the device takes a step. -/
def Faulted.next (runtime : InProcessRuntime) (f : Faulted) : FaultedAction → Option Faulted
  | .move state => some { f with
      state := state
      since := state :: f.since }
  | .step action =>
    if truthful f.state action then
      (nextWith runtime f.hooked action).map fun h => ⟨h, f.state, f.states action, f.contexts action⟩
    else none

def anyOrder (_ : Faulted) (_ : FaultedAction) : Prop := True

instance (f : Faulted) (action : FaultedAction) : Decidable (anyOrder f action) :=
  inferInstanceAs (Decidable True)

structure Registered (f : Faulted) : Prop where
  handled : f.hooked.handledEventRevision = 0
  calls : f.calls = []

def Derives (context : HookContext) : Prop :=
  context.enabled = true ∧ context.state = .active ∧
    ∃ event, context.latestEvent = some event ∧ eventNeedsRecovery event = true

/-- The hook has looked at this event, or a newer one, in an earlier call that
derived the recovery. -/
def Derived (calls : List HookContext) (revision : UInt64) : Prop :=
  revision = 0 ∨ ∃ earlier ∈ calls, Derives earlier ∧ revision ≤ earlier.latestEventRevision

/-- A tick about to call the hook, for the latest event, a fault with target
UNCONFIGURED that the runtime has not been to since. -/
structure Due (f : Faulted) (index : Nat) (context : HookContext) : Prop where
  tick : f.hooked.ticks[index]? = some (.informed context)
  enabled : context.enabled = true
  active : context.state = .active
  event : ∃ event, context.latestEvent = some event ∧ eventNeedsRecovery event = true ∧
    event.targetState = .unconfigured
  latest : context.latestEventRevision = f.hooked.latestEventRevision
  unrecovered : .unconfigured ∉ f.since

def recoveryPath : List TransitionRequest :=
  [⟨.active, .inactive, ∅⟩, ⟨.inactive, .unconfigured, ∅⟩]

theorem hook_derives (runtime : InProcessRuntime) (handled : UInt64) {context : HookContext}
    (h : Derives context) :
    (runtime.hook handled context).1 =
      if context.latestEventRevision ≤ handled then handled else context.latestEventRevision := by
  obtain ⟨he, hs, event, hv, hn⟩ := h
  by_cases hr : context.latestEventRevision ≤ handled <;>
    simp [InProcessRuntime.hook, hookWith, he, hs, hv, hn, hr]

theorem hook_keeps (runtime : InProcessRuntime) (handled : UInt64) {context : HookContext}
    (h : ¬ Derives context) : (runtime.hook handled context).1 = handled := by
  simp only [InProcessRuntime.hook, hookWith]
  split
  · rfl
  · next hen =>
    split
    · rfl
    · rfl
    · rfl
    · next event hs hv =>
      split
      · rfl
      · next hor =>
        have hn : eventNeedsRecovery event = true := by
          by_contra hn
          exact hor (Or.inl (by simpa using hn))
        exact (h ⟨by simpa using hen, hs, event, hv, hn⟩).elim
    · rfl

theorem derived_cons (calls : List HookContext) (context : HookContext) (revision : UInt64) :
    Derived (context :: calls) revision ↔
      Derived calls revision ∨ (Derives context ∧ revision ≤ context.latestEventRevision) := by
  unfold Derived
  simp only [List.mem_cons, or_and_right, exists_or, exists_eq_left]
  rw [← or_assoc, or_right_comm]

def Remembers (f : Faulted) : Prop :=
  ∀ revision, revision ≤ f.hooked.handledEventRevision ↔ Derived f.calls revision

theorem remembers_call {runtime : InProcessRuntime} {f : Faulted} (h : Remembers f)
    (context : HookContext) (revision : UInt64) :
    revision ≤ (runtime.hook f.hooked.handledEventRevision context).1 ↔
      Derived (context :: f.calls) revision := by
  rw [derived_cons, ← h revision]
  by_cases hd : Derives context
  · rw [hook_derives runtime _ hd]
    split
    · next hle =>
      constructor
      · exact Or.inl
      · rintro (hr | ⟨-, hr⟩)
        · exact hr
        · exact UInt64.le_trans hr hle
    · next hlt =>
      have hless := UInt64.le_of_lt (UInt64.not_le.mp hlt)
      constructor
      · exact fun hr => Or.inr ⟨hd, hr⟩
      · rintro (hr | ⟨-, hr⟩)
        · exact UInt64.le_trans hr hless
        · exact hr
  · rw [hook_keeps runtime _ hd]
    simp [hd]

theorem handled_kept {h g : Hooked} {action : HookedAction} (hn : h.next action = some g)
    (ha : ∀ index, action ≠ .hook index) : g.handledEventRevision = h.handledEventRevision := by
  cases hooked_move hn with
  | hook index => exact (ha index rfl).elim
  | _ => rfl

theorem nextWith_other (runtime : InProcessRuntime) (h : Hooked) {action : HookedAction}
    (ha : ∀ index, action ≠ .hook index) : nextWith runtime h action = h.next action := by
  cases action with
  | hook index => exact (ha index rfl).elim
  | _ => rfl

theorem contexts_other (f : Faulted) {action : HookedAction}
    (ha : ∀ index, action ≠ .hook index) : f.contexts action = f.calls := by
  cases action with
  | hook index => exact (ha index rfl).elim
  | _ => rfl

theorem remembers_hook {runtime : InProcessRuntime} {f : Faulted} {g : Hooked} {index : Nat}
    (h : Remembers f) (hn : nextWith runtime f.hooked (.hook index) = some g) :
    Remembers ⟨g, f.state, f.states (.hook index), f.contexts (.hook index)⟩ := by
  simp only [nextWith] at hn
  split at hn
  · next context hi =>
    obtain rfl := Option.some.inj hn
    intro revision
    simp only [Faulted.contexts, hi]
    exact remembers_call h context revision
  · cases hn

theorem remembers_step {runtime : InProcessRuntime} {f t : Faulted} {action : FaultedAction}
    (h : Remembers f) (hn : f.next runtime action = some t) : Remembers t := by
  cases action with
  | move state =>
    obtain rfl := Option.some.inj hn
    exact h
  | step action =>
    simp only [Faulted.next, Option.ite_none_right_eq_some] at hn
    obtain ⟨-, hn⟩ := hn
    obtain ⟨g, hg, rfl⟩ := Option.map_eq_some_iff.mp hn
    by_cases ha : ∃ index, action = .hook index
    · obtain ⟨index, rfl⟩ := ha
      exact remembers_hook h hg
    · have hne : ∀ index, action ≠ .hook index := fun index he => ha ⟨index, he⟩
      rw [nextWith_other runtime f.hooked hne] at hg
      intro revision
      simp only [contexts_other f hne, handled_kept hg hne]
      exact h revision

theorem remembers {runtime : InProcessRuntime} {f₀ f : Faulted} (h : Registered f₀)
    (hrun : Runs (Faulted.next runtime) anyOrder f₀ f) : Remembers f := by
  refine hrun.invariant (I := Remembers) ?_ fun _ _ _ hs _ hn => remembers_step hs hn
  intro revision
  simp [h.handled, h.calls, Derived]

theorem hook_path (runtime : InProcessRuntime) (handled : UInt64) {f : Faulted} {index : Nat}
    {context : HookContext} (h : Due f index context) :
    (runtime.hook handled context).2 =
      if context.latestEventRevision ≤ handled then [] else recoveryPath := by
  obtain ⟨event, hv, hn, ht⟩ := h.event
  have hpath : runtime.recoveryRequests .active .unconfigured = recoveryPath := by
    cases runtime <;> rfl
  by_cases hr : context.latestEventRevision ≤ handled <;>
    simp [InProcessRuntime.hook, hookWith, h.enabled, h.active, hv, hn, ht, hr, hpath]

/-- In every reachable state a tick that is due returns the recovery path exactly
when no earlier call of the hook has derived it. -/
theorem recovery_retried (runtime : InProcessRuntime) {f₀ f : Faulted} (h : Registered f₀)
    (hrun : Runs (Faulted.next runtime) anyOrder f₀ f) {index : Nat} {context : HookContext}
    (hdue : Due f index context) :
    (runtime.hook f.hooked.handledEventRevision context).2 = recoveryPath ↔
      ¬ Derived f.calls context.latestEventRevision := by
  rw [hook_path runtime _ hdue, ← remembers h hrun]
  split
  · next hle => simp [recoveryPath, hle]
  · next hlt => simp [hlt]

def activeDevice : Faulted :=
  ⟨⟨(Queue.fresh true ∅).start, none, 0, 0, []⟩, .active, [.active], []⟩

def pollFailed : DeviceEvent :=
  ⟨.error, "tws_battery.poll_failed", "read failed", "tws_battery_driver", .unconfigured, ∅⟩

def observedFault : HookContext := ⟨.active, true, ∅, some pollFailed, 1⟩

def wholeTick (state : LifecycleState) : List FaultedAction :=
  [.step (.tick state), .step (.context 0), .step (.hook 0), .step (.submit 0)]

theorem recovery_retried_firstTick :
    ∃ f, exec (Faulted.next .twsBattery) anyOrder
        [.step (.event pollFailed), .step (.tick .active), .step (.context 0)] activeDevice =
          some f ∧
      Due f 0 observedFault ∧
      (InProcessRuntime.twsBattery.hook f.hooked.handledEventRevision observedFault).2 =
        recoveryPath := by
  have hexec : exec (Faulted.next .twsBattery) anyOrder
      [.step (.event pollFailed), .step (.tick .active), .step (.context 0)] activeDevice =
        some _ := rfl
  refine ⟨_, hexec, ⟨rfl, rfl, rfl, ⟨pollFailed, rfl, rfl, rfl⟩, rfl, by decide⟩, ?_⟩
  have hiff := fun hdue : Due _ 0 observedFault =>
    recovery_retried .twsBattery ⟨rfl, rfl⟩ (exec_runs _ hexec) hdue
  refine (hiff ⟨rfl, rfl, rfl, ⟨pollFailed, rfl, rfl, rfl⟩, rfl, by decide⟩).mpr ?_
  rintro (hr | ⟨earlier, hm, -⟩)
  · cases hr
  · cases hm

def succeed (source target : LifecycleState) : List FaultedAction :=
  [.step (.device (.work .go)), .step (.device (.work (.state (.ok source)))),
    .step (.device (.work .go)), .move target,
    .step (.device (.work (.outcome (.ok ⟨.success, ""⟩)))),
    .step (.device (.work (.state (.ok target)))), .step (.device (.work .go))]

/-- The recovery batch is queued between two explicit submissions and finds its
source state stale. -/
def overtaken : List FaultedAction :=
  [.step (.device .spawn), .step (.event pollFailed),
    .step (.device (.enqueue [⟨.active, .inactive, ∅⟩] .normal))] ++
  wholeTick .active ++
  [.step (.device (.enqueue [⟨.inactive, .active, ∅⟩] .normal))] ++
  succeed .active .inactive ++
  [.step (.device (.work .go)), .step (.device (.work (.state (.ok .inactive)))),
    .step (.device (.work .go))] ++
  succeed .inactive .active ++
  [.step (.tick .active), .step (.context 0)]

theorem recovery_retried_overtaken :
    ∃ f, exec (Faulted.next .twsBattery) anyOrder overtaken activeDevice = some f ∧
      Due f 0 observedFault ∧
      f.hooked.queue.urgentQueue = [] ∧ f.hooked.queue.normalQueue = [] ∧
      (InProcessRuntime.twsBattery.hook f.hooked.handledEventRevision observedFault).2 = [] := by
  have hexec : exec (Faulted.next .twsBattery) anyOrder overtaken activeDevice = some _ := rfl
  refine ⟨_, hexec, ?_, rfl, rfl, rfl⟩
  exact ⟨rfl, rfl, rfl, ⟨pollFailed, rfl, rfl, rfl⟩, rfl, by decide⟩

end DeviceManager.Retry
