import DeviceManager.Queue
import Mathlib.Logic.Function.Basic

namespace DeviceManager.Manager

open Domain WorkerThread Queue

/-- A hook is a function of the runtime. Only its identity matters here. -/
abbrev LifecycleHook := Nat

/-- What a call of the runtime or of the thread library does. A call of
`set_event_handler` that throws may leave the handler set or not. -/
inductive Outcome where
  | returned
  | threw (holds : Bool)
  deriving DecidableEq

/-- `Device` with its queue. `handler` is whether the runtime holds the event
handler, `clearThrew` whether the last call of `set_event_handler` was one that
clears it and threw. `offers` are the hooks given to the registrar in the last
call of `register_hook`, `registerThrew` is whether that call threw, and
`registrations` are the offers of the calls that returned. -/
structure Device where
  queue : DeviceQueue
  latestEvent : Option DeviceEvent
  latestEventRevision : UInt64
  hook : Option LifecycleHook
  hookRegistered : Bool
  handler : Bool
  clearThrew : Bool
  offers : List (Option LifecycleHook)
  registerThrew : Bool
  registrations : List (List (Option LifecycleHook))

@[simps] def Device.setQueue (d : Device) (q : DeviceQueue) : Device := { d with queue := q }

@[simps] def Device.setEventHandler (d : Device) (handler : Bool) (outcome : Outcome) : Device :=
  { d with
    handler := match outcome with
      | .returned => handler
      | .threw holds => holds
    clearThrew := match outcome with
      | .returned => false
      | .threw _ => !handler }

@[simps] def Device.observe (d : Device) (event : DeviceEvent) : Device :=
  { d with
    latestEvent := some event
    latestEventRevision := d.latestEventRevision + 1 }

@[simps] def Device.enterRegisterHook (d : Device) : Device :=
  { d with
    offers := []
    registerThrew := false }

@[simps] def Device.failRegisterHook (d : Device) : Device := { d with registerThrew := true }

/-- The registrar given to `register_hook`. It throws into the runtime when the
device has a hook already. -/
@[simps] def Device.registrar (d : Device) (hook : Option LifecycleHook) : Device :=
  { d with
    hook := d.hook.or hook
    offers := d.offers ++ [hook] }

/-- `hook_registered = true`. -/
@[simps] def Device.confirm (d : Device) : Device :=
  { d with
    hookRegistered := true
    registrations := d.offers :: d.registrations }

/-- `hook = {}` in the catch clause. -/
@[simps] def Device.dropHook (d : Device) : Device := { d with hook := none }

/-- `hook_context` under the observation lock. -/
def Device.hookContext (d : Device) (state : LifecycleState) : HookContext :=
  ⟨state, d.queue.enabled, d.queue.parameters, d.latestEvent, d.latestEventRevision⟩

/-- The points of `Device::start` and of `DeviceQueue::start` in it. -/
inductive Starting where
  | handler | check | register | confirm | drop | queue | spawn
  deriving DecidableEq

/-- The points of `DeviceQueue::stop` and of `Device::stop` around it. -/
inductive Stopping where
  | queue | join | handler
  deriving DecidableEq

/-- The owner of the lifecycle mutex: the device it is at with the devices that
follow, before or after it holds the submission mutex as well. A loop of stops
with `thrown` is the rollback of a start. -/
inductive Lifecycle where
  | starting (point : Starting) (id : String) (rest : List String)
  | publishing
  | exchanging
  | stopping (point : Stopping) (id : String) (rest : List String) (thrown : Bool)
  deriving DecidableEq

/-- How a call of `start` or `stop` ended. -/
inductive Call where
  | started | startFailed | stopped
  deriving DecidableEq

inductive Submission where
  | enqueue (id : String) (requests : List TransitionRequest) (priority : RequestPriority)
  | patch (id : String) (patch : ParameterMap) (priority : RequestPriority)
  deriving DecidableEq

def Submission.id : Submission → String
  | .enqueue id _ _ => id
  | .patch id _ _ => id

def Submission.action : Submission → Action
  | .enqueue _ requests priority => .enqueue requests priority
  | .patch _ values priority => .patch values priority

def Submission.result (q : DeviceQueue) : Submission → SubmissionResult
  | .enqueue _ requests priority => (q.enqueue requests priority).1
  | .patch _ values priority => (q.enqueueParameterPatch values priority).1

/-- A call of `tick`: the loop over the devices, and the points in its body
before `safe_state`, before the observation lock, before the hook, before the
submission mutex and under it. -/
inductive Tick where
  | visiting (ids : List String)
  | hooked (id : String) (hook : LifecycleHook) (rest : List String)
  | observed (id : String) (hook : LifecycleHook) (state : LifecycleState) (rest : List String)
  | informed (id : String) (hook : LifecycleHook) (context : HookContext) (rest : List String)
  | holding (id : String) (requests : List TransitionRequest) (rest : List String)
  | enqueuing (rest : List String)

/-- What a step of a tick gets: nothing, or the result of its runtime call. -/
inductive TickAnswer where
  | go
  | state (reply : Reply LifecycleState)
  | requests (reply : Reply (List TransitionRequest))

/-- `DeviceManager::Impl`. `devices` is read at the keys `ids`, in the order of
iteration. The two mutexes are the owner they have; the owner of the submission
mutex may be a tick. `answers` and `returned` are histories, newest first. -/
structure Impl where
  ids : List String
  nodup : ids.Nodup
  devices : String → Device
  running : Bool
  lifecycle : Option Lifecycle
  submission : Option (Submission × Option Nat)
  ticks : List Tick
  answers : List (Submission × SubmissionResult)
  returned : List Call

@[simps] def Impl.setDevice (m : Impl) (id : String) (d : Device) : Impl :=
  { m with devices := Function.update m.devices id d }

def Impl.setQueue (m : Impl) (id : String) (q : DeviceQueue) : Impl :=
  m.setDevice id ((m.devices id).setQueue q)

@[simps] def Impl.at (m : Impl) (point : Lifecycle) : Impl := { m with lifecycle := some point }

@[simps] def Impl.finish (m : Impl) (call : Call) : Impl :=
  { m with
    lifecycle := none
    returned := call :: m.returned }

@[simps] def Impl.setRunning (m : Impl) (running : Bool) : Impl := { m with running := running }

/-- The loop over the devices in `start`, at its head. -/
def Impl.startFrom (m : Impl) : List String → Impl
  | id :: rest => m.at (.starting .handler id rest)
  | [] => m.at .publishing

/-- The loop over the devices in `stop` and in the catch clause of `start`. -/
def Impl.stopFrom (m : Impl) (thrown : Bool) : List String → Impl
  | id :: rest => m.at (.stopping .queue id rest thrown)
  | [] => m.finish (if thrown then .startFailed else .stopped)

/-- The catch clause of `start`. -/
def Impl.rollback (m : Impl) : Impl := m.stopFrom true m.ids

def Impl.act (m : Impl) (id : String) (action : Action) : Option Impl :=
  (Queue.next (m.devices id).queue action).map (m.setQueue id)

/-- The next step of `start` in the body of its loop. -/
def Impl.starting (m : Impl) (outcome : Outcome) (id : String) (rest : List String) :
    Starting → Option Impl
  | .handler =>
    let t := m.setDevice id ((m.devices id).setEventHandler true outcome)
    match outcome with
    | .returned => some (t.at (.starting .check id rest))
    | .threw _ => some t.rollback
  | .check =>
    if (m.devices id).hookRegistered then some (m.at (.starting .queue id rest))
    else
      some ((m.setDevice id (m.devices id).enterRegisterHook).at (.starting .register id rest))
  | .register =>
    match outcome with
    | .returned => some (m.at (.starting .confirm id rest))
    | .threw _ =>
      some ((m.setDevice id (m.devices id).failRegisterHook).at (.starting .drop id rest))
  | .confirm => some ((m.setDevice id (m.devices id).confirm).at (.starting .queue id rest))
  | .drop => some (m.setDevice id (m.devices id).dropHook).rollback
  | .queue =>
    (m.act id .start).map fun t =>
      if (m.devices id).queue.running then t.startFrom rest else t.at (.starting .spawn id rest)
  | .spawn =>
    match outcome with
    | .returned => (m.act id .spawn).map fun t => t.startFrom rest
    | .threw _ => some m.rollback

/-- `running.store(true)` under the submission mutex. -/
def Impl.publish (m : Impl) : Option Impl :=
  if m.submission.isSome then none else some ((m.setRunning true).finish .started)

/-- `running.exchange(false)` under the submission mutex. -/
def Impl.exchange (m : Impl) : Option Impl :=
  if m.submission.isSome then none
  else if m.running then some ((m.setRunning false).stopFrom false m.ids)
  else some (m.finish .stopped)

def Impl.stopping (m : Impl) (outcome : Outcome) (id : String) (rest : List String)
    (thrown : Bool) : Stopping → Option Impl
  | .queue =>
    (m.act id .stop).map fun t =>
      if (m.devices id).queue.running then t.at (.stopping .join id rest thrown)
      else t.at (.stopping .handler id rest thrown)
  | .join =>
    if (m.devices id).queue.worker = .absent then some (m.at (.stopping .handler id rest thrown))
    else (m.act id .join).map fun t => t.at (.stopping .handler id rest thrown)
  | .handler =>
    some ((m.setDevice id ((m.devices id).setEventHandler false outcome)).stopFrom thrown rest)

def Impl.advance (m : Impl) (outcome : Outcome) : Option Impl :=
  match m.lifecycle with
  | none => none
  | some (.starting point id rest) => m.starting outcome id rest point
  | some .publishing => m.publish
  | some .exchanging => m.exchange
  | some (.stopping point id rest thrown) => m.stopping outcome id rest thrown point

/-- The checks of `enqueue` and `patch_parameters` before they reach the device. -/
def Impl.check (m : Impl) (submission : Submission) : Option SubmissionResult :=
  if !m.running then some notRunning
  else if submission.id ∉ m.ids then some ⟨false, "unknown device"⟩
  else
    match submission with
    | .enqueue _ requests _ =>
      if requests.isEmpty then some ⟨false, "transition request batch must not be empty"⟩
      else if !isContiguous requests then
        some ⟨false, "transition request batch is not contiguous"⟩
      else none
    | .patch _ patch _ =>
      if patch = ∅ then some ⟨false, "parameter patch must not be empty"⟩ else none

@[simps] def Impl.answer (m : Impl) (submission : Submission) (result : SubmissionResult) : Impl :=
  { m with answers := (submission, result) :: m.answers }

@[simps] def Impl.setTicks (m : Impl) (ticks : List Tick) : Impl := { m with ticks := ticks }

/-- Take the submission mutex and check. A refused call releases it at once. -/
def Impl.submit (m : Impl) (submission : Submission) (owner : Option Nat) : Option Impl :=
  if m.submission.isSome then none
  else
    match m.check submission with
    | some result => some (m.answer submission result)
    | none => some { m with submission := some (submission, owner) }

def resumeTick (ticks : List Tick) : Option Nat → List Tick
  | none => ticks
  | some index =>
    ticks.modify index fun
      | .enqueuing rest => .visiting rest
      | tick => tick

@[simps] def Impl.release (m : Impl) (owner : Option Nat) : Impl :=
  { m with
    submission := none
    ticks := resumeTick m.ticks owner }

def Impl.push (m : Impl) : Option Impl :=
  match m.submission with
  | none => none
  | some (submission, owner) =>
    (m.act submission.id submission.action).map fun t =>
      (t.answer submission (submission.result (m.devices submission.id).queue)).release owner

/-- `safe_state`. -/
def safeState : Reply LifecycleState → LifecycleState
  | .ok state => state
  | .error _ => .unknown

def Impl.ticking (m : Impl) (index : Nat) (answer : TickAnswer) : Option Impl :=
  match m.ticks[index]?, answer with
  | some (.visiting (id :: rest)), .go =>
    match (m.devices id).hook with
    | some hook => some (m.setTicks (m.ticks.set index (.hooked id hook rest)))
    | none => some (m.setTicks (m.ticks.set index (.visiting rest)))
  | some (.hooked id hook rest), .state reply =>
    some (m.setTicks (m.ticks.set index (.observed id hook (safeState reply) rest)))
  | some (.observed id hook state rest), .go =>
    some (m.setTicks
      (m.ticks.set index (.informed id hook ((m.devices id).hookContext state) rest)))
  | some (.informed id _ _ rest), .requests (.ok requests) =>
    if requests.isEmpty then some (m.setTicks (m.ticks.set index (.visiting rest)))
    else some (m.setTicks (m.ticks.set index (.holding id requests rest)))
  | some (.informed _ _ _ rest), .requests (.error _) =>
    some (m.setTicks (m.ticks.set index (.visiting rest)))
  | some (.holding id requests rest), .go =>
    (m.submit (.enqueue id requests .normal) (some index)).map fun t =>
      if t.submission.isSome then t.setTicks (t.ticks.set index (.enqueuing rest))
      else t.setTicks (t.ticks.set index (.visiting rest))
  | _, _ => none

inductive ManagerAction where
  | start
  | stop
  | lifecycle (outcome : Outcome)
  | register (hook : Option LifecycleHook)
  | submit (submission : Submission)
  | push
  | tick
  | ticking (index : Nat) (answer : TickAnswer)
  | work (id : String) (answer : Answer)
  | event (id : String) (event : DeviceEvent)

/-- Every atomic action on a manager: a call of `start` or `stop` that gets the
lifecycle mutex and the steps of its owner, the registrar, the submissions, the
ticks, and the workers and events of the devices. -/
def Impl.next (m : Impl) : ManagerAction → Option Impl
  | .start =>
    if m.lifecycle.isSome then none
    else if m.running then some (m.finish .started)
    else some (m.startFrom m.ids)
  | .stop => if m.lifecycle.isSome then none else some (m.at .exchanging)
  | .lifecycle outcome => m.advance outcome
  | .register hook =>
    match m.lifecycle with
    | some (.starting .register id _) => some (m.setDevice id ((m.devices id).registrar hook))
    | _ => none
  | .submit submission => m.submit submission none
  | .push => m.push
  | .tick => some (m.setTicks (m.ticks ++ [.visiting (if m.running then m.ids else [])]))
  | .ticking index answer => m.ticking index answer
  | .work id answer => if id ∈ m.ids then m.act id (.work answer) else none
  | .event id event =>
    if id ∈ m.ids then some (m.setDevice id ((m.devices id).observe event)) else none

def anyOrder (_ : Impl) (_ : ManagerAction) : Prop := True

instance (m : Impl) (action : ManagerAction) : Decidable (anyOrder m action) :=
  inferInstanceAs (Decidable True)

/-- `DeviceDefinition` with the fields that a manager reads after construction. -/
structure DeviceDefinition where
  enabled : Bool
  parameters : ParameterMap

def Device.create (definition : DeviceDefinition) : Device :=
  ⟨Queue.fresh definition.enabled definition.parameters, none, 0, none, false, false, false,
    [], false, []⟩

/-- A manager as its constructor leaves it. The constructor refuses a second
device of one id; the order of the ids is that of the iteration. -/
def Impl.create (ids : List String) (nodup : ids.Nodup) (definition : String → DeviceDefinition) :
    Impl :=
  ⟨ids, nodup, fun id => Device.create (definition id), false, none, none, [], [], []⟩

def launch (hook : LifecycleHook) : List ManagerAction :=
  [.start, .lifecycle .returned, .lifecycle .returned, .register (some hook),
    .lifecycle .returned, .lifecycle .returned, .lifecycle .returned, .lifecycle .returned,
    .lifecycle .returned]

end DeviceManager.Manager
