import DeviceManager.Transition
import DeviceManager.WorkerThread
import Mathlib.Tactic.Simps.Basic

namespace DeviceManager.Queue

open Domain WorkerThread Transition

/-- `DeviceQueue` with the fields of its `Device` that it reads and writes.
`log` is the history of the device; no function of the source reads it. -/
structure DeviceQueue where
  enabled : Bool
  parameters : ParameterMap
  parameterRevision : UInt64
  lastTransition : Option TransitionRecord
  urgentQueue : List RequestBatch
  normalQueue : List RequestBatch
  pendingParameterPatch : ParameterMap
  running : Bool
  stopping : Bool
  worker : Worker
  log : List Event

def DeviceQueue.lane (q : DeviceQueue) : RequestPriority → List RequestBatch
  | .urgent => q.urgentQueue
  | .normal => q.normalQueue

def DeviceQueue.setLane (q : DeviceQueue) : RequestPriority → List RequestBatch → DeviceQueue
  | .urgent, batches => { q with urgentQueue := batches }
  | .normal, batches => { q with normalQueue := batches }

@[simps] def DeviceQueue.setWorker (q : DeviceQueue) (worker : Worker) : DeviceQueue :=
  { q with worker := worker }

@[simps] def DeviceQueue.record (q : DeviceQueue) (event : Event) : DeviceQueue :=
  { q with log := event :: q.log }

/-- `queue.push_back(batch)` on the queue of the priority. -/
@[simps!] def DeviceQueue.push (q : DeviceQueue) (priority : RequestPriority)
    (batch : RequestBatch) : DeviceQueue :=
  (q.setLane priority (q.lane priority ++ [batch])).record (.queued priority batch)

@[simps] def DeviceQueue.arm (q : DeviceQueue) : DeviceQueue :=
  { q with
    stopping := false
    running := true
    log := .started q.parameters :: q.log }

@[simps] def DeviceQueue.clear (q : DeviceQueue) : DeviceQueue :=
  { q with
    stopping := true
    running := false
    urgentQueue := []
    normalQueue := []
    pendingParameterPatch := ∅
    log := .stopped :: q.log }

/-- The critical section of `DeviceQueue::start`. -/
def DeviceQueue.start (q : DeviceQueue) : DeviceQueue := if q.running then q else q.arm

/-- The critical section of `DeviceQueue::stop`. -/
def DeviceQueue.stop (q : DeviceQueue) : DeviceQueue := if q.running then q.clear else q

def notRunning : SubmissionResult := ⟨false, "device manager is not running"⟩

def accepted : SubmissionResult := ⟨true, "accepted"⟩

def DeviceQueue.enqueue (q : DeviceQueue) (requests : List TransitionRequest)
    (priority : RequestPriority) : SubmissionResult × DeviceQueue :=
  if !q.running || q.stopping then (notRunning, q)
  else (accepted, q.push priority ⟨requests, none, ∅⟩)

@[simps] def DeviceQueue.merge (q : DeviceQueue) (patch : ParameterMap)
    (priority : RequestPriority) : DeviceQueue :=
  { q with
    parameters := insertOrAssign q.parameters patch
    enabled := match patch.lookup deviceEnable with
      | some (.bool value) => value
      | _ => q.enabled
    log := .patched patch priority :: q.log }

/-- The branch taken when the device is disabled after the merge. -/
@[simps] def DeviceQueue.dropPatch (q : DeviceQueue) : DeviceQueue :=
  { q with
    parameterRevision := q.parameterRevision + 1
    pendingParameterPatch := ∅ }

@[simps] def DeviceQueue.accumulate (q : DeviceQueue) (patch : ParameterMap) : DeviceQueue :=
  { q with
    parameterRevision := q.parameterRevision + 1
    pendingParameterPatch := insertOrAssign q.pendingParameterPatch patch }

/-- The last branch: a new revision carries the accumulated patch. -/
def DeviceQueue.queuePatch (q : DeviceQueue) (patch : ParameterMap) (priority : RequestPriority) :
    DeviceQueue :=
  (q.accumulate patch).push priority
    ⟨[], some (q.parameterRevision + 1), insertOrAssign q.pendingParameterPatch patch⟩

/-- The critical section on the observation fields. -/
def DeviceQueue.acceptPatch (q : DeviceQueue) (patch : ParameterMap) (priority : RequestPriority) :
    DeviceQueue :=
  let merged := q.merge patch priority
  if !merged.enabled then merged.dropPatch
  else if loneEnable patch then merged
  else merged.queuePatch patch priority

def DeviceQueue.enqueueParameterPatch (q : DeviceQueue) (patch : ParameterMap)
    (priority : RequestPriority) : SubmissionResult × DeviceQueue :=
  if !q.running || q.stopping then (notRunning, q)
  else
    match patch.lookup deviceEnable with
    | none | some (.bool _) => (accepted, q.acceptPatch patch priority)
    | some _ => (⟨false, "device.enable must be a boolean"⟩, q)

/-- What the step of the worker gets: nothing, or the result of its runtime call. -/
inductive Answer where
  | go
  | state (reply : Reply LifecycleState)
  | outcome (reply : Reply TransitionOutcome)
  | plan (reply : Reply (List TransitionRequest))

/-- `queue.front()` and `queue.pop_front()`, with `rest` behind the front. -/
@[simps!] def DeviceQueue.pop (q : DeviceQueue) (priority : RequestPriority) (batch : RequestBatch)
    (rest : List RequestBatch) : DeviceQueue :=
  ((q.setLane priority rest).setWorker (enter batch)).record (.dequeued priority batch)

/-- The critical section of `run`, once its wait condition holds. -/
def DeviceQueue.dequeue (q : DeviceQueue) : Option DeviceQueue :=
  if q.stopping then some (q.setWorker .finalizing)
  else
    match q.urgentQueue, q.normalQueue with
    | batch :: rest, _ => some (q.pop .urgent batch rest)
    | [], batch :: rest => some (q.pop .normal batch rest)
    | [], [] => none

@[simps] def DeviceQueue.take (q : DeviceQueue) (patch : ParameterMap) : DeviceQueue :=
  { q with
    pendingParameterPatch := ∅
    worker := .planning q.parameters patch
    log := .taken q.parameters patch :: q.log }

/-- The critical section of `execute_parameter_patch`. -/
def DeviceQueue.examine (q : DeviceQueue) (revision : UInt64) (patch : ParameterMap) :
    DeviceQueue :=
  if revision ≠ q.parameterRevision then q.setWorker .superseded else q.take patch

/-- The critical section in which a record becomes the last transition. -/
@[simps] def DeviceQueue.store (q : DeviceQueue) (record : TransitionRecord) (ret : Return) :
    DeviceQueue :=
  { q with
    lastTransition := some record
    worker := ret.resume (succeeded record)
    log := .recorded record :: q.log }

def DeviceQueue.work (q : DeviceQueue) (answer : Answer) : Option DeviceQueue :=
  match q.worker, answer with
  | .waiting, .go => q.dequeue
  | .examining revision patch, .go => some (q.examine revision patch)
  | .calling request ret, .go =>
    some ((q.setWorker (.awaiting request ret)).record (.requested request))
  | .storing record ret, .go => some (q.store record ret)
  | .awaiting request ret, .outcome reply =>
    some ((q.setWorker (afterOutcome request ret reply)).record (.replied reply))
  | .transitions state parameters patch, .plan reply =>
    some ((q.setWorker (afterPlan state parameters patch reply)).record
      (.planned state parameters patch reply))
  | worker, .state reply =>
    worker.reads.map fun event => (q.setWorker (worker.afterState reply)).record (event reply)
  | _, _ => none

inductive Action where
  | start
  | spawn
  | stop
  | join
  | enqueue (requests : List TransitionRequest) (priority : RequestPriority)
  | patch (patch : ParameterMap) (priority : RequestPriority)
  | work (answer : Answer)

/-- Every atomic action on a device: the critical sections of `start`, `stop`
and of the two submissions, the creation and the join of the thread, the worker. -/
def next (q : DeviceQueue) : Action → Option DeviceQueue
  | .start => some q.start
  | .spawn => if q.worker = .absent then some (q.setWorker .waiting) else none
  | .stop => some q.stop
  | .join => if q.worker = .finished then some (q.setWorker .absent) else none
  | .enqueue requests priority => some (q.enqueue requests priority).2
  | .patch patch priority => some (q.enqueueParameterPatch patch priority).2
  | .work answer => q.work answer

/-- The actions between a start and the next stop. -/
def serving (_ : DeviceQueue) : Action → Prop
  | .start | .stop | .join => False
  | _ => True

instance (q : DeviceQueue) : ∀ action, Decidable (serving q action)
  | .start | .stop | .join => inferInstanceAs (Decidable False)
  | .spawn | .enqueue _ _ | .patch _ _ | .work _ => inferInstanceAs (Decidable True)

def free (_ : DeviceQueue) (_ : Action) : Prop := True

instance (q : DeviceQueue) (action : Action) : Decidable (free q action) :=
  inferInstanceAs (Decidable True)

/-- A device right after the critical section of `start`. -/
structure Started (q : DeviceQueue) : Prop where
  running : q.running = true
  stopping : q.stopping = false
  urgent : q.urgentQueue = []
  normal : q.normalQueue = []
  pending : q.pendingParameterPatch = ∅
  worker : q.worker = .absent
  log : ∃ older, q.log = .started q.parameters :: older

def fresh (enabled : Bool) (parameters : ParameterMap) : DeviceQueue :=
  ⟨enabled, parameters, 0, none, [], [], ∅, false, false, .absent, []⟩

theorem started_start (enabled : Bool) (parameters : ParameterMap) :
    Started (fresh enabled parameters).start :=
  ⟨rfl, rfl, rfl, rfl, rfl, rfl, [], rfl⟩

end DeviceManager.Queue
