import DeviceManager.Domain

namespace DeviceManager.WorkerThread

open Domain

structure RequestBatch where
  requests : List TransitionRequest
  parameterRevision : Option UInt64
  parameterPatch : ParameterMap
  deriving DecidableEq

/-- Where `execute` returns to: the loop over the rest of a batch or of a
planned list, or the end of `finalize`. -/
inductive Return where
  | next (rest : List TransitionRequest)
  | exit
  deriving DecidableEq

/-- The worker thread between two atomic actions. Each constructor is the point
before the next lock, runtime call or thread event of `DeviceQueue::run`,
`execute_parameter_patch`, `execute` and `finalize`, with the locals still in use. -/
inductive Worker where
  | absent
  | waiting
  | examining (revision : UInt64) (patch : ParameterMap)
  | superseded
  | planning (parameters patch : ParameterMap)
  | transitions (state : LifecycleState) (parameters patch : ParameterMap)
  | reading (request : TransitionRequest) (ret : Return)
  | calling (request : TransitionRequest) (ret : Return)
  | awaiting (request : TransitionRequest) (ret : Return)
  | checking (request : TransitionRequest) (outcome : TransitionOutcome) (ret : Return)
  | recovering (request : TransitionRequest) (message : String) (ret : Return)
  | storing (record : TransitionRecord) (ret : Return)
  | finalizing
  | finished
  | terminated
  deriving DecidableEq

/-- Continue after `execute` returned `succeeded`. -/
def Return.resume : Return → Bool → Worker
  | .next (request :: rest), true => .reading request (.next rest)
  | .next _, _ => .waiting
  | .exit, _ => .finished

/-- The branch of `run` taken with a dequeued batch. -/
def enter (batch : RequestBatch) : Worker :=
  match batch.parameterRevision with
  | some revision => .examining revision batch.parameterPatch
  | none => (Return.next batch.requests).resume true

def errorRecord (message : String) : TransitionRecord :=
  ⟨emptyRequest, .error, false, .unknown, message⟩

def discardedRecord (request : TransitionRequest) (state : LifecycleState) (message : String) :
    TransitionRecord :=
  ⟨request, .failure, true, state, message⟩

def staleRecord (request : TransitionRequest) (state : LifecycleState) : TransitionRecord :=
  ⟨request, .failure, true, state, "discarded because the source state is stale"⟩

/-- The record after both calls returned, with a reported success that missed
the target turned into a failure. -/
def outcomeRecord (request : TransitionRequest) (outcome : TransitionOutcome)
    (state : LifecycleState) : TransitionRecord :=
  if outcome.result = .success ∧ state ≠ request.targetState then
    ⟨request, .failure, false, state, "runtime reported success without reaching the target state"⟩
  else ⟨request, outcome.result, false, state, outcome.message⟩

/-- The local `succeeded` of `execute`. -/
def succeeded (record : TransitionRecord) : Bool :=
  decide (record.result = .success ∧ record.actualState = record.request.targetState)

/-- The continuation of the worker when `state()` returns. -/
def Worker.onState : Worker → LifecycleState → Worker
  | .superseded, state =>
    .storing (discardedRecord emptyRequest state "superseded parameter patch") (.next [])
  | .planning parameters patch, state => .transitions state parameters patch
  | .reading request ret, state =>
    if state ≠ request.fromState then .storing (staleRecord request state) ret
    else .calling request ret
  | .checking request outcome ret, state => .storing (outcomeRecord request outcome state) ret
  | .recovering request message ret, state => .storing ⟨request, .error, false, state, message⟩ ret
  | .finalizing, state =>
    if state = .finalized then .finished else .reading ⟨state, .finalized, ∅⟩ .exit
  | worker, _ => worker

/-- The catch clauses around the runtime call the worker is in, if it is in a
`try` block. `safe_state` answers `UNKNOWN`. -/
def Worker.handler : Worker → Option (Thrown → Worker)
  | .superseded => some fun _ => Worker.onState .superseded .unknown
  | .planning _ _ => some fun thrown =>
    .storing (errorRecord (thrown.message "runtime state query threw an unknown exception"))
      (.next [])
  | .transitions _ _ _ => some fun thrown =>
    .storing (errorRecord
      (thrown.message "runtime parameter transition planning threw an unknown exception")) (.next [])
  | .reading request ret => some fun thrown =>
    .storing ⟨request, .error, false, .unknown,
      thrown.message "runtime state query threw an unknown exception"⟩ ret
  | .awaiting request ret => some fun thrown =>
    .recovering request (thrown.message "runtime transition threw an unknown exception") ret
  | .checking request _ ret => some fun thrown =>
    .recovering request (thrown.message "runtime transition threw an unknown exception") ret
  | .recovering request message ret => some fun _ =>
    Worker.onState (.recovering request message ret) .unknown
  | .finalizing => some fun _ => Worker.onState .finalizing .unknown
  | _ => none

/-- An exception that no clause catches leaves the thread function. -/
def Worker.raise (worker : Worker) (thrown : Thrown) : Worker :=
  match worker.handler with
  | some clause => clause thrown
  | none => .terminated

/-- The observable history of one device, kept newest first. -/
inductive Event where
  | started (parameters : ParameterMap)
  | stopped
  | queued (priority : RequestPriority) (batch : RequestBatch)
  | patched (patch : ParameterMap) (priority : RequestPriority)
  | dequeued (priority : RequestPriority) (batch : RequestBatch)
  | taken (parameters patch : ParameterMap)
  | planRead (reply : Reply LifecycleState)
  | planned (state : LifecycleState) (parameters patch : ParameterMap)
      (reply : Reply (List TransitionRequest))
  | sourceRead (request : TransitionRequest) (reply : Reply LifecycleState)
  | requested (request : TransitionRequest)
  | replied (reply : Reply TransitionOutcome)
  | targetRead (reply : Reply LifecycleState)
  | safeRead (reply : Reply LifecycleState)
  | recorded (record : TransitionRecord)
  | finalRead (reply : Reply LifecycleState)

/-- The event of a `state()` call, where the worker is about to make one. -/
def Worker.reads : Worker → Option (Reply LifecycleState → Event)
  | .superseded => some .safeRead
  | .planning _ _ => some .planRead
  | .reading request _ => some (.sourceRead request)
  | .checking _ _ _ => some .targetRead
  | .recovering _ _ _ => some .safeRead
  | .finalizing => some .finalRead
  | _ => none

def Event.isRead : Event → Bool
  | .planRead _ | .sourceRead _ _ | .targetRead _ | .safeRead _ | .finalRead _ => true
  | _ => false

theorem isRead_reads {worker : Worker} {event : Reply LifecycleState → Event}
    (h : worker.reads = some event) (reply : Reply LifecycleState) :
    (event reply).isRead = true := by
  cases worker <;> simp only [Worker.reads, Option.some.injEq, reduceCtorEq] at h <;> subst h <;> rfl

def Worker.afterState (worker : Worker) : Reply LifecycleState → Worker
  | .ok state => worker.onState state
  | .error thrown => worker.raise thrown

theorem reading_ok {request : TransitionRequest} {state : LifecycleState} (ret : Return)
    (h : state = request.fromState) :
    (Worker.reading request ret).afterState (.ok state) = .calling request ret := by
  simp [Worker.afterState, Worker.onState, h]

theorem reading_stale {request : TransitionRequest} {state : LifecycleState} (ret : Return)
    (h : state ≠ request.fromState) :
    (Worker.reading request ret).afterState (.ok state) =
      .storing (staleRecord request state) ret := by
  simp [Worker.afterState, Worker.onState, h]

theorem finalizing_done : Worker.finalizing.afterState (.ok .finalized) = .finished := rfl

theorem finalizing_ok {state : LifecycleState} (h : state ≠ .finalized) :
    Worker.finalizing.afterState (.ok state) = .reading ⟨state, .finalized, ∅⟩ .exit := by
  simp [Worker.afterState, Worker.onState, h]

/-- The first read of `execute` ends before `request_transition`, or with a record. -/
theorem reading_next (request : TransitionRequest) (ret : Return) (reply : Reply LifecycleState) :
    (Worker.reading request ret).afterState reply = .calling request ret ∨
      ∃ record, record.request = request ∧ succeeded record = false ∧
        (Worker.reading request ret).afterState reply = .storing record ret := by
  cases reply with
  | error thrown => exact Or.inr ⟨_, rfl, by simp [succeeded], rfl⟩
  | ok state =>
    by_cases hs : state = request.fromState
    · exact Or.inl (reading_ok ret hs)
    · exact Or.inr ⟨_, rfl, by simp [succeeded, staleRecord], reading_stale ret hs⟩

theorem finalizing_next (reply : Reply LifecycleState) :
    Worker.finalizing.afterState reply = .finished ∨
      ∃ state, Worker.finalizing.afterState reply = .reading ⟨state, .finalized, ∅⟩ .exit := by
  cases reply with
  | error thrown => exact Or.inr ⟨_, rfl⟩
  | ok state =>
    by_cases hs : state = .finalized
    · rw [hs]
      exact Or.inl finalizing_done
    · exact Or.inr ⟨state, finalizing_ok hs⟩

/-- Where `execute` returns to is the next request, the loop of `run` or the end. -/
theorem resume_elim {P : Worker → Prop} (ret : Return) (ok : Bool) (hw : P .waiting)
    (hf : P .finished) (hr : ∀ request rest, ret = .next (request :: rest) → ok = true →
      P (.reading request (.next rest))) : P (ret.resume ok) := by
  cases ret with
  | exit => exact hf
  | next rest =>
    cases rest with
    | nil => exact hw
    | cons request rest =>
      cases ok with
      | false => exact hw
      | true => exact hr request rest rfl rfl

theorem enter_elim {P : Worker → Prop} (batch : RequestBatch)
    (he : ∀ revision, batch.parameterRevision = some revision →
      P (.examining revision batch.parameterPatch))
    (hr : batch.parameterRevision = none → P ((Return.next batch.requests).resume true)) :
    P (enter batch) := by
  unfold enter
  cases hb : batch.parameterRevision with
  | some revision => exact he revision hb
  | none => exact hr hb

/-- The continuation of `execute` after `request_transition`. -/
def afterOutcome (request : TransitionRequest) (ret : Return) : Reply TransitionOutcome → Worker
  | .ok outcome => .checking request outcome ret
  | .error thrown => (Worker.awaiting request ret).raise thrown

/-- The continuation of `execute_parameter_patch` after `parameter_transitions`. -/
def afterPlan (state : LifecycleState) (parameters patch : ParameterMap) :
    Reply (List TransitionRequest) → Worker
  | .ok requests => (Return.next requests).resume true
  | .error thrown => (Worker.transitions state parameters patch).raise thrown

@[simp] theorem resume_false (rest : List TransitionRequest) :
    (Return.next rest).resume false = .waiting := by cases rest <;> rfl

@[simp] theorem resume_nil (ok : Bool) : (Return.next []).resume ok = .waiting := by
  cases ok <;> rfl

theorem succeeded_iff_outcome (request : TransitionRequest) (outcome : TransitionOutcome)
    (state : LifecycleState) :
    (outcomeRecord request outcome state).result = .success ↔
      outcome.result = .success ∧ state = request.targetState := by
  unfold outcomeRecord
  split_ifs with h
  · simp [h.2]
  · constructor
    · intro hr
      exact ⟨hr, by_contra fun hs => h ⟨hr, hs⟩⟩
    · exact fun hr => hr.1

@[simp] theorem outcomeRecord_request (request : TransitionRequest) (outcome : TransitionOutcome)
    (state : LifecycleState) : (outcomeRecord request outcome state).request = request := by
  unfold outcomeRecord
  split_ifs <;> rfl

@[simp] theorem outcomeRecord_discarded (request : TransitionRequest) (outcome : TransitionOutcome)
    (state : LifecycleState) : (outcomeRecord request outcome state).discarded = false := by
  unfold outcomeRecord
  split_ifs <;> rfl

end DeviceManager.WorkerThread
