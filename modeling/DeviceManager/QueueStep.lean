import DeviceManager.Queue

namespace DeviceManager.QueueStep

open Domain WorkerThread Queue

section

variable (q : DeviceQueue) (p p' : RequestPriority) (batches : List RequestBatch)

@[simp] theorem lane_urgent : q.lane .urgent = q.urgentQueue := rfl

@[simp] theorem lane_normal : q.lane .normal = q.normalQueue := rfl

@[simp] theorem setLane_enabled : (q.setLane p batches).enabled = q.enabled := by cases p <;> rfl

@[simp] theorem setLane_parameters : (q.setLane p batches).parameters = q.parameters := by
  cases p <;> rfl

@[simp] theorem setLane_parameterRevision :
    (q.setLane p batches).parameterRevision = q.parameterRevision := by cases p <;> rfl

@[simp] theorem setLane_lastTransition :
    (q.setLane p batches).lastTransition = q.lastTransition := by cases p <;> rfl

@[simp] theorem setLane_pendingParameterPatch :
    (q.setLane p batches).pendingParameterPatch = q.pendingParameterPatch := by cases p <;> rfl

@[simp] theorem setLane_running : (q.setLane p batches).running = q.running := by cases p <;> rfl

@[simp] theorem setLane_stopping : (q.setLane p batches).stopping = q.stopping := by cases p <;> rfl

@[simp] theorem setLane_worker : (q.setLane p batches).worker = q.worker := by cases p <;> rfl

@[simp] theorem setLane_log : (q.setLane p batches).log = q.log := by cases p <;> rfl

@[simp] theorem lane_setWorker (worker : Worker) : (q.setWorker worker).lane p = q.lane p := by
  cases p <;> rfl

@[simp] theorem lane_record (event : Event) : (q.record event).lane p = q.lane p := by
  cases p <;> rfl

@[simp] theorem lane_take (patch : ParameterMap) : (q.take patch).lane p = q.lane p := by
  cases p <;> rfl

@[simp] theorem lane_store (record : TransitionRecord) (ret : Return) :
    (q.store record ret).lane p = q.lane p := by cases p <;> rfl

@[simp] theorem lane_merge (patch : ParameterMap) : (q.merge patch p').lane p = q.lane p := by
  cases p <;> rfl

@[simp] theorem lane_dropPatch : q.dropPatch.lane p = q.lane p := by cases p <;> rfl

@[simp] theorem lane_accumulate (patch : ParameterMap) :
    (q.accumulate patch).lane p = q.lane p := by cases p <;> rfl

theorem lane_push (batch : RequestBatch) :
    (q.push p batch).lane p' = if p = p' then q.lane p' ++ [batch] else q.lane p' := by
  cases p <;> cases p' <;> rfl

theorem lane_pop (batch : RequestBatch) :
    (q.pop p batch batches).lane p' = if p = p' then batches else q.lane p' := by
  cases p <;> cases p' <;> rfl

end

def GateValue (patch : ParameterMap) : Prop :=
  patch.lookup deviceEnable = none ∨ ∃ value, patch.lookup deviceEnable = some (.bool value)

/-- Everything an action can do to a device, one constructor for each branch. -/
inductive Move (q : DeviceQueue) : Action → DeviceQueue → Prop
  | start (h : q.running = false) : Move q .start q.arm
  | startAgain (h : q.running = true) : Move q .start q
  | spawn (hw : q.worker = .absent) : Move q .spawn (q.setWorker .waiting)
  | stop (h : q.running = true) : Move q .stop q.clear
  | stopAgain (h : q.running = false) : Move q .stop q
  | join (hw : q.worker = .finished) : Move q .join (q.setWorker .absent)
  | refuse (requests : List TransitionRequest) (priority : RequestPriority)
      (h : q.running = false ∨ q.stopping = true) : Move q (.enqueue requests priority) q
  | push (requests : List TransitionRequest) (priority : RequestPriority)
      (hr : q.running = true) (hs : q.stopping = false) :
    Move q (.enqueue requests priority) (q.push priority ⟨requests, none, ∅⟩)
  | refusePatch (patch : ParameterMap) (priority : RequestPriority)
      (h : (q.enqueueParameterPatch patch priority).1.accepted = false) :
    Move q (.patch patch priority) q
  | drop (patch : ParameterMap) (priority : RequestPriority)
      (hr : q.running = true) (hs : q.stopping = false)
      (he : (q.merge patch priority).enabled = false) (hg : GateValue patch) :
    Move q (.patch patch priority) (q.merge patch priority).dropPatch
  | lone (patch : ParameterMap) (priority : RequestPriority)
      (hr : q.running = true) (hs : q.stopping = false)
      (he : (q.merge patch priority).enabled = true) (hl : loneEnable patch = true)
      (hg : GateValue patch) :
    Move q (.patch patch priority) (q.merge patch priority)
  | queuePatch (patch : ParameterMap) (priority : RequestPriority)
      (hr : q.running = true) (hs : q.stopping = false)
      (he : (q.merge patch priority).enabled = true) (hl : loneEnable patch = false)
      (hg : GateValue patch) :
    Move q (.patch patch priority) ((q.merge patch priority).queuePatch patch priority)
  | finalize (hw : q.worker = .waiting) (hs : q.stopping = true) :
    Move q (.work .go) (q.setWorker .finalizing)
  | dequeue (priority : RequestPriority) (batch : RequestBatch) (rest : List RequestBatch)
      (hw : q.worker = .waiting) (hs : q.stopping = false) (hl : q.lane priority = batch :: rest)
      (hu : priority = .normal → q.urgentQueue = []) :
    Move q (.work .go) (q.pop priority batch rest)
  | supersede (revision : UInt64) (patch : ParameterMap)
      (hw : q.worker = .examining revision patch) (h : revision ≠ q.parameterRevision) :
    Move q (.work .go) (q.setWorker .superseded)
  | take (patch : ParameterMap) (hw : q.worker = .examining q.parameterRevision patch) :
    Move q (.work .go) (q.take patch)
  | call (request : TransitionRequest) (ret : Return) (hw : q.worker = .calling request ret) :
    Move q (.work .go) ((q.setWorker (.awaiting request ret)).record (.requested request))
  | store (record : TransitionRecord) (ret : Return) (hw : q.worker = .storing record ret) :
    Move q (.work .go) (q.store record ret)
  | read (event : Reply LifecycleState → Event) (reply : Reply LifecycleState)
      (hw : q.worker.reads = some event) :
    Move q (.work (.state reply))
      ((q.setWorker (q.worker.afterState reply)).record (event reply))
  | reply (request : TransitionRequest) (ret : Return) (reply : Reply TransitionOutcome)
      (hw : q.worker = .awaiting request ret) :
    Move q (.work (.outcome reply))
      ((q.setWorker (afterOutcome request ret reply)).record (.replied reply))
  | plan (state : LifecycleState) (parameters patch : ParameterMap)
      (reply : Reply (List TransitionRequest))
      (hw : q.worker = .transitions state parameters patch) :
    Move q (.work (.plan reply))
      ((q.setWorker (afterPlan state parameters patch reply)).record
        (.planned state parameters patch reply))

theorem enqueueParameterPatch_cases (q : DeviceQueue) (patch : ParameterMap)
    (priority : RequestPriority) :
    ((q.enqueueParameterPatch patch priority).1.accepted = false ∧
      (q.enqueueParameterPatch patch priority).2 = q) ∨
    (q.running = true ∧ q.stopping = false ∧ GateValue patch ∧
      q.enqueueParameterPatch patch priority = (accepted, q.acceptPatch patch priority)) := by
  unfold DeviceQueue.enqueueParameterPatch
  by_cases hacc : (!q.running || q.stopping) = true
  · exact Or.inl (by simp [hacc, notRunning])
  · have hrs : q.running = true ∧ q.stopping = false := by simpa using hacc
    rw [if_neg hacc]
    split
    · next hn => exact Or.inr ⟨hrs.1, hrs.2, Or.inl hn, rfl⟩
    · next value hv => exact Or.inr ⟨hrs.1, hrs.2, Or.inr ⟨value, hv⟩, rfl⟩
    · exact Or.inl ⟨rfl, rfl⟩

theorem patch_move (q : DeviceQueue) (patch : ParameterMap) (priority : RequestPriority) :
    Move q (.patch patch priority) (q.enqueueParameterPatch patch priority).2 := by
  obtain ⟨ha, hq⟩ | ⟨hr, hs, hg, hq⟩ := enqueueParameterPatch_cases q patch priority
  · rw [hq]
    exact Move.refusePatch patch priority ha
  · rw [hq]
    simp only [DeviceQueue.acceptPatch]
    cases hen : (q.merge patch priority).enabled with
    | false => exact Move.drop patch priority hr hs hen hg
    | true =>
      cases hl : loneEnable patch with
      | true => exact Move.lone patch priority hr hs hen hl hg
      | false => exact Move.queuePatch patch priority hr hs hen hl hg

theorem dequeue_move {q t : DeviceQueue} (hw : q.worker = .waiting) (h : q.dequeue = some t) :
    Move q (.work .go) t := by
  unfold DeviceQueue.dequeue at h
  split at h
  · next hs => exact Option.some.inj h ▸ Move.finalize hw hs
  · next hs =>
    have hs' : q.stopping = false := by simpa using hs
    split at h
    · next batch rest hu =>
      exact Option.some.inj h ▸ Move.dequeue .urgent batch rest hw hs' hu (by simp)
    · next batch rest hu hn =>
      exact Option.some.inj h ▸ Move.dequeue .normal batch rest hw hs' hn fun _ => hu
    · cases h

theorem work_move {q t : DeviceQueue} {answer : Answer} (h : q.work answer = some t) :
    Move q (.work answer) t := by
  unfold DeviceQueue.work at h
  split at h
  · next hw => exact dequeue_move hw h
  · next revision patch hw =>
    obtain rfl := Option.some.inj h
    by_cases hr : revision = q.parameterRevision
    · subst hr
      simpa [DeviceQueue.examine] using Move.take patch hw
    · simpa [DeviceQueue.examine, hr] using Move.supersede revision patch hw hr
  · next request ret hw => exact Option.some.inj h ▸ Move.call request ret hw
  · next record ret hw => exact Option.some.inj h ▸ Move.store record ret hw
  · next request ret reply hw => exact Option.some.inj h ▸ Move.reply request ret reply hw
  · next state parameters patch reply hw =>
    exact Option.some.inj h ▸ Move.plan state parameters patch reply hw
  · next reply =>
    obtain ⟨event, he, rfl⟩ := Option.map_eq_some_iff.mp h
    exact Move.read event reply he
  · cases h

/-- The inversion lemma of the machine: every step is one of the moves. -/
theorem next_move {q t : DeviceQueue} {action : Action} (h : next q action = some t) :
    Move q action t := by
  cases action with
  | start =>
    obtain rfl := Option.some.inj h
    cases hr : q.running with
    | false => simpa [DeviceQueue.start, hr] using Move.start hr
    | true => simpa [DeviceQueue.start, hr] using Move.startAgain hr
  | spawn =>
    simp only [next, Option.ite_none_right_eq_some, Option.some.injEq] at h
    exact h.2 ▸ Move.spawn h.1
  | stop =>
    obtain rfl := Option.some.inj h
    cases hr : q.running with
    | false => simpa [DeviceQueue.stop, hr] using Move.stopAgain hr
    | true => simpa [DeviceQueue.stop, hr] using Move.stop hr
  | join =>
    simp only [next, Option.ite_none_right_eq_some, Option.some.injEq] at h
    exact h.2 ▸ Move.join h.1
  | enqueue requests priority =>
    obtain rfl := Option.some.inj h
    by_cases hacc : (!q.running || q.stopping) = true
    · have hd : q.running = false ∨ q.stopping = true := by simpa using hacc
      simpa [DeviceQueue.enqueue, hacc] using Move.refuse requests priority hd
    · have hd : q.running = true ∧ q.stopping = false := by simpa using hacc
      simpa [DeviceQueue.enqueue, hd.1, hd.2] using Move.push requests priority hd.1 hd.2
  | patch patch priority => exact Option.some.inj h ▸ patch_move q patch priority
  | work answer => exact work_move h

theorem next_enqueue {q : DeviceQueue} (hr : q.running = true) (hs : q.stopping = false)
    (requests : List TransitionRequest) (priority : RequestPriority) :
    next q (.enqueue requests priority) = some (q.push priority ⟨requests, none, ∅⟩) := by
  simp [next, DeviceQueue.enqueue, hr, hs]

theorem serving_flags {q t : DeviceQueue} {action : Action} (hs : serving q action)
    (h : next q action = some t) : t.running = q.running ∧ t.stopping = q.stopping := by
  cases next_move h with
  | start | startAgain | stop | stopAgain | join => exact hs.elim
  | _ => simp [DeviceQueue.queuePatch]

theorem accepted_iff (q : DeviceQueue) (requests : List TransitionRequest)
    (priority : RequestPriority) :
    (q.enqueue requests priority).1.accepted = true ↔ q.running = true ∧ q.stopping = false := by
  unfold DeviceQueue.enqueue
  split_ifs with hclosed
  · refine iff_of_false (by simp [notRunning]) fun hopen => ?_
    simp [hopen.1, hopen.2] at hclosed
  · exact iff_of_true rfl (by simpa using hclosed)

theorem patch_accepted {q : DeviceQueue} {patch : ParameterMap} (priority : RequestPriority)
    (hr : q.running = true) (hs : q.stopping = false) (hg : GateValue patch) :
    (q.enqueueParameterPatch patch priority).1.accepted = true := by
  unfold DeviceQueue.enqueueParameterPatch
  obtain hnone | ⟨value, hvalue⟩ := hg
  · simp [hr, hs, hnone, accepted]
  · simp [hr, hs, hvalue, accepted]

def patchLog : List Event → List (ParameterMap × RequestPriority)
  | [] => []
  | .patched patch priority :: h => patchLog h ++ [(patch, priority)]
  | _ :: h => patchLog h

def acceptedPatch (q : DeviceQueue) : Action → List (ParameterMap × RequestPriority)
  | .patch patch priority =>
    if (q.enqueueParameterPatch patch priority).1.accepted = true then [(patch, priority)] else []
  | _ => []

/-- The patches in the history are those whose callers are told that they are accepted. -/
def PatchesAnswered (q : DeviceQueue) : Prop :=
  ∀ action t, next q action = some t → patchLog t.log = patchLog q.log ++ acceptedPatch q action

theorem patchLog_read {worker : Worker} {event : Reply LifecycleState → Event}
    (h : worker.reads = some event) (reply : Reply LifecycleState) (log : List Event) :
    patchLog (event reply :: log) = patchLog log := by
  cases worker <;> cases h <;> rfl

theorem patches_answered (q : DeviceQueue) : PatchesAnswered q := by
  intro action t hn
  cases next_move hn with
  | refusePatch patch priority h => simp [acceptedPatch, h]
  | drop patch priority hr hs he hg =>
    simp [acceptedPatch, patch_accepted priority hr hs hg, patchLog]
  | lone patch priority hr hs he hl hg =>
    simp [acceptedPatch, patch_accepted priority hr hs hg, patchLog]
  | queuePatch patch priority hr hs he hl hg =>
    simp [acceptedPatch, patch_accepted priority hr hs hg, patchLog, DeviceQueue.queuePatch]
  | read event reply hw => simp [acceptedPatch, patchLog_read hw reply]
  | _ => simp [acceptedPatch, patchLog]

end DeviceManager.QueueStep
