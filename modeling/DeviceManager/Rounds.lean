import DeviceManager.Linearization

namespace DeviceManager.Rounds

open Domain WorkerThread Queue QueueStep Log Transition History Lanes Linearization

def given : List Event → List ParameterMap
  | [] => []
  | .patched patch _ :: h => patch :: given h
  | _ :: h => given h

def From (patches : List ParameterMap) (map : ParameterMap) : Prop :=
  ∀ key value, map.lookup key = some value → ∃ patch ∈ patches, patch.lookup key = some value

def Own (event : Event) (older : List Event) : Prop :=
  ∀ p batch, event = .queued p batch → From (given (sinceStop older)) batch.parameterPatch

theorem from_empty (patches : List ParameterMap) : From patches ∅ := by
  intro key value h
  cases h

theorem from_insertOrAssign {patches : List ParameterMap} {map patch : ParameterMap}
    (h : From patches map) : From (patch :: patches) (insertOrAssign map patch) := by
  intro key value hv
  by_cases hk : key ∈ patch
  · rw [lookup_insertOrAssign_patch hk] at hv
    exact ⟨patch, List.mem_cons_self .., hv⟩
  · rw [lookup_insertOrAssign_map hk] at hv
    obtain ⟨older, hm, ho⟩ := h key value hv
    exact ⟨older, List.mem_cons_of_mem _ hm, ho⟩

theorem given_read {event : Event} (h : event.isRead = true) (older : List Event) :
    given (event :: older) = given older := by
  cases event with
  | planRead | sourceRead | targetRead | safeRead | finalRead => rfl
  | _ => cases h

theorem own_other {event : Event} (older : List Event) (h : ∀ p batch, event ≠ .queued p batch) :
    Own event older := fun p batch he => (h p batch he).elim

theorem own_read {event : Event} (h : event.isRead = true) (older : List Event) :
    Own event older := by
  apply own_other
  rintro p batch rfl
  cases h

structure Renewed (q : DeviceQueue) : Prop where
  lined : Lined sinceStop q
  pending : From (given (sinceStop q.log)) q.pendingParameterPatch
  own : Always Own q.log
  idle : q.running = false → q.urgentQueue = [] ∧ q.normalQueue = [] ∧ q.pendingParameterPatch = ∅

theorem renewed_fresh (enabled : Bool) (parameters : ParameterMap) :
    Renewed (fresh enabled parameters) :=
  ⟨lined_empty rfl rfl rfl, from_empty _, trivial, fun _ => ⟨rfl, rfl, rfl⟩⟩

theorem renewed_arm {q : DeviceQueue} (h : Renewed q) : Renewed q.arm := by
  refine ⟨⟨?_, ?_⟩, ?_, ?_, fun hr => nomatch hr⟩
  · intro p
    have hlane : q.arm.lane p = q.lane p := by cases p <;> rfl
    simpa [hlane, isStop, ops] using h.lined.lanes p
  · simpa [isStop, ops] using h.lined.orderly
  · simpa [isStop, given] using h.pending
  · exact ⟨own_other _ (by simp), h.own⟩

theorem renewed_clear {q : DeviceQueue} (h : Renewed q) : Renewed q.clear :=
  ⟨lined_empty (by simp [isStop]) rfl rfl, from_empty _, ⟨own_other _ (by simp), h.own⟩,
    fun _ => ⟨rfl, rfl, rfl⟩⟩

theorem renewed_push {q : DeviceQueue} (h : Renewed q) (hr : q.running = true)
    (p : RequestPriority) {batch : RequestBatch}
    (hb : From (given (sinceStop q.log)) batch.parameterPatch) : Renewed (q.push p batch) := by
  refine ⟨lined_push window_sinceStop h.lined p batch, ?_, ?_, ?_⟩
  · simpa [isStop, given] using h.pending
  · refine ⟨?_, by simpa using h.own⟩
    intro p' batch' he
    obtain ⟨rfl, rfl⟩ := Event.queued.inj he
    simpa using hb
  · intro hr'
    simp [hr] at hr'

/-- A step that is no queue operation and changes the pending map at most to nothing. -/
theorem renewed_event {q t : DeviceQueue} (h : Renewed q) {event : Event}
    (hlog : t.log = event :: q.log) (hb : boundary event = false)
    (hlane : ∀ p, t.lane p = q.lane p)
    (hops : ops (event :: sinceStop q.log) = ops (sinceStop q.log))
    (hgiven : given (event :: sinceStop q.log) = given (sinceStop q.log))
    (hown : Own event q.log) (hr : t.running = q.running)
    (hp : t.pendingParameterPatch = q.pendingParameterPatch ∨ t.pendingParameterPatch = ∅) :
    Renewed t := by
  have hsince : sinceStop t.log = event :: sinceStop q.log := by
    rw [hlog, window_sinceStop _ _ hb]
  refine ⟨lined_event window_sinceStop h.lined hlog hb hlane hops, ?_, ?_, ?_⟩
  · rw [hsince, hgiven]
    obtain hp | hp := hp
    · exact hp ▸ h.pending
    · exact hp ▸ from_empty _
  · rw [hlog]
    exact ⟨hown, h.own⟩
  · intro hrun
    obtain ⟨hu, hn, hpend⟩ := h.idle (hr ▸ hrun)
    refine ⟨(hlane .urgent).trans hu, (hlane .normal).trans hn, ?_⟩
    obtain hp | hp := hp
    · exact hp.trans hpend
    · exact hp

theorem renewed_setWorker {q : DeviceQueue} (h : Renewed q) (worker : Worker) :
    Renewed (q.setWorker worker) :=
  ⟨⟨by simpa using h.lined.lanes, h.lined.orderly⟩, h.pending, h.own, h.idle⟩

theorem renewed_merge {q : DeviceQueue} (h : Renewed q) (hr : q.running = true)
    (patch : ParameterMap) (p : RequestPriority) : Renewed (q.merge patch p) := by
  refine ⟨lined_event window_sinceStop h.lined rfl rfl (by simp) rfl, ?_, ?_, ?_⟩
  · intro key value hv
    obtain ⟨older, hm, ho⟩ := h.pending key value hv
    exact ⟨older, by simp [isStop, given, hm], ho⟩
  · exact ⟨own_other _ (by simp), h.own⟩
  · intro hr'
    simp [hr] at hr'

theorem renewed_queuePatch {q : DeviceQueue} (h : Renewed q) (hr : q.running = true)
    (patch : ParameterMap) (p : RequestPriority) :
    Renewed ((q.merge patch p).queuePatch patch p) := by
  have hm := renewed_merge h hr patch p
  have hfrom : From (given (sinceStop (q.merge patch p).log))
      (insertOrAssign q.pendingParameterPatch patch) := by
    simpa [isStop, given] using from_insertOrAssign h.pending
  apply renewed_push (q := (q.merge patch p).accumulate patch) ?_ hr
  · exact hfrom
  · refine ⟨⟨?_, hm.lined.orderly⟩, hfrom, hm.own, ?_⟩
    · simpa using hm.lined.lanes
    · intro hr'
      simp [hr] at hr'

theorem renewed_pop {q : DeviceQueue} (h : Renewed q) {p : RequestPriority} {batch : RequestBatch}
    {rest : List RequestBatch} (hl : q.lane p = batch :: rest)
    (hu : p = .normal → q.urgentQueue = []) : Renewed (q.pop p batch rest) := by
  refine ⟨lined_pop window_sinceStop h.lined hl hu, ?_, ?_, ?_⟩
  · simpa [isStop, given] using h.pending
  · exact ⟨own_other _ (by simp), by simpa using h.own⟩
  · intro hr
    obtain ⟨hu', hn, -⟩ := h.idle (by simpa using hr)
    cases p <;> simp_all

theorem renewed_step {q t : DeviceQueue} {action : Action} (h : Renewed q)
    (hn : next q action = some t) : Renewed t := by
  cases next_move hn with
  | startAgain | stopAgain | refuse | refusePatch => exact h
  | start => exact renewed_arm h
  | stop => exact renewed_clear h
  | spawn | join | finalize | supersede => exact renewed_setWorker h _
  | push requests priority hr => exact renewed_push h hr priority (from_empty _)
  | lone patch priority hr => exact renewed_merge h hr patch priority
  | drop patch priority hr =>
    have hm := renewed_merge h hr patch priority
    refine ⟨⟨by simpa using hm.lined.lanes, hm.lined.orderly⟩, from_empty _, hm.own, ?_⟩
    intro hr'
    simp [hr] at hr'
  | queuePatch patch priority hr => exact renewed_queuePatch h hr patch priority
  | dequeue priority batch rest _ _ hl hu => exact renewed_pop h hl hu
  | read event reply hw =>
    have hread := isRead_reads hw reply
    exact renewed_event h rfl (boundary_read hread) (by simp) (ops_read hread _).1
      (given_read hread _) (own_read hread _) rfl (Or.inl rfl)
  | take patch =>
    exact renewed_event h rfl rfl (by simp) rfl rfl (own_other _ (by simp)) rfl (Or.inr rfl)
  | _ =>
    exact renewed_event h rfl rfl (by simp) rfl rfl (own_other _ (by simp)) rfl (Or.inl rfl)

theorem renewed_run {enabled : Bool} {parameters : ParameterMap} {q : DeviceQueue}
    (hrun : Runs next free (fresh enabled parameters) q) : Renewed q :=
  hrun.invariant (renewed_fresh enabled parameters) fun _ _ _ h _ hn => renewed_step h hn

/-- The last thing a worker did about a request: it began to execute it, or it
read while finalizing that the device is `FINALIZED` already. -/
inductive Attempted where
  | request (request : TransitionRequest)
  | finalized

def lastAttempt : List Event → Option Attempted
  | [] => none
  | .sourceRead request _ :: _ | .requested request :: _ => some (.request request)
  | .finalRead (.ok .finalized) :: _ => some .finalized
  | _ :: h => lastAttempt h

def Attempted.Final : Attempted → Prop
  | .request last => last.targetState = .finalized
  | .finalized => True

def Parting : Worker → Option Attempted → Prop
  | .reading request .exit, _ => request.targetState = .finalized
  | .calling request .exit, last | .awaiting request .exit, last
  | .checking request _ .exit, last | .recovering request _ .exit, last =>
    last = some (.request request) ∧ request.targetState = .finalized
  | .storing _ .exit, last | .finished, last => ∃ attempted, last = some attempted ∧ attempted.Final
  | .absent, last => ∀ attempted, last = some attempted → attempted.Final
  | _, _ => True

theorem parting_next (rest : List TransitionRequest) (ok : Bool) (last : Option Attempted) :
    Parting ((Return.next rest).resume ok) last := by
  cases rest <;> cases ok <;> trivial

theorem parting_enter (batch : RequestBatch) (last : Option Attempted) :
    Parting (enter batch) last :=
  enter_elim (P := fun worker => Parting worker last) batch (fun _ _ => trivial)
    fun _ => parting_next _ _ _

theorem parting_stored {record : TransitionRecord} {ret : Return} {last : Option Attempted}
    (h : Parting (.storing record ret) last) (ok : Bool) : Parting (ret.resume ok) last := by
  cases ret with
  | next rest => exact parting_next rest ok last
  | exit => exact h

theorem parting_afterOutcome {request : TransitionRequest} {ret : Return}
    {last : Option Attempted} (h : Parting (.awaiting request ret) last)
    (reply : Reply TransitionOutcome) : Parting (afterOutcome request ret reply) last := by
  cases ret <;> cases reply <;> exact h

theorem parting_afterPlan (state : LifecycleState) (parameters patch : ParameterMap)
    (reply : Reply (List TransitionRequest)) (last : Option Attempted) :
    Parting (afterPlan state parameters patch reply) last := by
  cases reply with
  | ok requests => exact parting_next requests true last
  | error thrown => trivial

theorem parting_reading {request : TransitionRequest} {ret : Return} {last : Option Attempted}
    (h : Parting (.reading request ret) last) (reply : Reply LifecycleState) :
    Parting ((Worker.reading request ret).afterState reply) (some (.request request)) := by
  obtain he | ⟨record, -, -, he⟩ := reading_next request ret reply <;> rw [he]
  · cases ret with
    | next rest => trivial
    | exit => exact ⟨rfl, h⟩
  · cases ret with
    | next rest => trivial
    | exit => exact ⟨_, rfl, h⟩

theorem parting_finalizing (reply : Reply LifecycleState) (log : List Event) :
    Parting (Worker.finalizing.afterState reply) (lastAttempt (.finalRead reply :: log)) := by
  cases reply with
  | error thrown => rfl
  | ok state =>
    by_cases hs : state = .finalized
    · subst hs
      exact ⟨_, rfl, trivial⟩
    · rw [finalizing_ok hs]
      rfl

theorem parting_read {worker : Worker} {event : Reply LifecycleState → Event} {log : List Event}
    (hw : worker.reads = some event) (h : Parting worker (lastAttempt log))
    (reply : Reply LifecycleState) :
    Parting (worker.afterState reply) (lastAttempt (event reply :: log)) := by
  cases worker <;> simp only [Worker.reads, Option.some.injEq, reduceCtorEq] at hw <;> subst hw
  case superseded => cases reply <;> trivial
  case planning => cases reply <;> trivial
  case reading request ret => exact parting_reading h reply
  case checking request outcome ret =>
    cases ret with
    | next rest => cases reply <;> trivial
    | exit => cases reply with
      | ok state => exact ⟨_, h.1, h.2⟩
      | error thrown => exact h
  case recovering request message ret =>
    cases ret with
    | next rest => cases reply <;> trivial
    | exit => cases reply <;> exact ⟨_, h.1, h.2⟩
  case finalizing => exact parting_finalizing reply log

theorem parting_step {q t : DeviceQueue} {action : Action}
    (h : Parting q.worker (lastAttempt q.log)) (hn : next q action = some t) :
    Parting t.worker (lastAttempt t.log) := by
  cases next_move hn with
  | startAgain | stopAgain | refuse | refusePatch => exact h
  | start | stop => exact h
  | push | drop | lone | queuePatch => simpa [DeviceQueue.queuePatch, lastAttempt] using h
  | spawn | finalize | supersede | take => trivial
  | join hw =>
    rw [hw] at h
    obtain ⟨last, hlast, hfinal⟩ := h
    intro attempted he
    exact Option.some.inj (hlast.symm.trans he) ▸ hfinal
  | dequeue _ batch => exact parting_enter batch _
  | call request ret hw =>
    rw [hw] at h
    cases ret with
    | next rest => trivial
    | exit => exact ⟨rfl, h.2⟩
  | store record ret hw =>
    rw [hw] at h
    exact parting_stored h _
  | reply request ret reply hw =>
    rw [hw] at h
    exact parting_afterOutcome h reply
  | plan state parameters patch reply => exact parting_afterPlan state parameters patch reply _
  | read event reply hw => exact parting_read hw h reply

theorem parting_run {enabled : Bool} {parameters : ParameterMap} {q : DeviceQueue}
    (hrun : Runs next free (fresh enabled parameters) q) :
    Parting q.worker (lastAttempt q.log) := by
  have hfresh : Parting .absent none := by
    intro attempted he
    cases he
  exact hrun.invariant (I := fun q => Parting q.worker (lastAttempt q.log)) hfresh
    fun _ _ _ h _ hn => parting_step h hn

end DeviceManager.Rounds
