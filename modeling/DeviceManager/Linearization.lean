import DeviceManager.Lanes
import DeviceManager.Log
import DeviceManager.QueueStep

namespace DeviceManager.Linearization

open Domain WorkerThread Queue QueueStep Log Transition History Lanes

def ops : List Event → List (Op RequestPriority RequestBatch)
  | [] => []
  | .queued priority batch :: h => .push priority batch :: ops h
  | .dequeued priority batch :: h => .pop priority batch :: ops h
  | _ :: h => ops h

def outranks (a b : RequestPriority) : Prop := a = .urgent ∧ b = .normal

/-- What an action has to put into the queue of a priority, from the answer to its caller: the
batch of an accepted `enqueue`, and for an accepted patch that leaves the device enabled and is not
the lone flag an entry with the accumulated patch. -/
def entry (p : RequestPriority) (q : DeviceQueue) : Action → List RequestBatch
  | .enqueue requests priority =>
    if priority = p ∧ (q.enqueue requests priority).1.accepted = true then [⟨requests, none, ∅⟩]
    else []
  | .patch patch priority =>
    if priority = p ∧ (q.enqueueParameterPatch patch priority).1.accepted = true ∧
        (q.merge patch priority).enabled = true ∧ loneEnable patch = false then
      [⟨[], some (q.parameterRevision + 1), insertOrAssign q.pendingParameterPatch patch⟩]
    else []
  | _ => []

/-- The entries of a priority that the calls of a run were told are accepted, in order. -/
def entered (p : RequestPriority) : List Action → DeviceQueue → List RequestBatch
  | [], _ => []
  | action :: later, q => entry p q action ++ ((next q action).map (entered p later)).getD []

/-- A dequeued entry, the list the worker walks for it and the requests of the
list that it handed to the runtime. -/
structure Block where
  batch : RequestBatch
  plan : List TransitionRequest
  handed : List TransitionRequest

def planBlock (requests : List TransitionRequest) : List Block → List Block
  | block :: older => { block with plan := requests } :: older
  | [] => []

def handBlock (request : TransitionRequest) : List Block → List Block
  | block :: older => { block with handed := block.handed ++ [request] } :: older
  | [] => []

def blocks : List Event → List Block
  | [] => []
  | .dequeued _ batch :: h => ⟨batch, batch.requests, []⟩ :: blocks h
  | .planned _ _ _ (.ok requests) :: h => planBlock requests (blocks h)
  | .requested request :: h => handBlock request (blocks h)
  | _ :: h => blocks h

def handed : List Event → List TransitionRequest
  | [] => []
  | .requested request :: h => handed h ++ [request]
  | _ :: h => handed h

theorem ops_read {event : Event} (h : event.isRead = true) (older : List Event) :
    ops (event :: older) = ops older ∧ blocks (event :: older) = blocks older ∧
      handed (event :: older) = handed older := by
  cases event with
  | planRead | sourceRead | targetRead | safeRead | finalRead => exact ⟨rfl, rfl, rfl⟩
  | _ => cases h

/-- The two queues are the two lanes of a part of the history. -/
structure Lined (since : List Event → List Event) (q : DeviceQueue) : Prop where
  lanes : ∀ p, q.lane p = lane p (ops (since q.log))
  orderly : Orderly outranks (ops (since q.log))

theorem lined_empty {since : List Event → List Event} {q : DeviceQueue}
    (hs : since q.log = []) (hu : q.urgentQueue = []) (hn : q.normalQueue = []) :
    Lined since q := by
  constructor
  · intro p
    cases p <;> simp [hs, hu, hn, ops, lane]
  · simp [hs, ops, Orderly]

theorem lined_started {q : DeviceQueue} (h : Started q) : Lined sinceStart q := by
  obtain ⟨older, hlog⟩ := h.log
  exact lined_empty (by simp [hlog, isStart]) h.urgent h.normal

section

variable {since : List Event → List Event} (hw : Window since) {q t : DeviceQueue}
include hw

/-- An event that is no queue operation leaves the lanes alone. -/
theorem lined_event (h : Lined since q) {event : Event} (hlog : t.log = event :: q.log)
    (hb : boundary event = false) (hlane : ∀ p, t.lane p = q.lane p)
    (hops : ops (event :: since q.log) = ops (since q.log)) : Lined since t := by
  constructor
  · intro p
    rw [hlane, hlog, hw _ _ hb, hops, h.lanes]
  · rw [hlog, hw _ _ hb, hops]
    exact h.orderly

theorem lined_push (h : Lined since q) (p : RequestPriority) (batch : RequestBatch) :
    Lined since (q.push p batch) := by
  have hlog : since (q.push p batch).log = .queued p batch :: since q.log := by
    simpa using hw (.queued p batch) q.log rfl
  constructor
  · intro p'
    rw [hlog]
    by_cases hp : p = p' <;> simp [lane_push, ops, lane, hp, h.lanes]
  · rw [hlog]
    exact orderly_push h.orderly

theorem lined_pop (h : Lined since q) {p : RequestPriority} {batch : RequestBatch}
    {rest : List RequestBatch} (hl : q.lane p = batch :: rest)
    (hu : p = .normal → q.urgentQueue = []) : Lined since (q.pop p batch rest) := by
  have hlane := h.lanes p
  have hlog : since (q.pop p batch rest).log = .dequeued p batch :: since q.log := by
    simpa using hw (.dequeued p batch) q.log rfl
  constructor
  · intro p'
    rw [hlog]
    by_cases hp : p = p'
    · subst hp
      simp [lane_pop, ops, lane, ← hlane, hl]
    · simp [lane_pop, ops, lane, hp, h.lanes]
  · have hlow : ∀ p', outranks p' p → lane p' (ops (since q.log)) = [] := by
      rintro p' ⟨rfl, hn⟩
      rw [← h.lanes .urgent]
      exact hu hn
    rw [hlog]
    exact orderly_pop h.orderly (hlane.symm.trans hl) hlow

theorem lined_step {action : Action} (h : Lined since q) (hs : serving q action)
    (hn : next q action = some t) : Lined since t := by
  cases next_move hn with
  | start | startAgain | stop | stopAgain | join => exact hs.elim
  | refuse | refusePatch => exact h
  | push requests priority => exact lined_push hw h priority _
  | queuePatch patch priority =>
    apply lined_push hw
    exact lined_event hw h rfl rfl (by simp) rfl
  | dequeue priority batch rest _ _ hl hu => exact lined_pop hw h hl hu
  | read event reply hr =>
    have hread := isRead_reads hr reply
    exact lined_event hw h rfl (boundary_read hread) (by simp) (ops_read hread _).1
  | spawn | finalize | supersede =>
    exact ⟨by simpa using h.lanes, by simpa using h.orderly⟩
  | _ => exact lined_event hw h rfl rfl (by simp) rfl

end

/-- How the newest block stands to the point the worker is at. The requests
handed so far are followed in the plan by those the worker still has. -/
def Walks : Worker → List Block → Prop
  | .absent, [] => True
  | .waiting, _ => True
  | .examining _ _, block :: _ | .superseded, block :: _ | .planning _ _, block :: _
  | .transitions _ _ _, block :: _ => block.handed = [] ∧ block.batch.parameterRevision.isSome
  | .reading request (.next rest), block :: _ | .calling request (.next rest), block :: _ =>
    block.plan = block.handed ++ request :: rest
  | .awaiting _ (.next rest), block :: _ | .checking _ _ (.next rest), block :: _
  | .recovering _ _ (.next rest), block :: _ => block.plan = block.handed ++ rest
  | .storing record (.next rest), block :: _ =>
    succeeded record = true → block.plan = block.handed ++ rest
  | _, _ => False

attribute [local simp] Walks

structure Block.Whole (block : Block) : Prop where
  handed : block.handed <+: block.plan
  lifecycle : block.batch.parameterRevision = none → block.plan = block.batch.requests

structure Blocked (q : DeviceQueue) : Prop where
  stopping : q.stopping = false
  walks : Walks q.worker (blocks (sinceStart q.log))
  whole : ∀ block ∈ blocks (sinceStart q.log), block.Whole
  all : handed (sinceStart q.log) =
    (blocks (sinceStart q.log)).reverse.flatMap Block.handed

theorem walks_resume {block : Block} {older : List Block} {rest : List TransitionRequest}
    {ok : Bool} (h : ok = true → block.plan = block.handed ++ rest) :
    Walks ((Return.next rest).resume ok) (block :: older) := by
  cases ok with
  | false => simp
  | true =>
    cases rest with
    | nil => trivial
    | cons request rest => exact h rfl

theorem walks_examined {revision : UInt64} {patch : ParameterMap} {bs : List Block}
    (h : Walks (.examining revision patch) bs) (parameters : ParameterMap) :
    Walks .superseded bs ∧ Walks (.planning parameters patch) bs := by
  cases bs with
  | nil => exact h.elim
  | cons block older => exact ⟨h, h⟩

theorem walks_stored {record : TransitionRecord} {ret : Return} {bs : List Block}
    (h : Walks (.storing record ret) bs) : Walks (ret.resume (succeeded record)) bs := by
  cases bs with
  | nil => simp at h
  | cons block older =>
    cases ret with
    | exit => exact h.elim
    | next rest => exact walks_resume h

theorem walks_afterOutcome {request : TransitionRequest} {ret : Return} {bs : List Block}
    (h : Walks (.awaiting request ret) bs) (reply : Reply TransitionOutcome) :
    Walks (afterOutcome request ret reply) bs := by
  cases bs with
  | nil => simp at h
  | cons block older =>
    cases ret with
    | exit => exact h.elim
    | next rest => cases reply <;> exact h

theorem walks_afterState {worker : Worker} {event : Reply LifecycleState → Event}
    {bs : List Block} (hr : worker.reads = some event) (h : Walks worker bs)
    (reply : Reply LifecycleState) : Walks (worker.afterState reply) bs := by
  cases bs with
  | nil => cases worker <;> simp_all [Worker.reads]
  | cons block older =>
    cases worker with
    | superseded => cases reply <;> exact fun hs => by simp [succeeded, discardedRecord] at hs
    | planning parameters patch =>
      cases reply with
      | ok state => exact h
      | error thrown => exact fun hs => by simp [succeeded, errorRecord] at hs
    | reading request ret =>
      cases ret with
      | exit => exact h.elim
      | next rest =>
        obtain he | ⟨record, -, hfail, he⟩ := reading_next request (.next rest) reply <;> rw [he]
        · exact h
        · exact fun hs => by simp [hfail] at hs
    | checking request outcome ret =>
      cases ret with
      | exit => exact h.elim
      | next rest =>
        cases reply with
        | ok state => exact fun _ => h
        | error thrown => exact h
    | recovering request message ret =>
      cases ret with
      | exit => exact h.elim
      | next rest => cases reply <;> exact fun _ => h
    | finalizing => exact h.elim
    | _ => cases hr

theorem blocked_started {q : DeviceQueue} (h : Started q) : Blocked q := by
  obtain ⟨older, hlog⟩ := h.log
  constructor <;> simp [hlog, isStart, blocks, handed, h.worker, h.stopping]

/-- A step that adds neither a block nor a request only has to place the worker. -/
theorem blocked_same {q t : DeviceQueue} (h : Blocked q) (hs : t.stopping = q.stopping)
    (hb : blocks (sinceStart t.log) = blocks (sinceStart q.log))
    (hh : handed (sinceStart t.log) = handed (sinceStart q.log))
    (hw : Walks t.worker (blocks (sinceStart q.log))) : Blocked t :=
  ⟨hs.trans h.stopping, by rwa [hb], by rw [hb]; exact h.whole, by rw [hb, hh]; exact h.all⟩

theorem blocked_dequeue {q : DeviceQueue} (h : Blocked q) (p : RequestPriority)
    (batch : RequestBatch) (rest : List RequestBatch) : Blocked (q.pop p batch rest) := by
  have hlog : sinceStart (q.pop p batch rest).log = .dequeued p batch :: sinceStart q.log := by
    simp [isStart]
  constructor
  · simpa using h.stopping
  · rw [hlog]
    simp only [DeviceQueue.pop_worker, enter, blocks]
    cases hr : batch.parameterRevision with
    | some revision => exact ⟨rfl, by simp [hr]⟩
    | none => exact walks_resume fun _ => by simp
  · rw [hlog]
    intro block hm
    obtain rfl | hm := List.mem_cons.mp hm
    · exact ⟨List.nil_prefix, fun _ => rfl⟩
    · exact h.whole block hm
  · rw [hlog]
    simp [blocks, handed, h.all]

theorem blocked_call {q : DeviceQueue} (h : Blocked q) {request : TransitionRequest} {ret : Return}
    (hw : q.worker = .calling request ret) :
    Blocked ((q.setWorker (.awaiting request ret)).record (.requested request)) := by
  have hwalk := h.walks
  have hwhole := h.whole
  have hall := h.all
  rw [hw] at hwalk
  cases ret with
  | exit => cases blocks (sinceStart q.log) <;> simp at hwalk
  | next rest =>
    cases hb : blocks (sinceStart q.log) with
    | nil => simp [hb] at hwalk
    | cons block older =>
      rw [hb] at hwalk hwhole hall
      have hplan : block.plan = block.handed ++ request :: rest := hwalk
      have hlog : blocks (.requested request :: sinceStart q.log) =
          { block with handed := block.handed ++ [request] } :: older := by
        simp [blocks, handBlock, hb]
      constructor
      · exact h.stopping
      · simp [isStart, hlog, hplan]
      · simp only [DeviceQueue.record_log, DeviceQueue.setWorker_log, sinceStart_cons, isStart,
          Bool.false_eq_true, if_false, hlog, List.mem_cons, forall_eq_or_imp]
        refine ⟨⟨⟨rest, by simp [hplan]⟩, (hwhole block (by simp)).lifecycle⟩, ?_⟩
        exact fun block' hm => hwhole block' (by simp [hm])
      · simp [isStart, hlog, handed, hall]

theorem blocked_plan {q : DeviceQueue} (h : Blocked q) {state : LifecycleState}
    {parameters patch : ParameterMap} (hw : q.worker = .transitions state parameters patch)
    (reply : Reply (List TransitionRequest)) :
    Blocked ((q.setWorker (afterPlan state parameters patch reply)).record
      (.planned state parameters patch reply)) := by
  have hwalk := h.walks
  have hwhole := h.whole
  have hall := h.all
  rw [hw] at hwalk
  cases hb : blocks (sinceStart q.log) with
  | nil => simp [hb] at hwalk
  | cons block older =>
    rw [hb] at hwalk hwhole hall
    obtain ⟨hnil, hsome⟩ := hwalk
    cases reply with
    | error thrown =>
      refine blocked_same h rfl ?_ ?_ ?_
      · simp [isStart, blocks]
      · simp [isStart, handed]
      · rw [hb]
        exact fun hs => by simp [succeeded, errorRecord] at hs
    | ok requests =>
      have hlog : blocks (.planned state parameters patch (.ok requests) :: sinceStart q.log) =
          { block with plan := requests } :: older := by
        simp [blocks, planBlock, hb]
      constructor
      · exact h.stopping
      · simp only [DeviceQueue.record_log, DeviceQueue.setWorker_log, sinceStart_cons, isStart,
          Bool.false_eq_true, if_false, hlog]
        exact walks_resume fun _ => by simp [hnil]
      · simp only [DeviceQueue.record_log, DeviceQueue.setWorker_log, sinceStart_cons, isStart,
          Bool.false_eq_true, if_false, hlog, List.mem_cons, forall_eq_or_imp]
        refine ⟨⟨by simp [hnil], fun hn => ?_⟩, fun block' hm => hwhole block' (by simp [hm])⟩
        have hn' : block.batch.parameterRevision = none := hn
        simp [hn'] at hsome
      · simp [isStart, hlog, handed, hall]

theorem blocked_step {q t : DeviceQueue} {action : Action} (h : Blocked q)
    (hs : serving q action) (hn : next q action = some t) : Blocked t := by
  have hwalk := h.walks
  cases next_move hn with
  | start | startAgain | stop | stopAgain | join => exact hs.elim
  | refuse | refusePatch => exact h
  | spawn hw => exact blocked_same h rfl rfl rfl trivial
  | push | drop | lone | queuePatch =>
    apply blocked_same h
    · simp [DeviceQueue.queuePatch]
    · simp [DeviceQueue.queuePatch, isStart, blocks]
    · simp [DeviceQueue.queuePatch, isStart, handed]
    · simpa [DeviceQueue.queuePatch] using hwalk
  | dequeue priority batch rest hw hs hl hu => exact blocked_dequeue h priority batch rest
  | call request ret hw => exact blocked_call h hw
  | plan state parameters patch reply hw => exact blocked_plan h hw reply
  | read event reply hw =>
    obtain ⟨-, hb, hh⟩ := ops_read (isRead_reads hw reply) (sinceStart q.log)
    refine blocked_same h rfl ?_ ?_ ?_
    · simp [isStart_read hw, hb]
    · simp [isStart_read hw, hh]
    · exact walks_afterState hw hwalk reply
  | finalize hw hstop => simp [h.stopping] at hstop
  | supersede revision patch hw hr =>
    rw [hw] at hwalk
    exact blocked_same h rfl rfl rfl (walks_examined hwalk ∅).1
  | take patch hw =>
    rw [hw] at hwalk
    refine blocked_same h rfl ?_ ?_ ?_
    · simp [isStart, blocks]
    · simp [isStart, handed]
    · exact (walks_examined hwalk q.parameters).2
  | store record ret hw =>
    rw [hw] at hwalk
    refine blocked_same h rfl ?_ ?_ ?_
    · simp [isStart, blocks]
    · simp [isStart, handed]
    · exact walks_stored hwalk
  | reply request ret reply hw =>
    rw [hw] at hwalk
    refine blocked_same h rfl ?_ ?_ ?_
    · simp [isStart, blocks]
    · simp [isStart, handed]
    · exact walks_afterOutcome hwalk reply

/-- A step pushes what its caller was told. -/
theorem pushed_step {q t : DeviceQueue} {action : Action} (hs : serving q action)
    (hn : next q action = some t) (p : RequestPriority) :
    pushed p (ops (sinceStart t.log)) = pushed p (ops (sinceStart q.log)) ++ entry p q action := by
  cases next_move hn with
  | start | startAgain | stop | stopAgain | join => exact hs.elim
  | refuse requests priority h =>
    have hrefused : ¬(q.enqueue requests priority).1.accepted = true := by
      rw [accepted_iff]
      obtain hr | hstop := h
      · simp [hr]
      · simp [hstop]
    simp [entry, hrefused]
  | push requests priority hr hstop =>
    have haccepted := (accepted_iff q requests priority).mpr ⟨hr, hstop⟩
    by_cases hp : priority = p
    · rw [entry, if_pos ⟨hp, haccepted⟩]
      simp [hp, isStart, ops, pushed]
    · rw [entry, if_neg fun hboth => hp hboth.1]
      simp [hp, isStart, ops, pushed]
  | refusePatch patch priority h => simp [entry, h]
  | drop patch priority hr hstop he =>
    rw [entry, if_neg fun hall => Bool.false_ne_true (he.symm.trans hall.2.2.1)]
    simp [isStart, ops]
  | lone patch priority hr hstop he hl => simp [entry, hl, isStart, ops]
  | queuePatch patch priority hr hstop he hl hg =>
    have haccepted := patch_accepted priority hr hstop hg
    by_cases hp : priority = p
    · rw [entry, if_pos ⟨hp, haccepted, he, hl⟩]
      simp [hp, isStart, ops, pushed, DeviceQueue.queuePatch]
    · rw [entry, if_neg fun hall => hp hall.1]
      simp [hp, isStart, ops, pushed, DeviceQueue.queuePatch]
  | read event reply hr =>
    obtain ⟨hops, -⟩ := ops_read (isRead_reads hr reply) (sinceStart q.log)
    simp [entry, isStart_read hr, hops]
  | _ => simp [entry, isStart, ops, pushed]

theorem pushed_run {q t : DeviceQueue} {actions : List Action}
    (h : exec next serving actions q = some t) (p : RequestPriority) :
    pushed p (ops (sinceStart t.log)) =
      pushed p (ops (sinceStart q.log)) ++ entered p actions q := by
  induction actions generalizing q with
  | nil =>
    obtain rfl := Option.some.inj h
    exact (List.append_nil _).symm
  | cons action later ih =>
    by_cases hs : serving q action
    · rw [exec, if_pos hs, Option.bind_eq_some_iff] at h
      obtain ⟨u, hn, hu⟩ := h
      rw [ih hu, pushed_step hs hn p, List.append_assoc, entered, hn]
      rfl
    · rw [exec, if_neg hs] at h
      cases h

theorem lined_run {q₀ q : DeviceQueue} (h : Started q₀) (hrun : Runs next serving q₀ q) :
    Lined sinceStart q :=
  hrun.invariant (lined_started h) fun _ _ _ hl hs hn => lined_step window_sinceStart hl hs hn

theorem blocked_run {q₀ q : DeviceQueue} (h : Started q₀) (hrun : Runs next serving q₀ q) :
    Blocked q :=
  hrun.invariant (blocked_started h) fun _ _ _ hb hs hn => blocked_step hb hs hn

theorem blocks_pops (log : List Event) :
    (blocks log).reverse.map Block.batch = (pops (ops log)).map Prod.snd := by
  induction log with
  | nil => rfl
  | cons event h ih =>
    cases event with
    | planned state parameters patch reply =>
      cases reply with
      | error thrown => exact ih
      | ok requests => cases hb : blocks h <;> simp_all [ops, blocks, planBlock]
    | requested request => cases hb : blocks h <;> simp_all [ops, blocks, handBlock]
    | dequeued p batch => simpa [ops, blocks, pops] using ih
    | _ => exact ih

theorem queue_linearization {q₀ q : DeviceQueue} {actions : List Action} (h : Started q₀)
    (hexec : exec next serving actions q₀ = some q) :
    (∀ p, pushed p (ops (sinceStart q.log)) = entered p actions q₀) ∧
    (∀ p, entered p actions q₀ = popped p (ops (sinceStart q.log)) ++ q.lane p) ∧
    (q.urgentQueue = [] → q.normalQueue = [] →
      ∀ p, popped p (ops (sinceStart q.log)) = entered p actions q₀) ∧
    Always (fun op older => ∀ batch, op = .pop .normal batch →
      pushed .urgent older = popped .urgent older) (ops (sinceStart q.log)) ∧
    (blocks (sinceStart q.log)).reverse.map Block.batch =
      (pops (ops (sinceStart q.log))).map Prod.snd ∧
    (∀ block ∈ blocks (sinceStart q.log), block.handed <+: block.plan ∧
      (block.batch.parameterRevision = none → block.plan = block.batch.requests)) ∧
    handed (sinceStart q.log) = (blocks (sinceStart q.log)).reverse.flatMap Block.handed := by
  have hl := lined_run h (exec_runs actions hexec)
  have hb := blocked_run h (exec_runs actions hexec)
  have hpushed : ∀ p, pushed p (ops (sinceStart q.log)) = entered p actions q₀ := by
    intro p
    obtain ⟨older, hlog⟩ := h.log
    have hnone : sinceStart q₀.log = [] := by simp [hlog, isStart]
    rw [pushed_run hexec p, hnone]
    rfl
  have heq : ∀ p, entered p actions q₀ = popped p (ops (sinceStart q.log)) ++ q.lane p := by
    intro p
    rw [← hpushed, hl.lanes p]
    exact pushed_eq hl.orderly p
  refine ⟨hpushed, heq, ?_, ?_, blocks_pops _, ?_, hb.all⟩
  · intro hu hn p
    cases p <;> simp [heq, hu, hn]
  · exact (popped_outranks hl.orderly).mono fun op older hop batch he =>
      hop .normal batch he .urgent ⟨rfl, rfl⟩
  · exact fun block hm => ⟨(hb.whole block hm).handed, (hb.whole block hm).lifecycle⟩

def twoBatches : List Action :=
  [.enqueue [⟨.unconfigured, .inactive, ∅⟩] .normal,
    .enqueue [⟨.inactive, .active, ∅⟩, ⟨.active, .inactive, ∅⟩] .urgent, .spawn, .work .go,
    .work (.state (.ok .inactive)), .work .go]

theorem queue_linearization_twoBatches :
    ∃ q, exec next serving twoBatches (fresh true ∅).start = some q ∧
      handed (sinceStart q.log) = [⟨.inactive, .active, ∅⟩] ∧
      ∀ p, entered p twoBatches (fresh true ∅).start =
        popped p (ops (sinceStart q.log)) ++ q.lane p :=
  ⟨_, rfl, rfl, (@queue_linearization _ _ twoBatches (started_start true ∅) rfl).2.1⟩

end DeviceManager.Linearization
