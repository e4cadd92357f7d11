import DeviceManager.History
import DeviceManager.QueueStep

namespace DeviceManager.Records

open Domain WorkerThread Queue QueueStep Transition History

/-- What one run of `execute` has asked the runtime so far. -/
structure Attempt where
  request : TransitionRequest
  source : Reply LifecycleState
  requested : Bool
  outcome : Option (Reply TransitionOutcome)
  target : Option (Reply LifecycleState)

def attempt : List Event → Option Attempt
  | [] => none
  | .sourceRead request reply :: _ => some ⟨request, reply, false, none, none⟩
  | .requested _ :: h => (attempt h).map fun a => { a with requested := true }
  | .replied reply :: h => (attempt h).map fun a => { a with outcome := some reply }
  | .targetRead reply :: h => (attempt h).map fun a => { a with target := some reply }
  | .recorded _ :: _ | .dequeued _ _ :: _ => none
  | _ :: h => attempt h

def failedSince : List Event → Bool
  | [] => false
  | .recorded record :: h => !decide (record.result = .success) || failedSince h
  | .dequeued _ _ :: _ | .finalRead _ :: _ => false
  | _ :: h => failedSince h

def lastRecord : List Event → Option TransitionRecord
  | [] => none
  | .recorded record :: _ => some record
  | _ :: h => lastRecord h

def Attempt.Succeeded (a : Attempt) : Prop :=
  (∃ outcome, a.outcome = some (.ok outcome) ∧ outcome.result = .success) ∧
    a.target = some (.ok a.request.targetState)

def Attempt.Stale (a : Attempt) : Prop :=
  a.requested = false ∧ ∃ state, a.source = .ok state ∧ state ≠ a.request.fromState

structure Honest (a : Attempt) (record : TransitionRecord) : Prop where
  request : record.request = a.request
  success : record.result = .success ↔ a.Succeeded
  discarded : record.discarded = true ↔ a.Stale

def Tracks : Worker → Option Attempt → Prop
  | .calling request _, a => a = some ⟨request, .ok request.fromState, false, none, none⟩
  | .awaiting request _, a => a = some ⟨request, .ok request.fromState, true, none, none⟩
  | .checking request outcome _, a =>
    a = some ⟨request, .ok request.fromState, true, some (.ok outcome), none⟩
  | .recovering request _ _, a =>
    ∃ outcome target, a = some ⟨request, .ok request.fromState, true, some outcome, target⟩ ∧
      ((∃ thrown, outcome = .error thrown) ∨ ∃ thrown, target = some (.error thrown))
  | .storing record _, a => ∀ b, a = some b → Honest b record
  | .terminated, _ => False
  | _, a => a = none

def walking : Worker → Bool
  | .absent | .waiting | .finalizing | .finished | .terminated => false
  | _ => true

theorem honest_stale {request : TransitionRequest} {state : LifecycleState}
    (h : state ≠ request.fromState) :
    Honest ⟨request, .ok state, false, none, none⟩ (staleRecord request state) := by
  refine ⟨rfl, ?_, ?_⟩
  · simp [staleRecord, Attempt.Succeeded]
  · simpa [staleRecord, Attempt.Stale] using h

theorem honest_unread (request : TransitionRequest) (thrown : Thrown) (message : String) :
    Honest ⟨request, .error thrown, false, none, none⟩
      ⟨request, .error, false, .unknown, message⟩ := by
  refine ⟨rfl, ?_, ?_⟩
  · simp [Attempt.Succeeded]
  · simp [Attempt.Stale]

theorem honest_outcome (request : TransitionRequest) (outcome : TransitionOutcome)
    (state : LifecycleState) :
    Honest ⟨request, .ok request.fromState, true, some (.ok outcome), some (.ok state)⟩
      (outcomeRecord request outcome state) := by
  refine ⟨outcomeRecord_request .., ?_, ?_⟩
  · rw [succeeded_iff_outcome]
    simp [Attempt.Succeeded]
  · simp [Attempt.Stale]

theorem honest_thrown {request : TransitionRequest} {outcome : Reply TransitionOutcome}
    {target : Option (Reply LifecycleState)}
    (h : (∃ thrown, outcome = .error thrown) ∨ ∃ thrown, target = some (.error thrown))
    (state : LifecycleState) (message : String) :
    Honest ⟨request, .ok request.fromState, true, some outcome, target⟩
      ⟨request, .error, false, state, message⟩ := by
  refine ⟨rfl, ?_, ?_⟩
  · obtain ⟨thrown, rfl⟩ | ⟨thrown, rfl⟩ := h <;> simp [Attempt.Succeeded]
  · simp [Attempt.Stale]

theorem tracks_resume (ret : Return) (ok : Bool) : Tracks (ret.resume ok) none :=
  resume_elim (P := fun worker => Tracks worker none) ret ok rfl rfl fun _ _ _ _ => rfl

theorem tracks_enter (batch : RequestBatch) : Tracks (enter batch) none :=
  enter_elim (P := fun worker => Tracks worker none) batch (fun _ _ => rfl)
    fun _ => tracks_resume _ _

theorem tracks_afterOutcome {request : TransitionRequest} {ret : Return} {a : Option Attempt}
    (h : Tracks (.awaiting request ret) a) (reply : Reply TransitionOutcome) :
    Tracks (afterOutcome request ret reply) (a.map fun b => { b with outcome := some reply }) := by
  obtain rfl : a = _ := h
  cases reply with
  | ok outcome => rfl
  | error thrown => exact ⟨.error thrown, none, rfl, Or.inl ⟨thrown, rfl⟩⟩

theorem tracks_afterPlan (state : LifecycleState) (parameters patch : ParameterMap)
    (reply : Reply (List TransitionRequest)) :
    Tracks (afterPlan state parameters patch reply) none := by
  cases reply with
  | ok requests => exact tracks_resume _ _
  | error thrown => exact fun b hb => nomatch hb

theorem tracks_afterState {worker : Worker} {event : Reply LifecycleState → Event}
    {log : List Event} (hr : worker.reads = some event) (h : Tracks worker (attempt log))
    (reply : Reply LifecycleState) :
    Tracks (worker.afterState reply) (attempt (event reply :: log)) := by
  cases worker with
  | superseded =>
    obtain rfl := Option.some.inj hr
    have hnone : attempt log = none := h
    cases reply <;> exact fun b hb => by simp [attempt, hnone] at hb
  | planning parameters patch =>
    obtain rfl := Option.some.inj hr
    have hnone : attempt log = none := h
    cases reply with
    | ok state => exact hnone
    | error thrown => exact fun b hb => by simp [attempt, hnone] at hb
  | reading request ret =>
    obtain rfl := Option.some.inj hr
    cases reply with
    | error thrown =>
      intro b hb
      obtain rfl := Option.some.inj hb
      exact honest_unread request thrown _
    | ok state =>
      by_cases hs : state = request.fromState
      · rw [reading_ok ret hs]
        subst hs
        rfl
      · rw [reading_stale ret hs]
        intro b hb
        obtain rfl := Option.some.inj hb
        exact honest_stale hs
  | checking request outcome ret =>
    obtain rfl := Option.some.inj hr
    have hsome : attempt log =
        some ⟨request, .ok request.fromState, true, some (.ok outcome), none⟩ := h
    cases reply with
    | ok state =>
      intro b hb
      simp only [attempt, hsome, Option.map_some, Option.some.injEq] at hb
      subst hb
      exact honest_outcome request outcome state
    | error thrown =>
      refine ⟨.ok outcome, some (.error thrown), ?_, Or.inr ⟨thrown, rfl⟩⟩
      simp [attempt, hsome]
  | recovering request message ret =>
    obtain rfl := Option.some.inj hr
    obtain ⟨outcome, target, hsome, hthrown⟩ := h
    cases reply <;>
    · intro b hb
      obtain rfl := Option.some.inj (hsome.symm.trans hb)
      exact honest_thrown hthrown _ _
  | finalizing =>
    obtain rfl := Option.some.inj hr
    have hnone : attempt log = none := h
    obtain he | ⟨state, he⟩ := finalizing_next reply <;> rw [he] <;> exact hnone
  | _ => cases hr

theorem walking_afterState {worker : Worker} {event : Reply LifecycleState → Event}
    (hr : worker.reads = some event) (reply : Reply LifecycleState) (log : List Event)
    (h : walking worker = true → failedSince log = false) :
    failedSince (event reply :: log) = false := by
  cases worker <;> simp only [Worker.reads, Option.some.injEq, reduceCtorEq] at hr <;> subst hr <;>
    first | rfl | exact h rfl

def turnsTo : Event → Bool
  | .sourceRead _ _ | .dequeued _ _ => true
  | _ => false

/-- What an event has to satisfy with the history before it. Before the worker turns to anything
else, the attempt that it has made is recorded. -/
structure Sound (event : Event) (older : List Event) : Prop where
  settled : turnsTo event = true → attempt older = none
  source : ∀ request, event = .requested request →
    attempt older = some ⟨request, .ok request.fromState, false, none, none⟩
  list : ∀ request, event = .requested request ∨ (∃ reply, event = .sourceRead request reply) →
    failedSince older = false
  record : ∀ record a, event = .recorded record → attempt older = some a → Honest a record

def plain : Event → Bool
  | .sourceRead _ _ | .requested _ | .replied _ | .targetRead _ | .recorded _ | .dequeued _ _
  | .finalRead _ => false
  | _ => true

theorem plain_event {event : Event} (h : plain event = true) (log : List Event) :
    attempt (event :: log) = attempt log ∧ failedSince (event :: log) = failedSince log ∧
      lastRecord (event :: log) = lastRecord log ∧ Sound event log := by
  cases event <;> first
    | exact ⟨rfl, rfl, rfl, by constructor <;> simp [turnsTo]⟩
    | cases h

structure Recording (q : DeviceQueue) : Prop where
  tracks : Tracks q.worker (attempt q.log)
  walking : walking q.worker = true → failedSince q.log = false
  last : q.lastTransition = lastRecord q.log
  sound : Always Sound q.log

theorem recording_silent {q t : DeviceQueue} (h : Recording q) (hlog : t.log = q.log)
    (hlast : t.lastTransition = q.lastTransition) (htracks : Tracks t.worker (attempt q.log))
    (hwalk : Records.walking t.worker = true → Records.walking q.worker = true) : Recording t := by
  constructor
  · rwa [hlog]
  · rw [hlog]
    exact fun hw => h.walking (hwalk hw)
  · rw [hlast, hlog, h.last]
  · rw [hlog]
    exact h.sound

theorem recording_plain {q t : DeviceQueue} {e : Event} (h : Recording q)
    (hlog : t.log = e :: q.log) (he : plain e = true) (hlast : t.lastTransition = q.lastTransition)
    (htracks : Tracks t.worker (attempt q.log))
    (hwalk : Records.walking t.worker = true → Records.walking q.worker = true) : Recording t := by
  obtain ⟨ha, hf, hl, hs⟩ := plain_event he q.log
  constructor
  · rwa [hlog, ha]
  · rw [hlog, hf]
    exact fun hw => h.walking (hwalk hw)
  · rw [hlast, hlog, hl, h.last]
  · rw [hlog]
    exact ⟨hs, h.sound⟩

theorem recording_push {q : DeviceQueue} (h : Recording q) (p : RequestPriority)
    (batch : RequestBatch) : Recording (q.push p batch) := by
  have ht := h.tracks
  exact recording_plain (e := .queued p batch) h (by simp) rfl (by simp) (by simpa using ht)
    (by simp)

theorem recording_merge {q : DeviceQueue} (h : Recording q) (patch : ParameterMap)
    (priority : RequestPriority) : Recording (q.merge patch priority) :=
  recording_plain h rfl rfl rfl h.tracks id

theorem recording_call {q : DeviceQueue} (h : Recording q) {request : TransitionRequest}
    {ret : Return} (hw : q.worker = .calling request ret) :
    Recording ((q.setWorker (.awaiting request ret)).record (.requested request)) := by
  have htracks := h.tracks
  rw [hw] at htracks
  have hsome : attempt q.log = some ⟨request, .ok request.fromState, false, none, none⟩ := htracks
  have hfail := h.walking (congrArg Records.walking hw)
  refine ⟨?_, fun _ => hfail, h.last, ⟨⟨by simp [turnsTo], ?_, fun _ _ => hfail, by simp⟩, h.sound⟩⟩
  · simp [attempt, hsome, Tracks]
  · intro request' he
    obtain rfl := Event.requested.inj he
    exact hsome

theorem recording_store {q : DeviceQueue} (h : Recording q) {record : TransitionRecord}
    {ret : Return} (hw : q.worker = .storing record ret) : Recording (q.store record ret) := by
  have htracks := h.tracks
  rw [hw] at htracks
  have hfail := h.walking (congrArg Records.walking hw)
  refine ⟨tracks_resume _ _, ?_, rfl, ⟨⟨by simp [turnsTo], by simp, by simp, ?_⟩, h.sound⟩⟩
  · intro hwalk
    have hsucc : record.result = .success := by
      by_contra hne
      have hfalse : succeeded record = false := by simp [succeeded, hne]
      simp only [DeviceQueue.store_worker, hfalse] at hwalk
      cases ret <;> simp [Return.resume, Records.walking] at hwalk
    simp [failedSince, hsucc, hfail]
  · intro record' a he ha
    obtain rfl := Event.recorded.inj he
    exact htracks a ha

theorem lastRecord_read {event : Event} (h : event.isRead = true) (log : List Event) :
    lastRecord (event :: log) = lastRecord log := by
  cases event with
  | planRead | sourceRead | targetRead | safeRead | finalRead => rfl
  | _ => cases h

theorem recording_read {q : DeviceQueue} (h : Recording q) {event : Reply LifecycleState → Event}
    (hw : q.worker.reads = some event) (reply : Reply LifecycleState) :
    Recording ((q.setWorker (q.worker.afterState reply)).record (event reply)) := by
  have hfail := walking_afterState hw reply q.log h.walking
  have hread := isRead_reads hw reply
  have hlast := lastRecord_read hread q.log
  refine ⟨tracks_afterState hw h.tracks reply, fun _ => hfail, h.last.trans hlast.symm,
    ⟨⟨fun hturn => ?_, ?_, ?_, ?_⟩, h.sound⟩⟩
  · have htracks := h.tracks
    cases hq : q.worker <;> simp only [hq, Worker.reads, Option.some.injEq, reduceCtorEq] at hw
    all_goals subst hw
    case reading => rwa [hq] at htracks
    all_goals cases hturn
  · intro request he
    rw [he] at hread
    cases hread
  · intro request he
    by_cases hwalk : Records.walking q.worker = true
    · exact h.walking hwalk
    · cases hq : q.worker <;> simp only [hq, Worker.reads, Records.walking, not_true_eq_false,
        Option.some.injEq, reduceCtorEq] at hw hwalk
      subst hw
      simp at he
  · intro record a he
    rw [he] at hread
    cases hread

theorem recording_step {q t : DeviceQueue} {action : Action} (h : Recording q)
    (hn : next q action = some t) : Recording t := by
  have htracks := h.tracks
  cases next_move hn with
  | startAgain | stopAgain | refuse | refusePatch => exact h
  | start => exact recording_plain (e := .started _) h rfl rfl rfl htracks id
  | stop => exact recording_plain (e := .stopped) h rfl rfl rfl htracks id
  | spawn hw =>
    rw [hw] at htracks
    exact recording_silent h rfl rfl htracks (by simp [Records.walking])
  | join hw =>
    rw [hw] at htracks
    exact recording_silent h rfl rfl htracks (by simp [Records.walking])
  | finalize hw =>
    rw [hw] at htracks
    exact recording_silent h rfl rfl htracks (by simp [Records.walking])
  | supersede revision patch hw =>
    rw [hw] at htracks
    exact recording_silent h rfl rfl htracks (by simp [hw, Records.walking])
  | push requests priority => exact recording_push h priority _
  | drop patch priority =>
    exact recording_silent (recording_merge h patch priority) rfl rfl htracks id
  | lone patch priority => exact recording_merge h patch priority
  | queuePatch patch priority =>
    have hacc : Recording ((q.merge patch priority).accumulate patch) :=
      recording_silent (recording_merge h patch priority) rfl rfl htracks id
    exact recording_push hacc priority _
  | dequeue priority batch rest hw =>
    refine ⟨?_, ?_, ?_, ?_⟩
    · simpa [attempt] using tracks_enter batch
    · simp [failedSince]
    · simpa [lastRecord] using h.last
    · rw [DeviceQueue.pop_log, setLane_log]
      rw [hw] at htracks
      exact ⟨⟨fun _ => htracks, by simp, by simp, by simp⟩, h.sound⟩
  | take patch hw =>
    rw [hw] at htracks
    exact recording_plain (e := .taken _ _) h rfl rfl rfl htracks (by simp [hw, Records.walking])
  | call request ret hw => exact recording_call h hw
  | store record ret hw => exact recording_store h hw
  | read event reply hw => exact recording_read h hw reply
  | reply request ret reply hw =>
    rw [hw] at htracks
    have hfail := h.walking (congrArg Records.walking hw)
    refine ⟨tracks_afterOutcome htracks reply, fun _ => hfail, h.last,
      ⟨⟨by simp [turnsTo], by simp, by simp, by simp⟩, h.sound⟩⟩
  | plan state m p reply hw =>
    rw [hw] at htracks
    have hnone : attempt q.log = none := htracks
    refine recording_plain (e := .planned state m p reply) h rfl rfl rfl ?_ ?_
    · rw [hnone]
      exact tracks_afterPlan state m p reply
    · simp [hw, Records.walking]

theorem recording_run {enabled : Bool} {parameters : ParameterMap} {q : DeviceQueue}
    (hrun : Runs next free (fresh enabled parameters) q) : Recording q :=
  hrun.invariant ⟨rfl, (fun hw => nomatch hw), rfl, trivial⟩
    fun _ _ _ h _ hn => recording_step h hn

theorem honest_records {enabled : Bool} {parameters : ParameterMap} {q : DeviceQueue}
    (hrun : Runs next free (fresh enabled parameters) q) :
    Always Sound q.log ∧ q.lastTransition = lastRecord q.log ∧ q.worker ≠ .terminated := by
  have h := recording_run hrun
  refine ⟨h.sound, h.last, ?_⟩
  intro hw
  have htracks := h.tracks
  rw [hw] at htracks
  exact htracks

/-- A runtime that reports success for a target it did not reach, in a batch of two. -/
def missedTarget : List Action :=
  [.start, .spawn, .enqueue [⟨.unconfigured, .inactive, ∅⟩, ⟨.inactive, .active, ∅⟩] .normal,
    .work .go, .work (.state (.ok .unconfigured)), .work .go,
    .work (.outcome (.ok ⟨.success, "configured"⟩)), .work (.state (.ok .unconfigured)), .work .go]

theorem honest_records_missedTarget :
    ∃ q, exec next free missedTarget (fresh true ∅) = some q ∧ q.worker = .waiting ∧
      q.lastTransition.map (fun record => record.result) = some .failure ∧ Always Sound q.log := by
  have hexec : exec next free missedTarget (fresh true ∅) = some _ := rfl
  exact ⟨_, hexec, rfl, rfl, (honest_records (exec_runs missedTarget hexec)).1⟩

end DeviceManager.Records
