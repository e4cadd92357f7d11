import DeviceManager.Posts
import DeviceManager.Rounds

namespace DeviceManager.Shutdown

open Domain WorkerThread Transition Queue QueueStep Log History Lanes Linearization Rounds Manager
  ManagerStep Posts

/-- The last call of `start` or `stop` that returned was a stop, and none is in progress. -/
def Stopped (m : Impl) : Prop := m.lifecycle = none ∧ m.returned.head? = some .stopped

/-- Every action but a call of `start`. -/
def unstarted (_ : Impl) : ManagerAction → Prop
  | .start => False
  | _ => True

instance (m : Impl) (action : ManagerAction) : Decidable (unstarted m action) :=
  match action with
  | .start => isFalse id
  | .stop | .lifecycle _ | .register _ | .submit _ | .push | .tick | .ticking _ _ | .work _ _
  | .event _ _ => isTrue trivial

structure Down (q : DeviceQueue) : Prop where
  running : q.running = false
  worker : q.worker = .absent
  urgent : q.urgentQueue = []
  normal : q.normalQueue = []
  pending : q.pendingParameterPatch = ∅

def Refused (older answers : List (Submission × SubmissionResult)) : Prop :=
  ∃ newer, answers = newer ++ older ∧ ∀ answer ∈ newer, answer.2 = notRunning

/-- No device was touched, its history included, and every submission was refused. -/
structure Silent (m t : Impl) : Prop where
  queues : ∀ id ∈ m.ids, (t.devices id).queue = (m.devices id).queue
  answers : Refused m.answers t.answers

/-- What was dequeued since the last stop are the first entries queued since
then, and each carries values accepted since then. -/
structure Discarded (q : DeviceQueue) : Prop where
  entries : ∀ p, popped p (ops (sinceStop q.log)) <+: pushed p (ops (sinceStop q.log))
  own : Always Own q.log

/-- A worker that has ended attempted last to finalize, or saw that it need not. -/
structure Farewell (q : DeviceQueue) : Prop where
  finished : q.worker = .finished → ∃ last, lastAttempt q.log = some last ∧ last.Final
  joined : q.worker = .absent → ∀ last, lastAttempt q.log = some last → last.Final

structure Hushed (m t : Impl) : Prop where
  ids : t.ids = m.ids
  running : t.running = false
  lifecycle : t.lifecycle = none ∨ t.lifecycle = some .exchanging
  submission : t.submission = none
  workers : ∀ id ∈ t.ids, (t.devices id).queue.worker = .absent
  queues : ∀ id ∈ m.ids, (t.devices id).queue = (m.devices id).queue
  answers : Refused m.answers t.answers

theorem check_notRunning {m : Impl} (h : m.running = false) (submission : Submission) :
    m.check submission = some notRunning := by simp [Impl.check, h]

theorem refused_cons {older answers : List (Submission × SubmissionResult)}
    (h : Refused older answers) (submission : Submission) :
    Refused older ((submission, notRunning) :: answers) := by
  obtain ⟨newer, rfl, hall⟩ := h
  refine ⟨(submission, notRunning) :: newer, rfl, ?_⟩
  intro answer hm
  obtain rfl | hm := List.mem_cons.mp hm
  · rfl
  · exact hall answer hm

theorem hushed_step {m t u : Impl} {action : ManagerAction} (h : Hushed m t)
    (ha : unstarted t action) (hn : t.next action = some u) : Hushed m u := by
  have hnot : ∀ point, point ≠ Lifecycle.exchanging → t.lifecycle ≠ some point := by
    intro point hp hl
    obtain hnone | hex := h.lifecycle
    · simp [hl] at hnone
    · exact hp (Option.some.inj (hl.symm.trans hex))
  cases manager_move hn with
  | startAgain | start => exact ha.elim
  | stop hl => exact ⟨h.ids, h.running, Or.inr rfl, h.submission, h.workers, h.queues, h.answers⟩
  | exchange _ _ _ hr => simp [h.running] at hr
  | exchangeAgain =>
    exact ⟨h.ids, h.running, Or.inl rfl, h.submission, h.workers, h.queues, h.answers⟩
  | refuse s result hc =>
    obtain rfl := Option.some.inj ((check_notRunning h.running s).symm.trans hc)
    exact ⟨h.ids, h.running, h.lifecycle, h.submission, h.workers, h.queues,
      refused_cons h.answers s⟩
  | tickRefuse index s result ticks hc =>
    obtain rfl := Option.some.inj ((check_notRunning h.running s).symm.trans hc)
    exact ⟨h.ids, h.running, h.lifecycle, h.submission, h.workers, h.queues,
      refused_cons h.answers s⟩
  | hold s _ hc => simp [check_notRunning h.running s] at hc
  | tickHold _ s _ _ hc => simp [check_notRunning h.running s] at hc
  | push _ _ _ hs => simp [h.submission] at hs
  | tick => exact ⟨h.ids, h.running, h.lifecycle, h.submission, h.workers, h.queues, h.answers⟩
  | ticking => exact ⟨h.ids, h.running, h.lifecycle, h.submission, h.workers, h.queues, h.answers⟩
  | work id answer q hid hq => exact absurd (h.workers id hid) (work_flags hq).2.1
  | event id event hid =>
    have hqueue : ∀ id', ((t.setDevice id ((t.devices id).observe event)).devices id').queue =
        (t.devices id').queue := by
      intro id'
      by_cases he : id' = id <;> simp [he]
    refine ⟨h.ids, h.running, h.lifecycle, h.submission, ?_, ?_, h.answers⟩
    · intro id' hm
      rw [hqueue]
      exact h.workers id' hm
    · intro id' hm
      rw [hqueue]
      exact h.queues id' hm
  | publish _ hl | attach _ _ hl | attachThrew _ _ _ hl | known _ _ _ hl | unknown _ _ _ hl
  | register _ _ hl | registerThrew _ _ _ hl | registrar _ _ _ hl | confirm _ _ _ hl
  | drop _ _ _ hl | arm _ _ _ hl | armed _ _ _ hl | spawn _ _ hl | spawnThrew _ _ _ hl
  | halt _ _ _ _ hl | halted _ _ _ _ hl | unjoinable _ _ _ _ hl | join _ _ _ _ hl
  | detach _ _ _ _ hl => exact absurd hl (hnot _ (by simp))

theorem silent_run {m t : Impl} (hp : Placed m) (hr : m.running = false)
    (hl : m.lifecycle = none) (hrun : Runs Impl.next unstarted m t) : Silent m t := by
  have hsub : m.submission = none := by
    cases hs : m.submission with
    | none => rfl
    | some owner =>
      have hrunning := hp.submission (by simp [hs])
      simp [hr] at hrunning
  have hwork : ∀ id ∈ m.ids, (m.devices id).queue.worker = .absent := by
    intro id hm
    have hfit := (hp.fit id hm).queue
    simp only [hl, hr, post] at hfit
    exact hfit.2
  have hstart : Hushed m m :=
    ⟨rfl, hr, Or.inl hl, hsub, hwork, fun _ _ => rfl, [], rfl, fun _ hm => by cases hm⟩
  have hend := hrun.invariant hstart fun _ _ _ h ha hn => hushed_step h ha hn
  exact ⟨hend.queues, hend.answers⟩

theorem down_idle {enabled : Bool} {parameters : ParameterMap} {q : DeviceQueue}
    (hrun : Runs Queue.next free (fresh enabled parameters) q) (hfit : QueueFit .off q) :
    Down q := by
  obtain ⟨hu, hn, hp⟩ := (renewed_run hrun).idle hfit.1
  exact ⟨hfit.1, hfit.2, hu, hn, hp⟩

theorem discarded_run {enabled : Bool} {parameters : ParameterMap} {q : DeviceQueue}
    (hrun : Runs Queue.next free (fresh enabled parameters) q) : Discarded q := by
  have h := renewed_run hrun
  refine ⟨fun p => ?_, h.own⟩
  rw [pushed_eq h.lined.orderly p]
  exact List.prefix_append _ _

theorem farewell_run {enabled : Bool} {parameters : ParameterMap} {q : DeviceQueue}
    (hrun : Runs Queue.next free (fresh enabled parameters) q) : Farewell q := by
  have h := parting_run hrun
  constructor
  · intro hw
    rwa [hw] at h
  · intro hw
    rwa [hw] at h

theorem clean_shutdown {ids : List String} {nodup : ids.Nodup}
    {definition : String → DeviceDefinition} {m : Impl}
    (hrun : Runs Impl.next anyOrder (Impl.create ids nodup definition) m) :
    (Stopped m → m.running = false ∧ (∀ id ∈ m.ids, Down (m.devices id).queue) ∧
      ∀ t, Runs Impl.next unstarted m t → Silent m t) ∧
    (∀ id, Discarded (m.devices id).queue) ∧ ∀ id, Farewell (m.devices id).queue := by
  have hp := placed_run hrun
  have hqueue : ∀ id, Runs Queue.next free
      (fresh (definition id).enabled (definition id).parameters) (m.devices id).queue :=
    fun id => queue_run hrun id
  refine ⟨?_, fun id => discarded_run (hqueue id), fun id => farewell_run (hqueue id)⟩
  rintro ⟨hl, hret⟩
  have hr : m.running = false := by
    have hv := verdict_run hrun
    simp only [Verdict, hl, hret] at hv
    simpa using hv
  refine ⟨hr, ?_, fun t ht => silent_run hp hr hl ht⟩
  intro id hm
  have hfit := (hp.fit id hm).queue
  simp only [hl, hr, post] at hfit
  exact down_idle (hqueue id) hfit

def oneDevice : Impl := Impl.create ["imu"] (by decide) fun _ => ⟨true, ∅⟩

def midBatch : List ManagerAction :=
  launch 7 ++
  [.submit (.enqueue "imu" [⟨.unconfigured, .inactive, ∅⟩] .normal), .push,
    .work "imu" .go, .work "imu" (.state (.ok .unconfigured)), .work "imu" .go,
    .submit (.enqueue "imu" [⟨.inactive, .active, ∅⟩] .normal), .push,
    .stop, .lifecycle .returned, .lifecycle .returned,
    .work "imu" (.outcome (.ok ⟨.success, "configured"⟩)), .work "imu" (.state (.ok .inactive)),
    .work "imu" .go, .work "imu" .go, .work "imu" (.state (.ok .inactive)),
    .work "imu" (.state (.ok .inactive)), .work "imu" .go,
    .work "imu" (.outcome (.ok ⟨.success, "finalized"⟩)), .work "imu" (.state (.ok .finalized)),
    .work "imu" .go, .lifecycle .returned, .lifecycle .returned]

def latePatch : List ManagerAction :=
  [.submit (.patch "imu" (Finmap.singleton "gain" (.int 1)) .urgent)]

theorem clean_shutdown_midBatch :
    ∃ m t, exec Impl.next anyOrder midBatch oneDevice = some m ∧ Stopped m ∧
      exec Impl.next unstarted latePatch m = some t ∧ t.answers.length = 3 ∧
      Silent m t ∧ Farewell (m.devices "imu").queue ∧
      lastAttempt (m.devices "imu").queue.log = some (.request ⟨.inactive, .finalized, ∅⟩) := by
  have hexec : exec Impl.next anyOrder midBatch oneDevice = some _ := rfl
  obtain ⟨hstop, -, hfare⟩ := clean_shutdown (exec_runs midBatch hexec)
  exact ⟨_, _, hexec, ⟨rfl, rfl⟩, rfl, rfl, (hstop ⟨rfl, rfl⟩).2.2 _ (exec_runs latePatch rfl),
    hfare "imu", rfl⟩

end DeviceManager.Shutdown
