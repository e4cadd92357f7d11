import DeviceManager.Manager
import DeviceManager.QueueStep

namespace DeviceManager.ManagerStep

open Domain WorkerThread Transition Queue QueueStep Manager

section

variable (m : Impl) (id : String) (ids : List String) (thrown : Bool)

@[simp] theorem startFrom_ids : (m.startFrom ids).ids = m.ids := by cases ids <;> rfl

@[simp] theorem startFrom_devices : (m.startFrom ids).devices = m.devices := by cases ids <;> rfl

@[simp] theorem startFrom_running : (m.startFrom ids).running = m.running := by cases ids <;> rfl

@[simp] theorem startFrom_submission : (m.startFrom ids).submission = m.submission := by
  cases ids <;> rfl

@[simp] theorem startFrom_answers : (m.startFrom ids).answers = m.answers := by cases ids <;> rfl

@[simp] theorem startFrom_returned : (m.startFrom ids).returned = m.returned := by cases ids <;> rfl

@[simp] theorem stopFrom_ids : (m.stopFrom thrown ids).ids = m.ids := by cases ids <;> rfl

@[simp] theorem stopFrom_devices : (m.stopFrom thrown ids).devices = m.devices := by
  cases ids <;> rfl

@[simp] theorem stopFrom_running : (m.stopFrom thrown ids).running = m.running := by
  cases ids <;> rfl

@[simp] theorem stopFrom_submission : (m.stopFrom thrown ids).submission = m.submission := by
  cases ids <;> rfl

@[simp] theorem stopFrom_answers : (m.stopFrom thrown ids).answers = m.answers := by
  cases ids <;> rfl

@[simp] theorem rollback_ids : m.rollback.ids = m.ids := stopFrom_ids ..

@[simp] theorem rollback_devices : m.rollback.devices = m.devices := stopFrom_devices ..

@[simp] theorem rollback_running : m.rollback.running = m.running := stopFrom_running ..

@[simp] theorem rollback_submission : m.rollback.submission = m.submission := stopFrom_submission ..

@[simp] theorem rollback_answers : m.rollback.answers = m.answers := stopFrom_answers ..

end

@[simp] theorem setQueue_self (m : Impl) (id : String) :
    m.setQueue id (m.devices id).queue = m := by
  simp [Impl.setQueue, Impl.setDevice, Device.setQueue]

theorem act_some {m t : Impl} {id : String} {action : Action} (h : m.act id action = some t) :
    ∃ q, Queue.next (m.devices id).queue action = some q ∧ t = m.setQueue id q := by
  obtain ⟨q, hq, rfl⟩ := Option.map_eq_some_iff.mp h
  exact ⟨q, hq, rfl⟩

inductive Move (m : Impl) : ManagerAction → Impl → Prop
  | startAgain (hl : m.lifecycle = none) (hr : m.running = true) : Move m .start (m.finish .started)
  | start (hl : m.lifecycle = none) (hr : m.running = false) : Move m .start (m.startFrom m.ids)
  | stop (hl : m.lifecycle = none) : Move m .stop (m.at .exchanging)
  | attach (id : String) (rest : List String)
      (hl : m.lifecycle = some (.starting .handler id rest)) :
    Move m (.lifecycle .returned)
      ((m.setDevice id ((m.devices id).setEventHandler true .returned)).at
        (.starting .check id rest))
  | attachThrew (holds : Bool) (id : String) (rest : List String)
      (hl : m.lifecycle = some (.starting .handler id rest)) :
    Move m (.lifecycle (.threw holds))
      (m.setDevice id ((m.devices id).setEventHandler true (.threw holds))).rollback
  | known (outcome : Outcome) (id : String) (rest : List String)
      (hl : m.lifecycle = some (.starting .check id rest))
      (hh : (m.devices id).hookRegistered = true) :
    Move m (.lifecycle outcome) (m.at (.starting .queue id rest))
  | unknown (outcome : Outcome) (id : String) (rest : List String)
      (hl : m.lifecycle = some (.starting .check id rest))
      (hh : (m.devices id).hookRegistered = false) :
    Move m (.lifecycle outcome)
      ((m.setDevice id (m.devices id).enterRegisterHook).at (.starting .register id rest))
  | register (id : String) (rest : List String)
      (hl : m.lifecycle = some (.starting .register id rest)) :
    Move m (.lifecycle .returned) (m.at (.starting .confirm id rest))
  | registerThrew (holds : Bool) (id : String) (rest : List String)
      (hl : m.lifecycle = some (.starting .register id rest)) :
    Move m (.lifecycle (.threw holds))
      ((m.setDevice id (m.devices id).failRegisterHook).at (.starting .drop id rest))
  | registrar (hook : Option LifecycleHook) (id : String) (rest : List String)
      (hl : m.lifecycle = some (.starting .register id rest)) :
    Move m (.register hook) (m.setDevice id ((m.devices id).registrar hook))
  | confirm (outcome : Outcome) (id : String) (rest : List String)
      (hl : m.lifecycle = some (.starting .confirm id rest)) :
    Move m (.lifecycle outcome)
      ((m.setDevice id (m.devices id).confirm).at (.starting .queue id rest))
  | drop (outcome : Outcome) (id : String) (rest : List String)
      (hl : m.lifecycle = some (.starting .drop id rest)) :
    Move m (.lifecycle outcome) (m.setDevice id (m.devices id).dropHook).rollback
  | arm (outcome : Outcome) (id : String) (rest : List String)
      (hl : m.lifecycle = some (.starting .queue id rest))
      (hr : (m.devices id).queue.running = false) :
    Move m (.lifecycle outcome)
      ((m.setQueue id (m.devices id).queue.arm).at (.starting .spawn id rest))
  | armed (outcome : Outcome) (id : String) (rest : List String)
      (hl : m.lifecycle = some (.starting .queue id rest))
      (hr : (m.devices id).queue.running = true) :
    Move m (.lifecycle outcome) (m.startFrom rest)
  | spawn (id : String) (rest : List String)
      (hl : m.lifecycle = some (.starting .spawn id rest))
      (hw : (m.devices id).queue.worker = .absent) :
    Move m (.lifecycle .returned)
      ((m.setQueue id ((m.devices id).queue.setWorker .waiting)).startFrom rest)
  | spawnThrew (holds : Bool) (id : String) (rest : List String)
      (hl : m.lifecycle = some (.starting .spawn id rest)) :
    Move m (.lifecycle (.threw holds)) m.rollback
  | publish (outcome : Outcome) (hl : m.lifecycle = some .publishing) (hs : m.submission = none) :
    Move m (.lifecycle outcome) ((m.setRunning true).finish .started)
  | exchange (outcome : Outcome) (hl : m.lifecycle = some .exchanging) (hs : m.submission = none)
      (hr : m.running = true) :
    Move m (.lifecycle outcome) ((m.setRunning false).stopFrom false m.ids)
  | exchangeAgain (outcome : Outcome) (hl : m.lifecycle = some .exchanging)
      (hs : m.submission = none) (hr : m.running = false) :
    Move m (.lifecycle outcome) (m.finish .stopped)
  | halt (outcome : Outcome) (id : String) (rest : List String) (thrown : Bool)
      (hl : m.lifecycle = some (.stopping .queue id rest thrown))
      (hr : (m.devices id).queue.running = true) :
    Move m (.lifecycle outcome)
      ((m.setQueue id (m.devices id).queue.clear).at (.stopping .join id rest thrown))
  | halted (outcome : Outcome) (id : String) (rest : List String) (thrown : Bool)
      (hl : m.lifecycle = some (.stopping .queue id rest thrown))
      (hr : (m.devices id).queue.running = false) :
    Move m (.lifecycle outcome)
      (m.at (.stopping .handler id rest thrown))
  | unjoinable (outcome : Outcome) (id : String) (rest : List String) (thrown : Bool)
      (hl : m.lifecycle = some (.stopping .join id rest thrown))
      (hw : (m.devices id).queue.worker = .absent) :
    Move m (.lifecycle outcome) (m.at (.stopping .handler id rest thrown))
  | join (outcome : Outcome) (id : String) (rest : List String) (thrown : Bool)
      (hl : m.lifecycle = some (.stopping .join id rest thrown))
      (hw : (m.devices id).queue.worker = .finished) :
    Move m (.lifecycle outcome)
      ((m.setQueue id ((m.devices id).queue.setWorker .absent)).at
        (.stopping .handler id rest thrown))
  | detach (outcome : Outcome) (id : String) (rest : List String) (thrown : Bool)
      (hl : m.lifecycle = some (.stopping .handler id rest thrown)) :
    Move m (.lifecycle outcome)
      ((m.setDevice id ((m.devices id).setEventHandler false outcome)).stopFrom thrown rest)
  | refuse (submission : Submission) (result : SubmissionResult)
      (hc : m.check submission = some result) :
    Move m (.submit submission) (m.answer submission result)
  | hold (submission : Submission) (hs : m.submission = none) (hc : m.check submission = none) :
    Move m (.submit submission) { m with submission := some (submission, none) }
  | push (submission : Submission) (owner : Option Nat) (q : DeviceQueue)
      (hs : m.submission = some (submission, owner))
      (hq : Queue.next (m.devices submission.id).queue submission.action = some q) :
    Move m .push
      (((m.setQueue submission.id q).answer submission
        (submission.result (m.devices submission.id).queue)).release owner)
  | tick : Move m .tick (m.setTicks (m.ticks ++ [.visiting (if m.running then m.ids else [])]))
  | ticking (index : Nat) (answer : TickAnswer) (ticks : List Tick) :
    Move m (.ticking index answer) (m.setTicks ticks)
  | tickRefuse (index : Nat) (submission : Submission) (result : SubmissionResult)
      (ticks : List Tick) (hc : m.check submission = some result) :
    Move m (.ticking index .go) ((m.answer submission result).setTicks ticks)
  | tickHold (index : Nat) (submission : Submission) (ticks : List Tick)
      (hs : m.submission = none) (hc : m.check submission = none) :
    Move m (.ticking index .go)
      { m with
        submission := some (submission, some index)
        ticks := ticks }
  | work (id : String) (answer : Answer) (q : DeviceQueue) (hid : id ∈ m.ids)
      (hq : Queue.next (m.devices id).queue (.work answer) = some q) :
    Move m (.work id answer) (m.setQueue id q)
  | event (id : String) (event : DeviceEvent) (hid : id ∈ m.ids) :
    Move m (.event id event) (m.setDevice id ((m.devices id).observe event))

theorem starting_move {m t : Impl} {outcome : Outcome} {id : String} {rest : List String}
    {point : Starting} (hl : m.lifecycle = some (.starting point id rest))
    (h : m.starting outcome id rest point = some t) : Move m (.lifecycle outcome) t := by
  cases point with
  | handler =>
    cases outcome with
    | returned => exact Option.some.inj h ▸ Move.attach id rest hl
    | threw holds => exact Option.some.inj h ▸ Move.attachThrew holds id rest hl
  | check =>
    cases hh : (m.devices id).hookRegistered with
    | true =>
      simp only [Impl.starting, hh, if_true, Option.some.injEq] at h
      exact h ▸ Move.known outcome id rest hl hh
    | false =>
      simp only [Impl.starting, hh, Bool.false_eq_true, if_false, Option.some.injEq] at h
      exact h ▸ Move.unknown outcome id rest hl hh
  | register =>
    cases outcome with
    | returned => exact Option.some.inj h ▸ Move.register id rest hl
    | threw holds => exact Option.some.inj h ▸ Move.registerThrew holds id rest hl
  | confirm => exact Option.some.inj h ▸ Move.confirm outcome id rest hl
  | drop => exact Option.some.inj h ▸ Move.drop outcome id rest hl
  | queue =>
    simp only [Impl.starting, Option.map_eq_some_iff] at h
    obtain ⟨u, hu, rfl⟩ := h
    obtain ⟨q, hq, rfl⟩ := act_some hu
    cases next_move hq with
    | start hr => simpa [hr] using Move.arm outcome id rest hl hr
    | startAgain hr => simpa [hr] using Move.armed outcome id rest hl hr
  | spawn =>
    cases outcome with
    | threw holds => exact Option.some.inj h ▸ Move.spawnThrew holds id rest hl
    | returned =>
      obtain ⟨u, hu, rfl⟩ := Option.map_eq_some_iff.mp h
      obtain ⟨q, hq, rfl⟩ := act_some hu
      cases next_move hq with
      | spawn hw => exact Move.spawn id rest hl hw

theorem stopping_move {m t : Impl} {outcome : Outcome} {id : String} {rest : List String}
    {thrown : Bool} {point : Stopping}
    (hl : m.lifecycle = some (.stopping point id rest thrown))
    (h : m.stopping outcome id rest thrown point = some t) : Move m (.lifecycle outcome) t := by
  cases point with
  | queue =>
    simp only [Impl.stopping, Option.map_eq_some_iff] at h
    obtain ⟨u, hu, rfl⟩ := h
    obtain ⟨q, hq, rfl⟩ := act_some hu
    cases next_move hq with
    | stop hr => simpa [hr] using Move.halt outcome id rest thrown hl hr
    | stopAgain hr => simpa [hr] using Move.halted outcome id rest thrown hl hr
  | join =>
    by_cases hw : (m.devices id).queue.worker = .absent
    · simp only [Impl.stopping, hw, if_true, Option.some.injEq] at h
      exact h ▸ Move.unjoinable outcome id rest thrown hl hw
    · simp only [Impl.stopping, hw, if_false] at h
      obtain ⟨u, hu, rfl⟩ := Option.map_eq_some_iff.mp h
      obtain ⟨q, hq, rfl⟩ := act_some hu
      cases next_move hq with
      | join hf => exact Move.join outcome id rest thrown hl hf
  | handler => exact Option.some.inj h ▸ Move.detach outcome id rest thrown hl

theorem advance_move {m t : Impl} {outcome : Outcome} (h : m.advance outcome = some t) :
    Move m (.lifecycle outcome) t := by
  unfold Impl.advance at h
  split at h
  · cases h
  · next point id rest hl => exact starting_move hl h
  · next hl =>
    simp only [Impl.publish, Option.ite_none_left_eq_some, Option.some.injEq,
      Option.not_isSome_iff_eq_none] at h
    exact h.2 ▸ Move.publish outcome hl h.1
  · next hl =>
    simp only [Impl.exchange, Option.ite_none_left_eq_some, Option.not_isSome_iff_eq_none] at h
    obtain ⟨hs, h⟩ := h
    cases hr : m.running with
    | true =>
      simp only [hr, if_true, Option.some.injEq] at h
      exact h ▸ Move.exchange outcome hl hs hr
    | false =>
      simp only [hr, Bool.false_eq_true, if_false, Option.some.injEq] at h
      exact h ▸ Move.exchangeAgain outcome hl hs hr
  · next point id rest thrown hl => exact stopping_move hl h

theorem submit_cases {m t : Impl} {submission : Submission} {owner : Option Nat}
    (h : m.submit submission owner = some t) : m.submission = none ∧
      ((∃ result, m.check submission = some result ∧ t = m.answer submission result) ∨
        (m.check submission = none ∧ t = { m with submission := some (submission, owner) })) := by
  simp only [Impl.submit, Option.ite_none_left_eq_some, Option.not_isSome_iff_eq_none] at h
  obtain ⟨hs, h⟩ := h
  refine ⟨hs, ?_⟩
  cases hc : m.check submission with
  | some result =>
    simp only [hc, Option.some.injEq] at h
    exact Or.inl ⟨result, rfl, h.symm⟩
  | none =>
    simp only [hc, Option.some.injEq] at h
    exact Or.inr ⟨rfl, h.symm⟩

theorem ticking_move {m t : Impl} {index : Nat} {answer : TickAnswer}
    (h : m.ticking index answer = some t) : Move m (.ticking index answer) t := by
  unfold Impl.ticking at h
  split at h
  · split at h <;> exact Option.some.inj h ▸ Move.ticking index _ _
  · exact Option.some.inj h ▸ Move.ticking index _ _
  · exact Option.some.inj h ▸ Move.ticking index _ _
  · split at h <;> exact Option.some.inj h ▸ Move.ticking index _ _
  · exact Option.some.inj h ▸ Move.ticking index _ _
  · obtain ⟨u, hu, rfl⟩ := Option.map_eq_some_iff.mp h
    obtain ⟨hs, ⟨result, hc, rfl⟩ | ⟨hc, rfl⟩⟩ := submit_cases hu
    · simpa [hs] using Move.tickRefuse index _ result _ hc
    · exact Move.tickHold index _ _ hs hc
  · cases h

/-- The inversion lemma of the manager. -/
theorem manager_move {m t : Impl} {action : ManagerAction} (h : m.next action = some t) :
    Move m action t := by
  cases action with
  | start =>
    simp only [Impl.next, Option.ite_none_left_eq_some, Option.not_isSome_iff_eq_none] at h
    obtain ⟨hl, h⟩ := h
    cases hr : m.running with
    | true =>
      simp only [hr, if_true, Option.some.injEq] at h
      exact h ▸ Move.startAgain hl hr
    | false =>
      simp only [hr, Bool.false_eq_true, if_false, Option.some.injEq] at h
      exact h ▸ Move.start hl hr
  | stop =>
    simp only [Impl.next, Option.ite_none_left_eq_some, Option.not_isSome_iff_eq_none,
      Option.some.injEq] at h
    exact h.2 ▸ Move.stop h.1
  | lifecycle outcome => exact advance_move h
  | register hook =>
    simp only [Impl.next] at h
    split at h
    · next id rest hl => exact Option.some.inj h ▸ Move.registrar hook id rest hl
    · cases h
  | submit submission =>
    obtain ⟨hs, ⟨result, hc, rfl⟩ | ⟨hc, rfl⟩⟩ := submit_cases h
    · exact Move.refuse submission result hc
    · exact Move.hold submission hs hc
  | push =>
    simp only [Impl.next, Impl.push] at h
    split at h
    · cases h
    · next submission owner hs =>
      obtain ⟨u, hu, rfl⟩ := Option.map_eq_some_iff.mp h
      obtain ⟨q, hq, rfl⟩ := act_some hu
      exact Move.push submission owner q hs hq
  | tick => exact Option.some.inj h ▸ Move.tick
  | ticking index answer => exact ticking_move h
  | work id answer =>
    simp only [Impl.next, Option.ite_none_right_eq_some] at h
    obtain ⟨q, hq, rfl⟩ := act_some h.2
    exact Move.work id answer q h.1 hq
  | event id event =>
    simp only [Impl.next, Option.ite_none_right_eq_some, Option.some.injEq] at h
    exact h.2 ▸ Move.event id event h.1

/-- A queue is left alone or takes one allowed step of its machine. -/
def Follows (ok : Action → Prop) (q t : DeviceQueue) : Prop :=
  t = q ∨ ∃ action, ok action ∧ Queue.next q action = some t

def internal : Action → Prop
  | .enqueue _ _ | .patch _ _ => False
  | _ => True

theorem follows_setDevice {ok : Action → Prop} {m : Impl} {id : String} {d : Device}
    (h : d.queue = (m.devices id).queue) (id' : String) :
    Follows ok (m.devices id').queue ((m.setDevice id d).devices id').queue := by
  by_cases hid : id' = id
  · subst hid
    exact Or.inl (by simp [h])
  · exact Or.inl (by simp [hid])

theorem follows_setQueue {ok : Action → Prop} {m : Impl} {id : String} {q : DeviceQueue}
    {action : Action} (ha : ok action) (h : Queue.next (m.devices id).queue action = some q)
    (id' : String) : Follows ok (m.devices id').queue ((m.setQueue id q).devices id').queue := by
  by_cases hid : id' = id
  · subst hid
    exact Or.inr ⟨action, ha, by simpa [Impl.setQueue] using h⟩
  · exact Or.inl (by simp [Impl.setQueue, hid])

theorem follows_move {m t : Impl} {action : ManagerAction} (h : Move m action t) (id : String) :
    Follows (fun a => action = .push ∨ internal a) (m.devices id).queue (t.devices id).queue := by
  cases h with
  | attach id' | attachThrew _ id' | unknown _ id' | registerThrew _ id' | confirm _ id'
  | drop _ id' | detach _ id'
  | registrar _ id' | event id' =>
    simpa using follows_setDevice (by simp) id
  | arm _ id' _ _ hr =>
    have hn : Queue.next (m.devices id').queue .start = some (m.devices id').queue.arm := by
      simp [Queue.next, DeviceQueue.start, hr]
    exact follows_setQueue (Or.inr trivial) hn id
  | spawn id' _ _ hw =>
    have hn : Queue.next (m.devices id').queue .spawn =
        some ((m.devices id').queue.setWorker .waiting) := by simp [Queue.next, hw]
    rw [startFrom_devices]
    exact follows_setQueue (Or.inr trivial) hn id
  | halt _ id' _ _ _ hr =>
    have hn : Queue.next (m.devices id').queue .stop = some (m.devices id').queue.clear := by
      simp [Queue.next, DeviceQueue.stop, hr]
    exact follows_setQueue (Or.inr trivial) hn id
  | join _ id' _ _ _ hw =>
    have hn : Queue.next (m.devices id').queue .join =
        some ((m.devices id').queue.setWorker .absent) := by simp [Queue.next, hw]
    exact follows_setQueue (Or.inr trivial) hn id
  | push _ _ q _ hq => exact follows_setQueue (Or.inl rfl) hq id
  | work _ _ q _ hq => exact follows_setQueue (Or.inr trivial) hq id
  | _ => exact Or.inl (by simp)

/-- What a run of the manager does to the queue of a device is a run of the
machine of that queue. -/
theorem queue_run {m t : Impl} (h : Runs Impl.next anyOrder m t) (id : String) :
    Runs Queue.next free (m.devices id).queue (t.devices id).queue := by
  apply h.project fun u => (u.devices id).queue
  intro u action v _ hn
  obtain he | ⟨queueAction, -, hq⟩ := follows_move (manager_move hn) id
  · rw [he]
    exact Runs.refl _
  · exact (Runs.refl _).snoc trivial hq

end DeviceManager.ManagerStep
