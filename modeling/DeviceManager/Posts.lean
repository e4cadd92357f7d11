import DeviceManager.ManagerStep

namespace DeviceManager.Posts

open Domain WorkerThread Transition Queue QueueStep Manager ManagerStep

/-- Where the owner of the lifecycle mutex has left a device. -/
inductive Post where
  | off | attached | registering | dropping | ready | armed | on | due | leaving | left
  deriving DecidableEq

def startingPost : Starting → Post
  | .handler => .off
  | .check => .attached
  | .register | .confirm => .registering
  | .drop => .dropping
  | .queue => .ready
  | .spawn => .armed

def stoppingPost : Stopping → Post
  | .queue => .due
  | .join => .leaving
  | .handler => .left

def post (running : Bool) (lifecycle : Option Lifecycle) (id : String) : Post :=
  match lifecycle with
  | none | some .exchanging => if running then .on else .off
  | some .publishing => .on
  | some (.starting point id' rest) =>
    if id = id' then startingPost point else if id ∈ rest then .off else .on
  | some (.stopping point id' rest _) =>
    if id = id' then stoppingPost point else if id ∈ rest then .due else .off

def firstHook (offers : List (Option LifecycleHook)) : Option LifecycleHook :=
  offers.findSome? fun hook => hook

/-- `register_hook` has returned once, and the device has the hook of that call. -/
def Registered (d : Device) : Prop :=
  d.hookRegistered = true ∧ d.registerThrew = false ∧
    ∃ offers, d.registrations = [offers] ∧ d.hook = firstHook offers

def Unregistered (d : Device) : Prop :=
  d.hookRegistered = false ∧ d.registrations = [] ∧ d.hook = none

def QueueFit : Post → DeviceQueue → Prop
  | .armed, q => q.running = true ∧ q.worker = .absent
  | .on, q => q.running = true ∧ q.worker ≠ .absent
  | .due, q => q.running = false → q.worker = .absent
  | .leaving, q => q.running = false
  | _, q => q.running = false ∧ q.worker = .absent

def HookFit : Post → Device → Prop
  | .registering, d =>
    d.hookRegistered = false ∧ d.registrations = [] ∧ d.hook = firstHook d.offers ∧
      d.registerThrew = false
  | .dropping, d => d.hookRegistered = false ∧ d.registrations = []
  | .ready, d | .armed, d | .on, d => Registered d
  | _, d => Registered d ∨ Unregistered d

def HandlerFit : Post → Device → Prop
  | .off, d => d.handler = true → d.clearThrew = true
  | _, _ => True

/-- What holds of a device at its post. -/
structure Fit (p : Post) (d : Device) : Prop where
  queue : QueueFit p d.queue
  hook : HookFit p d
  handler : HandlerFit p d

def Seated (ids : List String) (running : Bool) : Option Lifecycle → Prop
  | some (.starting _ id rest) | some (.stopping _ id rest _) =>
    running = false ∧ id :: rest <:+ ids
  | some .publishing => running = false
  | _ => True

structure Placed (m : Impl) : Prop where
  fit : ∀ id ∈ m.ids, Fit (post m.running m.lifecycle id) (m.devices id)
  seated : Seated m.ids m.running m.lifecycle
  submission : m.submission.isSome = true → m.running = true

theorem fit_create (definition : DeviceDefinition) : Fit .off (Device.create definition) :=
  ⟨⟨rfl, rfl⟩, Or.inr ⟨rfl, rfl, rfl⟩, fun h => nomatch h⟩

theorem placed_create (ids : List String) (nodup : ids.Nodup)
    (definition : String → DeviceDefinition) : Placed (Impl.create ids nodup definition) :=
  ⟨fun id _ => fit_create (definition id), trivial, fun h => nomatch h⟩

theorem firstHook_append (offers : List (Option LifecycleHook)) (hook : Option LifecycleHook) :
    firstHook (offers ++ [hook]) = (firstHook offers).or hook := by
  cases hook <;> simp [firstHook, List.findSome?_append]

/-- Whatever the post of a device outside its own start, a rollback may begin. -/
theorem fit_due {p : Post} {d : Device} (h : Fit p d) (hp : p = .off ∨ p = .on) : Fit .due d := by
  obtain rfl | rfl := hp
  · exact ⟨fun _ => h.queue.2, h.hook, trivial⟩
  · exact ⟨fun hr => by simp [h.queue.1] at hr, Or.inl h.hook, trivial⟩

theorem post_startFrom (m : Impl) (running : Bool) (rest : List String) (id : String) :
    post running (m.startFrom rest).lifecycle id = if id ∈ rest then .off else .on := by
  cases rest with
  | nil => simp [Impl.startFrom, post]
  | cons id' rest =>
    simp only [Impl.startFrom, Impl.at_lifecycle, post, startingPost, List.mem_cons]
    by_cases hid : id = id' <;> simp [hid]

theorem post_stopFrom (m : Impl) (thrown : Bool) (rest : List String) (id : String) :
    post false (m.stopFrom thrown rest).lifecycle id = if id ∈ rest then .due else .off := by
  cases rest with
  | nil => simp [Impl.stopFrom, post]
  | cons id' rest =>
    simp only [Impl.stopFrom, Impl.at_lifecycle, post, stoppingPost, List.mem_cons]
    by_cases hid : id = id' <;> simp [hid]

theorem post_running {ids : List String} {lifecycle : Option Lifecycle}
    (h : Seated ids true lifecycle) (id : String) : post true lifecycle id = .on := by
  cases lifecycle with
  | none => rfl
  | some lifecycle =>
    cases lifecycle with
    | exchanging | publishing => rfl
    | starting point id' rest => cases h.1
    | stopping point id' rest thrown => cases h.1

theorem seated_startFrom {m : Impl} {rest : List String} (hr : m.running = false)
    (h : rest <:+ m.ids) : Seated m.ids m.running (m.startFrom rest).lifecycle := by
  cases rest with
  | nil => exact hr
  | cons id rest => exact ⟨hr, h⟩

theorem seated_stopFrom {m : Impl} {thrown : Bool} {rest : List String} (hr : m.running = false)
    (h : rest <:+ m.ids) : Seated m.ids m.running (m.stopFrom thrown rest).lifecycle := by
  cases rest with
  | nil => trivial
  | cons id rest => exact ⟨hr, h⟩

theorem suffix_notMem {m : Impl} {id : String} {rest : List String} (h : id :: rest <:+ m.ids) :
    id ∉ rest := (List.nodup_cons.mp (m.nodup.sublist h.sublist)).1

section

variable {m : Impl} (h : Placed m)
include h

theorem placed_setDevice {id : String} {d : Device}
    (hfit : Fit (post m.running m.lifecycle id) (m.devices id) →
      Fit (post m.running m.lifecycle id) d) : Placed (m.setDevice id d) := by
  refine ⟨?_, h.seated, h.submission⟩
  intro id' hm
  by_cases hid : id' = id
  · subst hid
    simpa using hfit (h.fit id' hm)
  · simpa [hid] using h.fit id' hm

theorem placed_starting {p : Starting} {id : String} {rest : List String} {d : Device}
    (hl : m.lifecycle = some (.starting p id rest)) (p' : Starting)
    (hfit : Fit (startingPost p) (m.devices id) → Fit (startingPost p') d) :
    Placed ((m.setDevice id d).at (.starting p' id rest)) := by
  have hseat := h.seated
  rw [hl] at hseat
  refine ⟨?_, hseat, h.submission⟩
  intro id' hm
  have hfit' := h.fit id' hm
  by_cases hid : id' = id
  · subst hid
    simp only [hl, post, if_true] at hfit'
    simpa [post] using hfit hfit'
  · simpa [post, hl, hid] using hfit'

theorem placed_startFrom {p : Starting} {id : String} {rest : List String} {d : Device}
    (hl : m.lifecycle = some (.starting p id rest))
    (hfit : Fit (startingPost p) (m.devices id) → Fit .on d) :
    Placed ((m.setDevice id d).startFrom rest) := by
  have hseat := h.seated
  rw [hl] at hseat
  have hnot := suffix_notMem hseat.2
  refine ⟨?_, ?_, by simpa using h.submission⟩
  · intro id' hm
    rw [post_startFrom]
    have hfit' := h.fit id' (by simpa using hm)
    by_cases hid : id' = id
    · subst hid
      simp only [hl, post, if_true] at hfit'
      simpa [hnot] using hfit hfit'
    · simpa [post, hl, hid] using hfit'
  · simpa using seated_startFrom (m := m.setDevice id d) hseat.1
      ((List.suffix_cons id rest).trans hseat.2)

theorem placed_rollback {p : Starting} {id : String} {rest : List String} {d : Device}
    (hl : m.lifecycle = some (.starting p id rest))
    (hfit : Fit (startingPost p) (m.devices id) → Fit .due d) :
    Placed (m.setDevice id d).rollback := by
  have hseat := h.seated
  rw [hl] at hseat
  refine ⟨?_, ?_, by simpa using h.submission⟩
  · intro id' hm
    have hmem : id' ∈ m.ids := by simpa using hm
    have hfit' := h.fit id' hmem
    have hpost : post (m.setDevice id d).rollback.running (m.setDevice id d).rollback.lifecycle
        id' = .due := by
      rw [rollback_running, Impl.setDevice_running, hseat.1, Impl.rollback, post_stopFrom]
      simp [hmem]
    rw [hpost, rollback_devices]
    by_cases hid : id' = id
    · subst hid
      simp only [hl, post, if_true] at hfit'
      simpa using hfit hfit'
    · simp only [hl, post, hid, if_false] at hfit'
      have hdue := fit_due hfit' (by split <;> simp)
      simpa [hid] using hdue
  · rw [rollback_ids, rollback_running]
    exact seated_stopFrom hseat.1 (List.suffix_refl _)

theorem placed_stopping {p : Stopping} {id : String} {rest : List String} {thrown : Bool}
    {d : Device} (hl : m.lifecycle = some (.stopping p id rest thrown)) (p' : Stopping)
    (hfit : Fit (stoppingPost p) (m.devices id) → Fit (stoppingPost p') d) :
    Placed ((m.setDevice id d).at (.stopping p' id rest thrown)) := by
  have hseat := h.seated
  rw [hl] at hseat
  refine ⟨?_, hseat, h.submission⟩
  intro id' hm
  have hfit' := h.fit id' hm
  by_cases hid : id' = id
  · subst hid
    simp only [hl, post, if_true] at hfit'
    simpa [post] using hfit hfit'
  · simpa [post, hl, hid] using hfit'

theorem placed_stopFrom {p : Stopping} {id : String} {rest : List String} {thrown : Bool}
    {d : Device} (hl : m.lifecycle = some (.stopping p id rest thrown))
    (hfit : Fit (stoppingPost p) (m.devices id) → Fit .off d) :
    Placed ((m.setDevice id d).stopFrom thrown rest) := by
  have hseat := h.seated
  rw [hl] at hseat
  have hnot := suffix_notMem hseat.2
  refine ⟨?_, ?_, by simpa using h.submission⟩
  · intro id' hm
    rw [stopFrom_running, Impl.setDevice_running, hseat.1, post_stopFrom, stopFrom_devices]
    have hfit' := h.fit id' (by simpa using hm)
    by_cases hid : id' = id
    · subst hid
      simp only [hl, post, if_true] at hfit'
      simpa [hnot] using hfit hfit'
    · simpa [post, hl, hid] using hfit'
  · rw [stopFrom_ids, stopFrom_running]
    exact seated_stopFrom hseat.1 ((List.suffix_cons id rest).trans hseat.2)

end

@[simp] theorem setDevice_self (m : Impl) (id : String) : m.setDevice id (m.devices id) = m := by
  simp [Impl.setDevice]

theorem submission_flags {q t : DeviceQueue} {s : Submission}
    (h : Queue.next q s.action = some t) : t.running = q.running ∧ t.worker = q.worker := by
  cases s with
  | enqueue id requests priority =>
    cases next_move h <;> simp
  | patch id patch priority =>
    cases next_move h <;> simp [DeviceQueue.queuePatch]

theorem resume_ne_absent (ret : Return) (ok : Bool) : ret.resume ok ≠ .absent :=
  resume_elim (P := fun worker => worker ≠ .absent) ret ok (by simp) (by simp) (by simp)

theorem enter_ne_absent (batch : RequestBatch) : enter batch ≠ .absent :=
  enter_elim (P := fun worker => worker ≠ .absent) batch (by simp) fun _ => resume_ne_absent _ _

theorem afterState_ne_absent {worker : Worker} {event : Reply LifecycleState → Event}
    (hw : worker.reads = some event) (reply : Reply LifecycleState) :
    worker.afterState reply ≠ .absent := by
  cases worker with
  | reading request ret =>
    obtain he | ⟨record, -, -, he⟩ := reading_next request ret reply <;> simp [he]
  | finalizing => obtain he | ⟨state, he⟩ := finalizing_next reply <;> simp [he]
  | superseded | planning | checking | recovering => cases reply <;> exact Worker.noConfusion
  | _ => cases hw

theorem work_flags {q t : DeviceQueue} {answer : Answer}
    (h : Queue.next q (.work answer) = some t) :
    t.running = q.running ∧ q.worker ≠ .absent ∧ t.worker ≠ .absent := by
  generalize ha : Action.work answer = action at h
  cases next_move h with
  | finalize hw | supersede _ _ hw | take _ hw | call _ _ hw => simp [hw]
  | dequeue _ batch _ hw => simp [hw, enter_ne_absent]
  | store record ret hw => simp [hw, resume_ne_absent]
  | reply request ret reply hw =>
    refine ⟨rfl, by simp [hw], ?_⟩
    cases reply <;> simp [afterOutcome, Worker.raise, Worker.handler]
  | plan state parameters patch reply hw =>
    refine ⟨rfl, by simp [hw], ?_⟩
    cases reply with
    | ok requests => exact resume_ne_absent _ _
    | error thrown => simp [afterPlan, Worker.raise, Worker.handler]
  | read event reply hw =>
    refine ⟨rfl, ?_, afterState_ne_absent hw reply⟩
    intro habs
    simp [habs, Worker.reads] at hw
  | _ => cases ha

theorem queueFit_submission {p : Post} {q t : DeviceQueue} {s : Submission}
    (hn : Queue.next q s.action = some t) (h : QueueFit p q) : QueueFit p t := by
  obtain ⟨hr, hw⟩ := submission_flags hn
  cases p <;> simpa [QueueFit, hr, hw] using h

theorem queueFit_work {p : Post} {q t : DeviceQueue} {answer : Answer}
    (hn : Queue.next q (.work answer) = some t) (h : QueueFit p q) : QueueFit p t := by
  obtain ⟨hr, hw, ht⟩ := work_flags hn
  cases p <;> simp_all [QueueFit]

theorem fit_setQueue {p : Post} {d : Device} {q : DeviceQueue} (h : Fit p d)
    (hq : QueueFit p q) : Fit p (d.setQueue q) :=
  ⟨hq, by cases p <;> exact h.hook, by cases p <;> exact h.handler⟩

/-- A step of a start keeps every device fit for its post. -/
theorem placed_starts {m t : Impl} {outcome : Outcome} (h : Placed m) {p : Starting}
    {current : String} {later : List String}
    (howner : m.lifecycle = some (.starting p current later))
    (hm : Move m (.lifecycle outcome) t) : Placed t := by
  cases hm with
  | attach id rest hl =>
    exact placed_starting h hl .check fun hf => ⟨hf.queue, hf.hook, trivial⟩
  | attachThrew holds id rest hl =>
    exact placed_rollback h hl fun hf => ⟨fun _ => hf.queue.2, hf.hook, trivial⟩
  | known outcome id rest hl hh =>
    have hp := placed_starting h hl .queue (d := m.devices id) fun hf => by
      refine ⟨hf.queue, ?_, trivial⟩
      obtain hreg | hun := hf.hook
      · exact hreg
      · simp [hun.1] at hh
    simpa using hp
  | unknown outcome id rest hl hh =>
    refine placed_starting h hl .register fun hf => ⟨hf.queue, ?_, trivial⟩
    obtain hreg | hun := hf.hook
    · simp [hreg.1] at hh
    · exact ⟨hun.1, hun.2.1, hun.2.2, rfl⟩
  | register id rest hl =>
    simpa using placed_starting h hl .confirm (d := m.devices id) fun hf => hf
  | registerThrew holds id rest hl =>
    exact placed_starting h hl .drop fun hf => ⟨hf.queue, ⟨hf.hook.1, hf.hook.2.1⟩, trivial⟩
  | confirm outcome id rest hl =>
    refine placed_starting h hl .queue fun hf => ⟨hf.queue, ⟨rfl, hf.hook.2.2.2, ?_⟩, trivial⟩
    exact ⟨(m.devices id).offers, by simp [hf.hook.2.1], hf.hook.2.2.1⟩
  | drop outcome id rest hl =>
    refine placed_rollback h hl fun hf => ⟨fun _ => hf.queue.2, Or.inr ?_, trivial⟩
    exact ⟨hf.hook.1, hf.hook.2, rfl⟩
  | arm outcome id rest hl hr =>
    exact placed_starting h hl .spawn fun hf => ⟨⟨rfl, hf.queue.2⟩, hf.hook, trivial⟩
  | armed outcome id rest hl hr =>
    have hp := placed_startFrom h hl (d := m.devices id) fun hf => by
      have hoff := hf.queue.1
      simp [hr] at hoff
    simpa using hp
  | spawn id rest hl hw =>
    exact placed_startFrom h hl fun hf => ⟨⟨hf.queue.1, by simp⟩, hf.hook, trivial⟩
  | spawnThrew holds id rest hl =>
    have hp := placed_rollback h hl (d := m.devices id) fun hf =>
      ⟨fun _ => hf.queue.2, Or.inl hf.hook, trivial⟩
    simpa using hp
  | publish _ hl | exchange _ hl | exchangeAgain _ hl | halt _ _ _ _ hl | halted _ _ _ _ hl
  | unjoinable _ _ _ _ hl | join _ _ _ _ hl | detach _ _ _ _ hl =>
    rw [howner] at hl
    cases hl

/-- A step of a stop, or of a rollback, does so too. -/
theorem placed_stops {m t : Impl} {outcome : Outcome} (h : Placed m) {p : Stopping}
    {current : String} {later : List String} {rolling : Bool}
    (howner : m.lifecycle = some (.stopping p current later rolling))
    (hm : Move m (.lifecycle outcome) t) : Placed t := by
  cases hm with
  | halt outcome id rest thrown hl hr =>
    exact placed_stopping h hl .join fun hf => ⟨rfl, hf.hook, trivial⟩
  | halted outcome id rest thrown hl hr =>
    have hp := placed_stopping h hl .handler (d := m.devices id) fun hf =>
      ⟨⟨hr, hf.queue hr⟩, hf.hook, trivial⟩
    simpa using hp
  | unjoinable outcome id rest thrown hl hw =>
    have hp := placed_stopping h hl .handler (d := m.devices id) fun hf =>
      ⟨⟨hf.queue, hw⟩, hf.hook, trivial⟩
    simpa using hp
  | join outcome id rest thrown hl hw =>
    exact placed_stopping h hl .handler fun hf => ⟨⟨hf.queue, rfl⟩, hf.hook, trivial⟩
  | detach outcome id rest thrown hl =>
    refine placed_stopFrom h hl fun hf => ⟨hf.queue, hf.hook, ?_⟩
    cases outcome <;> simp [HandlerFit]
  | attach _ _ hl | attachThrew _ _ _ hl | known _ _ _ hl | unknown _ _ _ hl
  | register _ _ hl | registerThrew _ _ _ hl | confirm _ _ _ hl | drop _ _ _ hl
  | arm _ _ _ hl | armed _ _ _ hl | spawn _ _ hl | spawnThrew _ _ _ hl | publish _ hl
  | exchange _ hl | exchangeAgain _ hl =>
    rw [howner] at hl
    cases hl

theorem placed_step {m t : Impl} {action : ManagerAction} (h : Placed m)
    (hn : m.next action = some t) : Placed t := by
  cases manager_move hn with
  | startAgain hl hr =>
    refine ⟨fun id hm => ?_, trivial, h.submission⟩
    simpa [post, hl] using h.fit id hm
  | start hl hr =>
    refine ⟨fun id hm => ?_, ?_, by simpa using h.submission⟩
    · have hm' : id ∈ m.ids := by simpa using hm
      rw [post_startFrom]
      simpa [post, hl, hr, hm'] using h.fit id hm'
    · simpa using seated_startFrom hr (List.suffix_refl _)
  | stop hl =>
    refine ⟨fun id hm => ?_, trivial, h.submission⟩
    simpa [post, hl] using h.fit id hm
  | attach _ _ hl | attachThrew _ _ _ hl | known _ _ _ hl | unknown _ _ _ hl | register _ _ hl
  | registerThrew _ _ _ hl | confirm _ _ _ hl | drop _ _ _ hl | arm _ _ _ hl | armed _ _ _ hl
  | spawn _ _ hl | spawnThrew _ _ _ hl =>
    exact placed_starts h hl (manager_move hn)
  | halt _ _ _ _ hl | halted _ _ _ _ hl | unjoinable _ _ _ _ hl | join _ _ _ _ hl
  | detach _ _ _ _ hl =>
    exact placed_stops h hl (manager_move hn)
  | registrar hook id rest hl =>
    apply placed_setDevice h
    intro hf
    simp only [hl, post, if_true, startingPost] at hf ⊢
    refine ⟨hf.queue, ⟨hf.hook.1, hf.hook.2.1, ?_, hf.hook.2.2.2⟩, trivial⟩
    simp [firstHook_append, hf.hook.2.2.1]
  | publish outcome hl hs =>
    refine ⟨fun id hm => ?_, trivial, fun _ => rfl⟩
    simpa [post, hl] using h.fit id hm
  | exchange outcome hl hs hr =>
    refine ⟨fun id hm => ?_, ?_, by simp [hs]⟩
    · have hm' : id ∈ m.ids := by simpa using hm
      have hf := h.fit id hm'
      rw [stopFrom_running, Impl.setRunning_running, post_stopFrom, if_pos hm', stopFrom_devices]
      simp only [hl, hr, post, if_true] at hf
      exact fit_due hf (Or.inr rfl)
    · rw [stopFrom_ids, stopFrom_running]
      exact seated_stopFrom rfl (List.suffix_refl _)
  | exchangeAgain outcome hl hs hr =>
    refine ⟨fun id hm => ?_, trivial, h.submission⟩
    simpa [post, hl] using h.fit id hm
  | refuse | tick | ticking | tickRefuse => exact ⟨h.fit, h.seated, h.submission⟩
  | hold s hs hc | tickHold _ s _ hs hc =>
    refine ⟨h.fit, h.seated, fun _ => ?_⟩
    cases hr : m.running with
    | true => rfl
    | false => simp [Impl.check, hr] at hc
  | push s owner q hs hq =>
    have hp : Placed (m.setQueue s.id q) :=
      placed_setDevice h fun hf => fit_setQueue hf (queueFit_submission hq hf.queue)
    exact ⟨hp.fit, hp.seated, fun he => nomatch he⟩
  | work id answer q hid hq =>
    exact placed_setDevice h fun hf => fit_setQueue hf (queueFit_work hq hf.queue)
  | event id event hid =>
    apply placed_setDevice h
    intro hf
    generalize post m.running m.lifecycle id = p at hf ⊢
    exact ⟨hf.queue, by cases p <;> exact hf.hook, by cases p <;> exact hf.handler⟩

theorem placed_run {ids : List String} {nodup : ids.Nodup} {definition : String → DeviceDefinition}
    {m : Impl} (hrun : Runs Impl.next anyOrder (Impl.create ids nodup definition) m) : Placed m :=
  hrun.invariant (placed_create ids nodup definition) fun _ _ _ h _ hn => placed_step h hn

def Verdict (m : Impl) : Prop :=
  match m.lifecycle with
  | none | some .exchanging => m.running = true ↔ m.returned.head? = some .started
  | _ => True

theorem verdict_startFrom (m : Impl) (rest : List String) : Verdict (m.startFrom rest) := by
  cases rest <;> trivial

theorem verdict_stopFrom {m : Impl} (hr : m.running = false) (thrown : Bool)
    (rest : List String) : Verdict (m.stopFrom thrown rest) := by
  cases rest with
  | nil => cases thrown <;> simp [Verdict, Impl.stopFrom, hr]
  | cons id rest => trivial

theorem verdict_step {m t : Impl} {action : ManagerAction} (hp : Placed m) (h : Verdict m)
    (hn : m.next action = some t) : Verdict t := by
  have hseat := hp.seated
  cases manager_move hn with
  | startAgain hl hr => simp [Verdict, hr]
  | start => exact verdict_startFrom _ _
  | stop hl => simpa [Verdict, hl] using h
  | attach | known | unknown | register | registerThrew | confirm | arm | halt | halted
  | unjoinable | join => trivial
  | attachThrew _ _ _ hl | drop _ _ _ hl | spawnThrew _ _ _ hl | detach _ _ _ _ hl =>
    rw [hl] at hseat
    exact verdict_stopFrom (by exact hseat.1) _ _
  | armed | spawn => exact verdict_startFrom _ _
  | publish => simp [Verdict]
  | exchange => exact verdict_stopFrom rfl _ _
  | exchangeAgain _ _ _ hr => simp [Verdict, hr]
  | _ => exact h

theorem verdict_run {ids : List String} {nodup : ids.Nodup}
    {definition : String → DeviceDefinition} {m : Impl}
    (hrun : Runs Impl.next anyOrder (Impl.create ids nodup definition) m) : Verdict m := by
  have hboth : Placed m ∧ Verdict m := by
    apply hrun.invariant (I := fun m => Placed m ∧ Verdict m)
    · exact ⟨placed_create ids nodup definition, by simp [Verdict, Impl.create]⟩
    · exact fun _ _ _ h _ hn => ⟨placed_step h.1 hn, verdict_step h.1 h.2 hn⟩
  exact hboth.2

end DeviceManager.Posts
