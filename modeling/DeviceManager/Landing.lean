import DeviceManager.ReliableRuntime
import DeviceManager.Tickets

namespace DeviceManager.Landing

open Domain WorkerThread Queue QueueStep Delta Tickets Hook InFlight ReliableRuntime

def todo : Worker → List TransitionRequest
  | .reading request ret | .calling request ret => request :: remaining ret
  | .awaiting _ ret | .checking _ _ ret => remaining ret
  | .storing record ret => if succeeded record then remaining ret else []
  | _ => []

/-- The position of the runtime when the worker has finished what it has taken. -/
def landing (p : Plant) : Position :=
  match chosen p.hooked.queue.worker with
  | some (parameters, _) => land p.position (standardParameterTransitions p.position.1 parameters)
  | none => land p.heading (todo p.hooked.queue.worker)

def Fits : Worker → LifecycleState → Prop
  | .calling request _, state | .awaiting request _, state =>
    request.fromState = state ∧ Edge request
  | .transitions planned _ _, state => planned = state
  | .checking request outcome _, state => outcome.result = .success ∧ state = request.targetState
  | .finalizing, _ => False
  | _, _ => True

structure Sound (p : Plant) : Prop where
  stopping : p.hooked.queue.stopping = false
  fits : Fits p.hooked.queue.worker p.position.1
  stable : stable p.position.1 = true
  edges : AllInFlight Edge p.hooked.queue
  ticks : ∀ requests, .holding requests ∈ p.hooked.ticks →
    (∀ request ∈ requests, Edge request) ∧ Leading requests

theorem answer_read {p : Plant} {event : Reply LifecycleState → Event}
    (h : p.hooked.queue.worker.reads = some event) (message : String) :
    p.answer message = .state (.ok p.position.1) := by
  unfold Plant.answer
  cases hw : p.hooked.queue.worker <;> simp_all [Worker.reads]

inductive Works (p : Plant) (message : String) : DeviceQueue → Prop
  | go (q : DeviceQueue) (hm : Move p.hooked.queue (.work .go) q) : Works p message q
  | read (event : Reply LifecycleState → Event) (hw : p.hooked.queue.worker.reads = some event) :
    Works p message
      ((p.hooked.queue.setWorker (p.hooked.queue.worker.afterState (.ok p.position.1))).record
        (event (.ok p.position.1)))
  | reply (request : TransitionRequest) (ret : Return)
      (hw : p.hooked.queue.worker = .awaiting request ret) :
    Works p message
      ((p.hooked.queue.setWorker (.checking request ⟨.success, message⟩ ret)).record
        (.replied (.ok ⟨.success, message⟩)))
  | plan (state : LifecycleState) (parameters patch : ParameterMap)
      (hw : p.hooked.queue.worker = .transitions state parameters patch) :
    Works p message
      ((p.hooked.queue.setWorker
        ((Return.next (standardParameterTransitions state parameters)).resume true)).record
          (.planned state parameters patch (.ok (standardParameterTransitions state parameters))))

theorem works {p t : Plant} {message : String} (hn : p.next (.work message) = some t) :
    ∃ q, next p.hooked.queue (.work (p.answer message)) = some q ∧ Works p message q ∧
      t = ⟨{ p.hooked with queue := q }, p.heading⟩ := by
  simp only [Plant.next, Option.map_eq_some_iff] at hn
  obtain ⟨h, hh, rfl⟩ := hn
  simp only [Hooked.next, Option.map_eq_some_iff] at hh
  obtain ⟨q, hq, rfl⟩ := hh
  refine ⟨q, hq, ?_, rfl⟩
  have hmove := next_move hq
  generalize hans : p.answer message = answer at hmove
  cases answer with
  | go => exact Works.go q hmove
  | state reply =>
    cases hmove with
    | read event reply hw =>
      rw [answer_read hw message] at hans
      cases hans
      exact Works.read event hw
  | outcome reply =>
    cases hmove with
    | reply request ret reply hw =>
      have hout : p.answer message = .outcome (.ok ⟨.success, message⟩) := by
        simp [Plant.answer, hw]
      rw [hout] at hans
      cases hans
      exact Works.reply request ret hw
  | plan reply =>
    cases hmove with
    | plan state parameters patch reply hw =>
      have hout : p.answer message =
          .plan (.ok (standardParameterTransitions state parameters)) := by
        simp [Plant.answer, hw]
      rw [hout] at hans
      cases hans
      exact Works.plan state parameters patch hw

theorem fits_resume (ret : Return) (ok : Bool) (state : LifecycleState) :
    Fits (ret.resume ok) state :=
  resume_elim (P := fun worker => Fits worker state) ret ok trivial trivial fun _ _ _ _ => trivial

theorem fits_enter (batch : RequestBatch) (state : LifecycleState) : Fits (enter batch) state :=
  enter_elim (P := fun worker => Fits worker state) batch (fun _ _ => trivial)
    fun _ => fits_resume _ _ _

theorem heading_quiet {p : Plant}
    (h : ∀ request ret, p.hooked.queue.worker ≠ .awaiting request ret) :
    p.heading = p.position := by
  unfold Plant.heading
  split
  · next request ret hw => exact (h request ret hw).elim
  · rfl

theorem fits_go {p : Plant} (h : Sound p) {q : DeviceQueue}
    (hm : Move p.hooked.queue (.work .go) q) :
    Fits q.worker p.position.1 ∧ p.heading = p.position := by
  have hfits := h.fits
  cases hm with
  | finalize hw hs =>
    rw [h.stopping] at hs
    cases hs
  | dequeue priority batch rest hw =>
    refine ⟨?_, heading_quiet (by simp [hw])⟩
    rw [DeviceQueue.pop_worker]
    exact fits_enter batch _
  | supersede revision patch hw => exact ⟨trivial, heading_quiet (by simp [hw])⟩
  | take patch hw => exact ⟨trivial, heading_quiet (by simp [hw])⟩
  | call request ret hw =>
    rw [hw] at hfits
    exact ⟨hfits, heading_quiet (by simp [hw])⟩
  | store record ret hw => exact ⟨fits_resume _ _ _, heading_quiet (by simp [hw])⟩

theorem fits_read {p : Plant} (h : Sound p) {event : Reply LifecycleState → Event}
    (hw : p.hooked.queue.worker.reads = some event) :
    Fits (p.hooked.queue.worker.afterState (.ok p.position.1)) p.position.1 := by
  have hfits := h.fits
  have hhand := h.edges.hand
  cases hq : p.hooked.queue.worker with
  | reading request ret =>
    by_cases hs : p.position.1 = request.fromState
    · rw [reading_ok ret hs]
      rw [hq] at hhand
      exact ⟨hs.symm, hhand request (List.mem_cons_self ..)⟩
    · rw [reading_stale ret hs]
      trivial
  | planning parameters patch => exact rfl
  | finalizing =>
    rw [hq] at hfits
    exact hfits.elim
  | superseded | checking | recovering => trivial
  | _ =>
    rw [hq] at hw
    cases hw

theorem edge_answer (p : Plant) (message : String) :
    ∀ request ∈ brought (.work (p.answer message)), Edge request := by
  cases hw : p.hooked.queue.worker with
  | transitions state parameters patch =>
    have hout : p.answer message = .plan (.ok (standardParameterTransitions state parameters)) := by
      simp [Plant.answer, hw]
    rw [hout]
    exact edge_plan state parameters
  | _ => simp [Plant.answer, hw, brought]

theorem todo_resume (ret : Return) (ok : Bool) :
    todo (ret.resume ok) = (if ok then remaining ret else []) := by
  cases ret with
  | exit => cases ok <;> rfl
  | next rest => cases rest <;> cases ok <;> rfl

theorem resume_ne_awaiting (ret : Return) (ok : Bool) (request : TransitionRequest) (r : Return) :
    ret.resume ok ≠ .awaiting request r :=
  resume_elim (P := fun worker => worker ≠ .awaiting request r) ret ok (by simp) (by simp) (by simp)

theorem enter_ne_awaiting (batch : RequestBatch) (request : TransitionRequest) (r : Return) :
    enter batch ≠ .awaiting request r :=
  enter_elim (P := fun worker => worker ≠ .awaiting request r) batch (by simp)
    fun _ => resume_ne_awaiting _ _ _ _

theorem succeeded_outcomeRecord {request : TransitionRequest} {outcome : TransitionOutcome}
    (h : outcome.result = .success) :
    succeeded (outcomeRecord request outcome request.targetState) = true := by
  simp [succeeded, outcomeRecord, h]

theorem lift_some {p t : Plant} {action : HookedAction} (hn : p.lift action = some t) :
    ∃ h, p.hooked.next action = some h ∧ t = { p with hooked := h } := by
  obtain ⟨h, hh, rfl⟩ := Option.map_eq_some_iff.mp hn
  exact ⟨h, hh, rfl⟩

theorem lift_device {p t : Plant} {action : Action} (hn : p.lift (.device action) = some t) :
    ∃ q, next p.hooked.queue action = some q ∧
      t = { p with hooked := { p.hooked with queue := q } } := by
  obtain ⟨h, hh, rfl⟩ := lift_some hn
  obtain ⟨q, hq, rfl⟩ := Option.map_eq_some_iff.mp hh
  exact ⟨q, hq, rfl⟩

def worked (p : Plant) (q : DeviceQueue) : Plant := ⟨{ p.hooked with queue := q }, p.heading⟩

theorem sound_device {p : Plant} (hs : Sound p) {action : Action} {q : DeviceQueue}
    {position : Position} (hn : next p.hooked.queue action = some q)
    (ha : serving p.hooked.queue action) (hb : ∀ request ∈ brought action, Edge request)
    (hf : Fits q.worker position.1) (hstable : stable position.1 = true) :
    Sound ⟨{ p.hooked with queue := q }, position⟩ := by
  have hfits := hs.fits
  have hfinal : p.hooked.queue.worker = .finalizing → ∀ state, Edge ⟨state, .finalized, ∅⟩ := by
    intro hw
    rw [hw] at hfits
    exact hfits.elim
  exact ⟨(serving_flags ha hn).2.trans hs.stopping, hf, hstable,
    inFlight_step hs.edges hb hfinal hn, hs.ticks⟩

theorem sound_work {p : Plant} (hs : Sound p) {message : String} {q : DeviceQueue}
    (hn : next p.hooked.queue (.work (p.answer message)) = some q) (hw : Works p message q) :
    Sound (worked p q) := by
  have hfits := hs.fits
  apply sound_device hs hn (by trivial) (edge_answer p message)
  · cases hw with
    | go q hm =>
      obtain ⟨hf, hhead⟩ := fits_go hs hm
      rw [hhead]
      exact hf
    | read event hr =>
      rw [heading_quiet fun request ret hq => by simp [hq, Worker.reads] at hr]
      exact fits_read hs hr
    | reply request ret hr =>
      rw [Plant.heading, hr]
      exact ⟨rfl, rfl⟩
    | plan state parameters patch hr => exact fits_resume _ _ _
  · unfold Plant.heading
    split
    · next request ret hq =>
      rw [hq] at hfits
      exact edge_stable hfits.2
    · exact hs.stable

theorem sound_ticks {p : Plant} (hs : Sound p) {h : Hooked} (hq : h.queue = p.hooked.queue)
    (ht : ∀ requests, .holding requests ∈ h.ticks → .holding requests ∈ p.hooked.ticks ∨
      (∀ request ∈ requests, Edge request) ∧ Leading requests) :
    Sound { p with hooked := h } := by
  refine ⟨hq ▸ hs.stopping, hq ▸ hs.fits, hs.stable, hq ▸ hs.edges, ?_⟩
  intro requests hm
  exact (ht requests hm).elim (hs.ticks requests) id

theorem sound_tick {p : Plant} (hs : Sound p) {action : HookedAction} {h : Hooked}
    (hn : p.hooked.next action = some h) (ha : ∀ a, action ≠ .device a) :
    Sound { p with hooked := h } := by
  cases hooked_move hn with
  | device a => exact (ha a rfl).elim
  | event event => exact sound_ticks hs rfl fun _ hm => Or.inl hm
  | tick state =>
    refine sound_ticks hs (by rfl) ?_
    intro requests hm
    exact Or.inl (by simpa using hm)
  | context index state hi =>
    refine sound_ticks hs (by rfl) ?_
    intro requests hm
    obtain hm | he := List.mem_or_eq_of_mem_set hm
    · exact Or.inl hm
    · cases he
  | hook index context hi =>
    refine sound_ticks hs (by rfl) ?_
    intro requests hm
    obtain hm | he := List.mem_or_eq_of_mem_set hm
    · exact Or.inl hm
    · obtain rfl := Tick.holding.inj he
      exact Or.inr ⟨edge_hook _ _, leading_hook _ _⟩
  | refused index requests hi =>
    exact sound_ticks hs rfl fun _ hmem => Or.inl (List.mem_of_mem_eraseIdx hmem)
  | submit index requests hi hr hst =>
    have hedge := (hs.ticks requests (List.mem_of_getElem? hi)).1
    have hpush := next_enqueue hr hst requests .normal
    have hfits : Fits (p.hooked.queue.push .normal ⟨requests, none, ∅⟩).worker p.position.1 := by
      simpa using hs.fits
    have hpushed := sound_device hs hpush (by trivial) hedge hfits hs.stable
    exact sound_ticks hpushed rfl fun _ hmem => Or.inl (List.mem_of_mem_eraseIdx hmem)

theorem sound_step {p t : Plant} {action : PlantAction} (hs : Sound p)
    (hn : p.next action = some t) : Sound t := by
  cases action with
  | spawn =>
    obtain ⟨q, hq, rfl⟩ := lift_device hn
    apply sound_device hs hq (by trivial) (by simp [brought]) _ hs.stable
    cases next_move hq
    trivial
  | patch patch priority =>
    obtain ⟨q, hq, rfl⟩ := lift_device hn
    apply sound_device hs hq (by trivial) (by simp [brought]) _ hs.stable
    have hworker : q.worker = p.hooked.queue.worker := by
      cases next_move hq <;> simp [DeviceQueue.queuePatch]
    rw [hworker]
    exact hs.fits
  | work message =>
    obtain ⟨q, hq, hw, rfl⟩ := works hn
    exact sound_work hs hq hw
  | tick state =>
    simp only [Plant.next] at hn
    split at hn
    · obtain ⟨h, hh, rfl⟩ := lift_some hn
      exact sound_tick hs hh (by simp)
    · cases hn
  | context index | hook index | submit index =>
    obtain ⟨h, hh, rfl⟩ := lift_some hn
    exact sound_tick hs hh (by simp)

theorem landing_todo {p : Plant} (h : chosen p.hooked.queue.worker = none) :
    landing p = land p.heading (todo p.hooked.queue.worker) := by
  rw [landing, h]

theorem landing_rest {p : Plant} (h : chosen p.hooked.queue.worker = none)
    (ht : todo p.hooked.queue.worker = []) : landing p = p.heading := by
  rw [landing_todo h, ht]
  rfl

theorem landing_beside {p t : Plant} (hw : t.hooked.queue.worker = p.hooked.queue.worker)
    (hp : t.position = p.position) : landing t = landing p := by
  rw [landing, landing, Plant.heading, Plant.heading, hw, hp]

theorem heading_worked {p : Plant} {q : DeviceQueue}
    (h : ∀ request ret, q.worker ≠ .awaiting request ret) : (worked p q).heading = p.heading :=
  heading_quiet h

/-- The steps of a transition and of a plan bring the runtime where it was going. -/
theorem landing_same {p : Plant} {q : DeviceQueue} (h : chosen p.hooked.queue.worker = none)
    (hc : chosen q.worker = none) (hn : ∀ request ret, q.worker ≠ .awaiting request ret)
    (ht : land p.heading (todo q.worker) = land p.heading (todo p.hooked.queue.worker)) :
    landing (worked p q) = landing p := by
  have hq : chosen (worked p q).hooked.queue.worker = none := hc
  rw [landing_todo h, landing_todo hq, heading_worked hn]
  exact ht

theorem landing_read {p : Plant} (hs : Sound p) {event : Reply LifecycleState → Event}
    (hw : p.hooked.queue.worker.reads = some event) :
    landing (worked p
      ((p.hooked.queue.setWorker (p.hooked.queue.worker.afterState (.ok p.position.1))).record
        (event (.ok p.position.1)))) = landing p := by
  have hfits := hs.fits
  have hquiet : p.heading = p.position := heading_quiet fun request ret hq => by
    simp [hq, Worker.reads] at hw
  cases hq : p.hooked.queue.worker with
  | planning parameters patch =>
    rw [landing, landing, hq, worked, hquiet]
    rfl
  | reading request ret =>
    by_cases hsource : p.position.1 = request.fromState
    · rw [reading_ok ret hsource]
      exact landing_same (by rw [hq]; rfl) rfl (by simp) (by rw [hq]; rfl)
    · rw [reading_stale ret hsource]
      refine landing_same (by rw [hq]; rfl) rfl (by simp) ?_
      rw [hq, hquiet]
      exact (land_stale hsource _).symm
  | checking request outcome ret =>
    rw [hq] at hfits
    refine landing_same (by rw [hq]; rfl) rfl (by simp [Worker.afterState, Worker.onState]) ?_
    simp [hq, Worker.afterState, Worker.onState, todo, hfits.2, succeeded_outcomeRecord hfits.1]
  | superseded | recovering =>
    refine landing_same (by rw [hq]; rfl) rfl (by simp [Worker.afterState, Worker.onState]) ?_
    rw [hq]
    rfl
  | finalizing =>
    rw [hq] at hfits
    exact hfits.elim
  | _ =>
    rw [hq] at hw
    cases hw

theorem landing_call {p : Plant} (hs : Sound p) {request : TransitionRequest} {ret : Return}
    (hw : p.hooked.queue.worker = .calling request ret) :
    landing (worked p ((p.hooked.queue.setWorker (.awaiting request ret)).record
      (.requested request))) = landing p := by
  have hfits := hs.fits
  rw [hw] at hfits
  have hquiet : p.heading = p.position := heading_quiet (by simp [hw])
  have hbefore : landing p = land (p.position.after request) (remaining ret) := by
    rw [landing_todo (by rw [hw]; rfl), hw, hquiet]
    exact land_cons hfits.1 _
  rw [hbefore, ← hquiet]
  rfl

theorem landing_reply {p : Plant} {request : TransitionRequest} {ret : Return}
    (hw : p.hooked.queue.worker = .awaiting request ret) (outcome : TransitionOutcome)
    (event : Event) :
    landing (worked p ((p.hooked.queue.setWorker (.checking request outcome ret)).record event)) =
      landing p :=
  landing_same (by rw [hw]; rfl) rfl (by simp) (by rw [hw]; rfl)

theorem landing_store {p : Plant} {record : TransitionRecord} {ret : Return}
    (hw : p.hooked.queue.worker = .storing record ret) :
    landing (worked p (p.hooked.queue.store record ret)) = landing p := by
  apply landing_same (by rw [hw]; rfl) (held_resume ret _).2 (resume_ne_awaiting ret _)
  rw [hw, DeviceQueue.store_worker, todo_resume]
  rfl

theorem landing_planned {p : Plant} (hs : Sound p) {state : LifecycleState}
    {parameters patch : ParameterMap}
    (hw : p.hooked.queue.worker = .transitions state parameters patch) (event : Event) :
    landing (worked p ((p.hooked.queue.setWorker
      ((Return.next (standardParameterTransitions state parameters)).resume true)).record event)) =
        landing p := by
  have hfits := hs.fits
  rw [hw] at hfits
  have hplanned : state = p.position.1 := hfits
  have hquiet : p.heading = p.position := heading_quiet (by simp [hw])
  have hbefore : landing p = land p.position (standardParameterTransitions state parameters) := by
    rw [landing, hw, hplanned]
    rfl
  rw [hbefore, landing_todo (held_resume _ _).2, heading_worked (resume_ne_awaiting _ _), hquiet]
  exact congrArg (land p.position) (todo_resume (.next _) true)

theorem landing_dequeue {p : Plant} (hw : p.hooked.queue.worker = .waiting)
    (priority : RequestPriority) (batch : RequestBatch) (rest : List RequestBatch) :
    landing (worked p (p.hooked.queue.pop priority batch rest)) =
      if batch.parameterRevision.isSome then p.position else land p.position batch.requests := by
  have hquiet : p.heading = p.position := heading_quiet (by simp [hw])
  have hchosen : chosen (p.hooked.queue.pop priority batch rest).worker = none := by
    rw [DeviceQueue.pop_worker]
    exact chosen_enter batch
  rw [landing_todo hchosen, heading_worked (by simpa using enter_ne_awaiting batch), hquiet]
  cases hr : batch.parameterRevision with
  | some revision => simp [worked, enter, hr, todo, land]
  | none => simp [worked, enter, hr, todo_resume, remaining]

end DeviceManager.Landing
