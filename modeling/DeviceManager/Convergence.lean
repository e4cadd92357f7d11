import DeviceManager.Landing

namespace DeviceManager.Convergence

open Domain WorkerThread Queue QueueStep Transition Delta Tickets Hook InFlight ReliableRuntime
  Landing

def carries (p : Plant) (parameters : ParameterMap) : Bool :=
  agree parameters p.hooked.queue.parameters

def agrees (p : Plant) (request : TransitionRequest) : Bool :=
  !configures request || carries p request.parameters

def tickAgrees (p : Plant) : Tick → Bool
  | .observed _ => true
  | .informed context =>
    !(context.enabled && decide (context.state = .unconfigured)) || carries p context.parameters
  | .holding requests => requests.all (agrees p)

def TicksAgree (p : Plant) : Prop := ∀ tick ∈ p.hooked.ticks, tickAgrees p tick = true

def Pending (p : Plant) : Prop :=
  ∃ t ∈ tickets p.hooked.queue, t.1 = p.hooked.queue.parameterRevision

def listed (batch : RequestBatch) : List TransitionRequest :=
  if batch.parameterRevision.isSome then [] else batch.requests

def course (position : Position) (batches : List RequestBatch) : Position :=
  batches.foldl (fun position batch => land position (listed batch)) position

def queued (q : DeviceQueue) : List RequestBatch := q.urgentQueue ++ q.normalQueue

/-- The position of the runtime when everything taken and queued has run. -/
def destination (p : Plant) : Position := course (landing p) (queued p.hooked.queue)

def detour (p : Plant) : Position :=
  course (land p.position (standardParameterTransitions p.position.1 p.hooked.queue.parameters))
    (queued p.hooked.queue)

/-- At this position the runtime has the desired values, or it will get them
when it is configured. -/
def Ready (p : Plant) (position : Position) : Prop :=
  (low position.1 = true ∧ TicksAgree p) ∨
    (low position.1 = false ∧ position.2.any (carries p) = true)

instance (p : Plant) : Decidable (TicksAgree p) := inferInstanceAs (Decidable (∀ tick ∈ _, _))

instance (p : Plant) : Decidable (Pending p) := inferInstanceAs (Decidable (∃ t ∈ _, _))

instance (p : Plant) (position : Position) : Decidable (Ready p position) :=
  inferInstanceAs (Decidable (_ ∨ _))

def asked : Option Tick → List TransitionRequest
  | some (.holding requests) => requests
  | _ => []

/-- The steps that lose no value. A lone `device.enable` patch does not open the
gate of a device that ends up with other values. Once the gate is open again, no
recovery that is left from the closed time makes room for outdated values, be it
queued behind a patch or in the hands of a tick. -/
def converging (p : Plant) : PlantAction → Prop
  | .patch patch _ => p.hooked.queue.enabled = false → loneEnable patch = true →
    patch.lookup deviceEnable = some (.bool true) → Ready p (destination p)
  | .work _ => p.hooked.queue.enabled = true →
    ∀ t ∈ held p.hooked.queue.worker, t.1 = p.hooked.queue.parameterRevision → Ready p (detour p)
  | .submit index => p.hooked.queue.enabled = true → low (destination p).1 = false →
    low (land (destination p) (asked p.hooked.ticks[index]?)).1 = true →
      Pending p ∨ TicksAgree p
  | _ => True

instance (p : Plant) : ∀ action, Decidable (converging p action)
  | .patch patch _ => inferInstanceAs (Decidable (p.hooked.queue.enabled = false →
    loneEnable patch = true → patch.lookup deviceEnable = some (.bool true) →
      Ready p (destination p)))
  | .work _ => inferInstanceAs (Decidable (p.hooked.queue.enabled = true →
    ∀ t ∈ held p.hooked.queue.worker, t.1 = p.hooked.queue.parameterRevision → Ready p (detour p)))
  | .submit index => inferInstanceAs (Decidable (p.hooked.queue.enabled = true →
    low (destination p).1 = false →
      low (land (destination p) (asked p.hooked.ticks[index]?)).1 = true →
        Pending p ∨ TicksAgree p))
  | .spawn | .tick _ | .context _ | .hook _ => inferInstanceAs (Decidable True)

def Converged (p : Plant) : Prop :=
  p.hooked.queue.urgentQueue = [] → p.hooked.queue.normalQueue = [] →
    p.hooked.queue.worker = .waiting → p.hooked.queue.enabled = true →
    p.position.1 = .inactive ∨ p.position.1 = .active →
    ∃ parameters, p.position.2 = some parameters ∧
      AgreeOffEnable parameters p.hooked.queue.parameters

def Reaching (p : Plant) : Prop :=
  p.hooked.queue.enabled = true → Pending p ∨ Ready p (destination p)

theorem queued_lanes {q t : DeviceQueue} (h : ∀ p, t.lane p = q.lane p) : queued t = queued q := by
  have hu : t.urgentQueue = q.urgentQueue := h .urgent
  have hn : t.normalQueue = q.normalQueue := h .normal
  rw [queued, queued, hu, hn]

theorem queued_pop {q : DeviceQueue} {priority : RequestPriority} {batch : RequestBatch}
    {rest : List RequestBatch} (hl : q.lane priority = batch :: rest)
    (hu : priority = .normal → q.urgentQueue = []) :
    queued q = batch :: queued (q.pop priority batch rest) := by
  cases priority with
  | urgent =>
    have hl' : q.urgentQueue = batch :: rest := hl
    rw [queued, hl']
    rfl
  | normal =>
    have hl' : q.normalQueue = batch :: rest := hl
    rw [queued, queued, hu rfl, hl']
    exact congrArg (batch :: ·) (congrArg (· ++ rest) (hu rfl).symm)

theorem carries_eq {p t : Plant} (h : t.hooked.queue.parameters = p.hooked.queue.parameters) :
    carries t = carries p := by
  funext m
  rw [carries, carries, h]

theorem agrees_eq {p t : Plant} (h : carries t = carries p) : agrees t = agrees p := by
  funext request
  rw [agrees, agrees, h]

/-- What the ticks hold keeps its agreement while the desired values stay. -/
theorem ticksAgree_mono {p t : Plant} (hc : carries t = carries p)
    (ht : ∀ tick ∈ t.hooked.ticks, tick ∈ p.hooked.ticks ∨ tickAgrees p tick = true)
    (h : TicksAgree p) : TicksAgree t := by
  have htick : tickAgrees t = tickAgrees p := by
    funext tick
    cases tick <;> simp only [tickAgrees, agrees_eq hc, hc]
  intro tick hm
  rw [htick]
  exact (ht tick hm).elim (h tick) id

theorem ready_keep {p t : Plant} (hc : carries t = carries p)
    (ha : TicksAgree p → TicksAgree t) {position : Position} (h : Ready p position) :
    Ready t position := by
  rw [Ready, hc]
  exact h.imp (And.imp_right ha) id

theorem reaching_keep {p t : Plant} (h : Reaching p)
    (he : t.hooked.queue.enabled = p.hooked.queue.enabled) (hc : carries t = carries p)
    (hd : destination t = destination p) (hp : Pending p → Pending t)
    (ha : TicksAgree p → TicksAgree t) : Reaching t := by
  intro hen
  rw [he] at hen
  rw [hd]
  exact (h hen).imp hp (ready_keep hc ha)

theorem ticksAgree_worked {p : Plant} {q : DeviceQueue} (hc : carries (worked p q) = carries p) :
    TicksAgree p → TicksAgree (worked p q) :=
  ticksAgree_mono hc fun _ hm => Or.inl hm

theorem destination_lanes {p t : Plant} (hl : landing t = landing p)
    (hq : ∀ priority, t.hooked.queue.lane priority = p.hooked.queue.lane priority) :
    destination t = destination p := by
  rw [destination, destination, hl, queued_lanes hq]

theorem pending_tickets {p t : Plant}
    (hr : t.hooked.queue.parameterRevision = p.hooked.queue.parameterRevision)
    (ht : tickets t.hooked.queue = tickets p.hooked.queue) : Pending p → Pending t := by
  rw [Pending, Pending, hr, ht]
  exact id

theorem pending_queuePatch (p : Plant) (patch : ParameterMap) (priority : RequestPriority) :
    Pending { p with hooked := { p.hooked with queue :=
      (p.hooked.queue.merge patch priority).queuePatch patch priority } } := by
  refine ⟨(p.hooked.queue.parameterRevision + 1,
    insertOrAssign p.hooked.queue.pendingParameterPatch patch), ?_, ?_⟩
  · refine (tickets_push _ _ _).mem_iff.mpr (List.mem_append_left _ ?_)
    exact List.mem_singleton_self _
  · simp [DeviceQueue.queuePatch]

theorem reaching_inside {p : Plant} (h : Reaching p) {q : DeviceQueue}
    (he : q.enabled = p.hooked.queue.enabled) (hd : q.parameters = p.hooked.queue.parameters)
    (hr : q.parameterRevision = p.hooked.queue.parameterRevision)
    (hheld : held q.worker = held p.hooked.queue.worker)
    (hlanes : ∀ priority, q.lane priority = p.hooked.queue.lane priority)
    (hl : landing (worked p q) = landing p) : Reaching (worked p q) :=
  reaching_keep h he (carries_eq hd) (destination_lanes hl hlanes)
    (pending_tickets hr (tickets_lanes hheld hlanes)) (ticksAgree_worked (carries_eq hd))

theorem destination_dequeue {p : Plant} {priority : RequestPriority} {batch : RequestBatch}
    {rest : List RequestBatch} (hw : p.hooked.queue.worker = .waiting)
    (hl : p.hooked.queue.lane priority = batch :: rest)
    (hu : priority = .normal → p.hooked.queue.urgentQueue = []) :
    destination (worked p (p.hooked.queue.pop priority batch rest)) = destination p := by
  have hquiet : p.heading = p.position := heading_quiet (by simp [hw])
  have hstep : land p.position (listed batch) =
      landing (worked p (p.hooked.queue.pop priority batch rest)) := by
    rw [landing_dequeue hw, listed]
    cases batch.parameterRevision <;> rfl
  rw [destination, destination, queued_pop hl hu, course, course, List.foldl_cons,
    landing_rest (p := p) (by rw [hw]; rfl) (by rw [hw]; rfl), hquiet, hstep]
  rfl

theorem reaching_go {p : Plant} (h : Reaching p) (hs : Sound p) {q : DeviceQueue}
    (hm : Move p.hooked.queue (.work .go) q)
    (hok : p.hooked.queue.enabled = true → ∀ t ∈ held p.hooked.queue.worker,
      t.1 = p.hooked.queue.parameterRevision → Ready p (detour p)) : Reaching (worked p q) := by
  cases hm with
  | finalize hw hst =>
    rw [hs.stopping] at hst
    cases hst
  | dequeue priority batch rest hw hst hl hu =>
    have hc : carries (worked p (p.hooked.queue.pop priority batch rest)) = carries p :=
      carries_eq (by simp [worked])
    apply reaching_keep h (by simp [worked]) hc (destination_dequeue hw hl hu)
    · exact pending_tickets (by simp [worked]) (tickets_dequeue hw hl hu)
    · exact ticksAgree_worked hc
  | supersede revision patch hw hr =>
    refine reaching_keep h rfl (carries_eq rfl) (destination_lanes ?_ fun _ => by simp [worked]) ?_
      (ticksAgree_worked (carries_eq rfl))
    · exact landing_same (by rw [hw]; rfl) rfl (by simp) (by rw [hw]; rfl)
    · rintro ⟨t, ht, hcur⟩
      rw [tickets, hw] at ht
      obtain ht | ht := List.mem_append.mp ht
      · obtain rfl := List.mem_singleton.mp ht
        exact (hr hcur).elim
      · exact ⟨t, List.mem_append_right _ ht, hcur⟩
  | take patch hw =>
    have hdest : destination (worked p (p.hooked.queue.take patch)) = detour p := by
      have hquiet : p.heading = p.position := heading_quiet (by simp [hw])
      rw [detour, ← hquiet]
      rfl
    intro hen
    have hready := hok hen (p.hooked.queue.parameterRevision, patch) (by rw [hw]; rfl) rfl
    rw [hdest]
    exact Or.inr (ready_keep (carries_eq rfl) (ticksAgree_worked (carries_eq rfl)) hready)
  | call request ret hw =>
    exact reaching_inside h rfl rfl rfl (congrArg held hw).symm (fun _ => by simp)
      (landing_call hs hw)
  | store record ret hw =>
    exact reaching_inside h rfl rfl rfl ((held_resume ret _).1.trans (congrArg held hw).symm)
      (fun _ => by simp) (landing_store hw)

theorem reaching_work {p : Plant} (h : Reaching p) (hs : Sound p) {message : String}
    {q : DeviceQueue} (hw : Works p message q)
    (hok : p.hooked.queue.enabled = true → ∀ t ∈ held p.hooked.queue.worker,
      t.1 = p.hooked.queue.parameterRevision → Ready p (detour p)) : Reaching (worked p q) := by
  cases hw with
  | go q hm => exact reaching_go h hs hm hok
  | read event hr =>
    obtain ⟨hnone, hnone'⟩ := held_reads hr (.ok p.position.1)
    exact reaching_inside h rfl rfl rfl (hnone'.trans hnone.symm) (fun _ => by simp)
      (landing_read hs hr)
  | reply request ret hr =>
    exact reaching_inside h rfl rfl rfl (congrArg held hr).symm (fun _ => by simp)
      (landing_reply hr _ _)
  | plan state parameters patch hr =>
    exact reaching_inside h rfl rfl rfl ((held_resume _ _).1.trans (congrArg held hr).symm)
      (fun _ => by simp) (landing_planned hs hr _)

theorem reaching_patch {p : Plant} (h : Reaching p) {patch : ParameterMap}
    {priority : RequestPriority} {q : DeviceQueue}
    (hm : Move p.hooked.queue (.patch patch priority) q)
    (hok : p.hooked.queue.enabled = false → loneEnable patch = true →
      patch.lookup deviceEnable = some (.bool true) → Ready p (destination p)) :
    Reaching { p with hooked := { p.hooked with queue := q } } := by
  cases hm with
  | refusePatch => exact h
  | drop _ _ hr hst he =>
    intro hen
    have hen' : (p.hooked.queue.merge patch priority).enabled = true := hen
    rw [he] at hen'
    cases hen'
  | queuePatch => exact fun _ => Or.inl (pending_queuePatch p patch priority)
  | lone _ _ hr hst he hl hg =>
    generalize ht : ({ p with hooked := { p.hooked with
      queue := p.hooked.queue.merge patch priority } } : Plant) = t
    have hc : carries t = carries p := by
      funext m
      rw [← ht]
      exact agree_lone hl m
    have hlanes : ∀ p', t.hooked.queue.lane p' = p.hooked.queue.lane p' := by
      rw [← ht]
      simp
    have hdest : destination t = destination p := by
      apply destination_lanes _ hlanes
      rw [← ht]
      exact landing_beside rfl rfl
    have hpend : Pending p → Pending t := by
      rw [← ht]
      exact pending_tickets rfl (tickets_lanes rfl fun _ => by simp)
    have hagree : TicksAgree p → TicksAgree t := by
      apply ticksAgree_mono hc
      rw [← ht]
      exact fun _ hm => Or.inl hm
    intro _
    rw [hdest]
    cases hen : p.hooked.queue.enabled with
    | true => exact (h hen).imp hpend (ready_keep hc hagree)
    | false =>
      have hopen : patch.lookup deviceEnable = some (.bool true) := by
        rw [DeviceQueue.merge_enabled] at he
        obtain hn | ⟨value, hv⟩ := hg
        · simp [hn, hen] at he
        · simp only [hv] at he
          rw [hv, he]
      exact Or.inr (ready_keep hc hagree (hok hen hl hopen))

theorem agrees_hook {p : Plant} {context : HookContext} (handled : UInt64)
    (h : tickAgrees p (.informed context) = true) :
    (standardHook handled context).2.all (agrees p) = true := by
  have hrecovery : ∀ source target, (recoveryRequests source target).all (agrees p) = true := by
    intro source target
    cases source <;> cases target <;> simp [recoveryRequests, agrees, configures]
  unfold standardHook
  cases he : context.enabled with
  | false => exact hrecovery _ _
  | true =>
    simp only [Bool.not_true, Bool.false_eq_true, if_false]
    split
    · simp [agrees, configures]
    · next hs => simpa [tickAgrees, agrees, configures, he, hs] using h
    · simp [agrees, configures]
    · split
      · rfl
      · exact hrecovery _ _
    · rfl

theorem reaching_ticks {p : Plant} (h : Reaching p) {g : Hooked} (hq : g.queue = p.hooked.queue)
    (ht : p.hooked.queue.enabled = true → TicksAgree p →
      ∀ tick ∈ g.ticks, tick ∈ p.hooked.ticks ∨ tickAgrees p tick = true) :
    Reaching { p with hooked := g } := by
  intro hen
  have he : p.hooked.queue.enabled = true := hq ▸ hen
  have hc : carries { p with hooked := g } = carries p := carries_eq (congrArg _ hq)
  have hd : destination { p with hooked := g } = destination p :=
    destination_lanes (landing_beside (congrArg _ hq) rfl) fun _ => by rw [hq]
  rw [hd]
  refine (h he).imp (pending_tickets (congrArg _ hq) (congrArg _ hq)) (ready_keep hc ?_)
  exact fun hagree => ticksAgree_mono hc (ht he hagree) hagree

/-- A submitted batch configures the runtime with the desired values, or takes
it down while nothing in flight is outdated. -/
theorem ready_submit {p : Plant} {requests : List TransitionRequest} {position : Position}
    (hedge : ∀ request ∈ requests, Edge request) (hlead : Leading requests)
    (hagree : TicksAgree p → requests.all (agrees p) = true)
    (hok : low position.1 = false → low (land position requests).1 = true → TicksAgree p)
    (h : Ready p position) : Ready p (land position requests) := by
  obtain ⟨hlow, hticks⟩ | ⟨hhigh, hcarry⟩ := h
  · have hgood : ∀ request ∈ requests, configures request = true →
        carries p request.parameters = true := by
      intro request hm hconf
      simpa [agrees, hconf] using List.all_eq_true.mp (hagree hticks) request hm
    cases hend : low (land position requests).1 with
    | true => exact Or.inl ⟨hend, hticks⟩
    | false =>
      have hland := land_good hedge hgood (Or.inl hlow)
      exact Or.inr ⟨hend, hland.resolve_left (by simp [hend])⟩
  · cases hend : low (land position requests).1 with
    | true => exact Or.inl ⟨hend, hok hhigh hend⟩
    | false =>
      refine Or.inr ⟨hend, ?_⟩
      rw [land_configured hlead hhigh]
      exact hcarry

theorem reaching_submit {p : Plant} (h : Reaching p) (hs : Sound p) {index : Nat}
    {requests : List TransitionRequest} (hi : p.hooked.ticks[index]? = some (.holding requests))
    (hok : converging p (.submit index)) :
    Reaching { p with hooked := { p.hooked with
      queue := p.hooked.queue.push .normal ⟨requests, none, ∅⟩
      ticks := p.hooked.ticks.eraseIdx index } } := by
  have hm := List.mem_of_getElem? hi
  obtain ⟨hedge, hlead⟩ := hs.ticks requests hm
  generalize ht : ({ p with hooked := { p.hooked with
    queue := p.hooked.queue.push .normal ⟨requests, none, ∅⟩
    ticks := p.hooked.ticks.eraseIdx index } } : Plant) = t
  have hc : carries t = carries p := by
    rw [← ht]
    exact carries_eq (by simp)
  have hpend : Pending p → Pending t := by
    rw [← ht]
    exact pending_tickets (by simp) (tickets_push_none rfl)
  have hagree : TicksAgree p → TicksAgree t := by
    apply ticksAgree_mono hc
    rw [← ht]
    exact fun tick hmem => Or.inl (List.mem_of_mem_eraseIdx hmem)
  have hdest : destination t = land (destination p) requests := by
    have hl : landing t = landing p := by
      rw [← ht]
      exact landing_beside (by simp) rfl
    have hq : queued t.hooked.queue = queued p.hooked.queue ++ [⟨requests, none, ∅⟩] := by
      rw [← ht]
      exact (List.append_assoc ..).symm
    rw [destination, destination, hl, hq, course, course, List.foldl_append]
    rfl
  intro hen
  have he : p.hooked.queue.enabled = true := by simpa [← ht] using hen
  by_cases hp : Pending p
  · exact Or.inl (hpend hp)
  · rw [hdest]
    refine Or.inr (ready_keep hc hagree ?_)
    refine ready_submit hedge hlead (fun hall => hall _ hm) ?_ ((h he).resolve_left hp)
    intro hhigh hlow
    refine (hok he hhigh ?_).resolve_left hp
    rw [hi]
    exact hlow

theorem reaching_tick {p : Plant} (h : Reaching p) (hs : Sound p) {action : HookedAction}
    {g : Hooked} (hn : p.hooked.next action = some g) (ha : ∀ a, action ≠ .device a)
    (hok : ∀ index, action = .submit index → converging p (.submit index)) :
    Reaching { p with hooked := g } := by
  cases hooked_move hn with
  | device a => exact (ha a rfl).elim
  | event event => exact reaching_ticks h rfl fun _ _ _ hm => Or.inl hm
  | tick state => exact reaching_ticks h (by rfl) fun _ _ => mem_snoc_or rfl
  | context index state hi =>
    refine reaching_ticks h (by rfl) fun he _ => mem_set_or index ?_
    simp [tickAgrees, Hooked.context, carries, agree]
  | hook index context hi =>
    refine reaching_ticks h (by rfl) fun _ hall => mem_set_or index ?_
    exact agrees_hook _ (hall _ (List.mem_of_getElem? hi))
  | refused index requests hi =>
    exact reaching_ticks h (by rfl) fun _ _ tick hmem => Or.inl (List.mem_of_mem_eraseIdx hmem)
  | submit index requests hi hr hst => exact reaching_submit h hs hi (hok index rfl)

theorem reaching_step {p t : Plant} {action : PlantAction} (h : Reaching p) (hs : Sound p)
    (hok : converging p action) (hn : p.next action = some t) : Reaching t := by
  cases action with
  | spawn =>
    obtain ⟨q, hq, rfl⟩ := lift_device hn
    cases next_move hq with
    | spawn hw =>
      have hquiet : p.heading = p.position := heading_quiet (by simp [hw])
      have hlanes : ∀ priority, (p.hooked.queue.setWorker .waiting).lane priority =
        p.hooked.queue.lane priority := by simp
      have ht := tickets_lanes (q := p.hooked.queue) (congrArg held hw).symm hlanes
      refine reaching_keep h rfl (carries_eq rfl) (destination_lanes ?_ hlanes)
        (pending_tickets rfl ht) (ticksAgree_mono (carries_eq rfl) fun _ hm => Or.inl hm)
      rw [landing_rest (p := p) (by rw [hw]; rfl) (by rw [hw]; rfl), hquiet]
      rfl
  | patch patch priority =>
    obtain ⟨q, hq, rfl⟩ := lift_device hn
    exact reaching_patch h (next_move hq) hok
  | work message =>
    obtain ⟨q, hq, hw, rfl⟩ := works hn
    exact reaching_work h hs hw hok
  | tick state =>
    simp only [Plant.next] at hn
    split at hn
    · obtain ⟨g, hg, rfl⟩ := lift_some hn
      exact reaching_tick h hs hg (by simp) (by simp)
    · cases hn
  | context index | hook index =>
    obtain ⟨g, hg, rfl⟩ := lift_some hn
    exact reaching_tick h hs hg (by simp) (by simp)
  | submit index =>
    obtain ⟨g, hg, rfl⟩ := lift_some hn
    exact reaching_tick h hs hg (by simp) fun _ he => HookedAction.submit.inj he ▸ hok

structure Begun (p : Plant) : Prop where
  queue : Started p.hooked.queue
  ticks : p.hooked.ticks = []
  low : p.position.1 = .finalized ∨ p.position.1 = .unconfigured

theorem sound_begun {p : Plant} (h : Begun p) : Sound p := by
  refine ⟨h.queue.stopping, ?_, ?_, inFlight_started h.queue, by simp [h.ticks]⟩
  · rw [h.queue.worker]
    trivial
  · obtain hl | hl := h.low <;> rw [hl] <;> rfl

/-- With nothing taken and nothing queued the runtime stays where it is. -/
theorem destination_rest {p : Plant} (hc : chosen p.hooked.queue.worker = none)
    (ht : todo p.hooked.queue.worker = []) (hu : p.hooked.queue.urgentQueue = [])
    (hn : p.hooked.queue.normalQueue = []) : destination p = p.heading := by
  rw [destination, landing_rest hc ht, queued, hu, hn]
  rfl

theorem reaching_begun {p : Plant} (h : Begun p) : Reaching p := by
  have hdest : destination p = p.heading := destination_rest (by rw [h.queue.worker]; rfl)
    (by rw [h.queue.worker]; rfl) h.queue.urgent h.queue.normal
  have hquiet : p.heading = p.position := heading_quiet (by simp [h.queue.worker])
  intro _
  refine Or.inr (Or.inl ⟨?_, by simp [TicksAgree, h.ticks]⟩)
  rw [hdest, hquiet]
  obtain hl | hl := h.low <;> rw [hl] <;> rfl

theorem converged_of_reaching {p : Plant} (h : Reaching p) : Converged p := by
  intro hu hn hw he hstate
  have hquiet : p.heading = p.position := heading_quiet (by simp [hw])
  have hdest : destination p = p.heading :=
    destination_rest (by rw [hw]; rfl) (by rw [hw]; rfl) hu hn
  have hhigh : low p.position.1 = false := by
    obtain hl | hl := hstate <;> rw [hl] <;> rfl
  obtain ⟨t, ht, -⟩ | ⟨hlow, -⟩ | ⟨-, hcarry⟩ := h he
  · simp [tickets, hu, hn, hw, held] at ht
  · rw [hdest, hquiet, hhigh] at hlow
    cases hlow
  · rw [hdest, hquiet] at hcarry
    cases hmap : p.position.2 with
    | none => simp [hmap] at hcarry
    | some parameters =>
      rw [hmap] at hcarry
      exact ⟨parameters, rfl, agree_iff.mp hcarry⟩

theorem parameters_converge {p₀ p : Plant} (h : Begun p₀) (hrun : Runs Plant.next converging p₀ p) :
    Converged p := by
  have hboth := hrun.invariant (I := fun p => Sound p ∧ Reaching p)
    ⟨sound_begun h, reaching_begun h⟩
    fun _ _ _ hi hok hn => ⟨sound_step hi.1 hn, reaching_step hi.2 hi.1 hok hn⟩
  exact converged_of_reaching hboth.2

def plant : Plant := ⟨⟨(fresh true ∅).start, none, 0, 0, []⟩, .finalized, none⟩

theorem begun_plant : Begun plant := ⟨started_start true ∅, rfl, Or.inl rfl⟩

def oneTick (state : LifecycleState) : List PlantAction :=
  [.tick state, .context 0, .hook 0, .submit 0]

def oneRequest : List PlantAction := List.replicate 6 (.work "")

def configureFirst : List PlantAction :=
  .spawn :: oneTick .finalized ++ oneRequest ++ oneTick .unconfigured ++ oneRequest

def anyStep (_ : Plant) (_ : PlantAction) : Prop := True

instance (p : Plant) (action : PlantAction) : Decidable (anyStep p action) :=
  inferInstanceAs (Decidable True)

def closeWithValue : PlantAction :=
  .patch ((Finmap.singleton deviceEnable (.bool false)).insert "gain" (.int 1)) .normal

def openAgain : PlantAction := .patch (Finmap.singleton deviceEnable (.bool true)) .normal

def toggled : List PlantAction := configureFirst ++ [closeWithValue, openAgain]

theorem parameters_converge_toggled :
    ∃ p, exec Plant.next anyStep toggled plant = some p ∧ ¬ Converged p := by
  refine ⟨_, rfl, fun h => ?_⟩
  obtain ⟨parameters, hsome, hagree⟩ := h rfl rfl rfl rfl (Or.inl rfl)
  obtain rfl := Option.some.inj hsome
  exact absurd (agree_iff.mpr hagree) (by decide)

/-- A value arrives while the gate is opened again. It is lost all the same: the
recovery from the closed time still runs, and then a context from the time
before it. -/
def outlived : List PlantAction :=
  .spawn :: oneTick .finalized ++ oneRequest ++
    [.tick .unconfigured, .context 0, .tick .unconfigured, .context 1, .hook 1, .submit 1] ++
    oneRequest ++
    [.patch (Finmap.singleton deviceEnable (.bool false)) .normal, .tick .inactive, .context 1,
      .hook 1, .patch ((Finmap.singleton deviceEnable (.bool true)).insert "gain" (.int 1)) .normal,
      .submit 1] ++ List.replicate 25 (.work "") ++
    [.tick .finalized, .context 1, .hook 1, .submit 1] ++ oneRequest ++ [.hook 0, .submit 0] ++
    oneRequest

example : ∃ p, exec Plant.next anyStep outlived plant = some p ∧ ¬ Converged p := by
  refine ⟨_, rfl, fun h => ?_⟩
  obtain ⟨parameters, hsome, hagree⟩ := h rfl rfl rfl rfl (Or.inl rfl)
  obtain rfl := Option.some.inj hsome
  exact absurd (agree_iff.mpr hagree) (by decide)

def recovered : List PlantAction :=
  configureFirst ++ [closeWithValue] ++ oneTick .inactive ++ [openAgain] ++
    List.replicate 11 (.work "") ++ oneTick .finalized ++ oneRequest ++ oneTick .unconfigured ++
    oneRequest

theorem parameters_converge_recovered :
    ∃ p, exec Plant.next converging recovered plant = some p ∧
      p.hooked.queue.worker = .waiting ∧ p.position.1 = .inactive ∧ Converged p := by
  have hexec : exec Plant.next converging recovered plant = some _ := rfl
  exact ⟨_, hexec, rfl, rfl, parameters_converge begun_plant (exec_runs recovered hexec)⟩

end DeviceManager.Convergence
