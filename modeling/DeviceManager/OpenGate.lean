import DeviceManager.Convergence
import DeviceManager.Gate

namespace DeviceManager.OpenGate

open Domain WorkerThread Queue QueueStep Transition Hook InFlight ReliableRuntime Landing
  Convergence

def Climbs (request : TransitionRequest) : Prop :=
  (request.fromState, request.targetState) ∈
    [(LifecycleState.finalized, LifecycleState.unconfigured), (.unconfigured, .inactive),
      (.inactive, .active)]

def TickClimbs : Tick → Prop
  | .observed _ => True
  | .informed context => context.enabled = true ∧ context.latestEvent = none
  | .holding requests => ∀ request ∈ requests, Climbs request

structure Open (p : Plant) : Prop where
  enabled : p.hooked.queue.enabled = true
  event : p.hooked.latestEvent = none
  lanes : ∀ priority, ∀ batch ∈ p.hooked.queue.lane priority, ∀ request ∈ batch.requests,
    Climbs request
  ticks : ∀ tick ∈ p.hooked.ticks, TickClimbs tick

def leftOpen (_ : Plant) : PlantAction → Prop
  | .patch patch _ => Gate.disables patch = false
  | _ => True

theorem climb {position : Position} {request : TransitionRequest} (h : Climbs request)
    (hs : request.fromState = position.1) (hp : low position.1 = false) :
    low (position.after request).1 = false ∧ (position.after request).2 = position.2 := by
  rw [← hs] at hp
  simp only [Climbs, List.mem_cons, Prod.mk.injEq, List.not_mem_nil, or_false] at h
  obtain ⟨hf, ht⟩ | ⟨hf, ht⟩ | ⟨hf, ht⟩ := h
  · simp [hf, low] at hp
  · simp [hf, low] at hp
  · simp [Position.after, configures, hf, ht, low]

theorem land_climb {position : Position} {requests : List TransitionRequest}
    (h : ∀ request ∈ requests, Climbs request) (hp : low position.1 = false) :
    low (land position requests).1 = false ∧ (land position requests).2 = position.2 := by
  induction requests generalizing position with
  | nil => exact ⟨hp, rfl⟩
  | cons request rest ih =>
    by_cases hs : position.1 = request.fromState
    · obtain ⟨hhigh, hmap⟩ := climb (h request (List.mem_cons_self ..)) hs.symm hp
      rw [land_cons hs.symm, ← hmap]
      exact ih (fun r hm => h r (List.mem_cons_of_mem _ hm)) hhigh
    · rw [land_stale hs]
      exact ⟨hp, rfl⟩

theorem course_climb {position : Position} {batches : List RequestBatch}
    (h : ∀ batch ∈ batches, ∀ request ∈ batch.requests, Climbs request)
    (hp : low position.1 = false) :
    low (course position batches).1 = false ∧ (course position batches).2 = position.2 := by
  induction batches generalizing position with
  | nil => exact ⟨hp, rfl⟩
  | cons batch rest ih =>
    have hlisted : ∀ request ∈ listed batch, Climbs request := by
      unfold listed
      split
      · simp
      · exact h batch (List.mem_cons_self ..)
    obtain ⟨hhigh, hmap⟩ := land_climb hlisted hp
    rw [course, List.foldl_cons, ← hmap]
    exact ih (fun b hm => h b (List.mem_cons_of_mem _ hm)) hhigh

theorem converging_open {p : Plant} (h : Open p) (hs : Sound p) (action : PlantAction) :
    converging p action := by
  cases action with
  | patch patch priority =>
    intro hen
    rw [h.enabled] at hen
    cases hen
  | work message =>
    intro _ t _ _
    have hqueued : ∀ batch ∈ queued p.hooked.queue, ∀ request ∈ batch.requests, Climbs request := by
      intro batch hm
      exact (List.mem_append.mp hm).elim (h.lanes .urgent batch) (h.lanes .normal batch)
    obtain ⟨hplan, hmap⟩ := land_plan hs.stable p.hooked.queue.parameters
    obtain ⟨hhigh, hsame⟩ := course_climb hqueued hplan
    refine Or.inr ⟨hhigh, ?_⟩
    rw [detour, hsame, hmap]
    simp [carries, agree]
  | submit index =>
    intro _ hhigh hlow
    have hasked : ∀ request ∈ asked p.hooked.ticks[index]?, Climbs request := by
      cases hi : p.hooked.ticks[index]? with
      | none => simp [asked]
      | some tick =>
        have ht := h.ticks tick (List.mem_of_getElem? hi)
        cases tick with
        | holding requests => exact ht
        | _ => simp [asked]
    rw [(land_climb hasked hhigh).1] at hlow
    cases hlow
  | _ => trivial

/-- The hook of an enabled device without events only climbs. -/
theorem climbs_hook {context : HookContext} (he : context.enabled = true)
    (hv : context.latestEvent = none) (handled : UInt64) :
    ∀ request ∈ (standardHook handled context).2, Climbs request := by
  unfold standardHook
  rw [he, hv]
  cases context.state <;> simp [Climbs]

theorem open_device {p : Plant} (h : Open p) {action : Action} {q : DeviceQueue}
    {position : Position} (hd : ∀ patch priority, action = .patch patch priority →
      Gate.disables patch = false)
    (hb : ∀ requests priority, action = .enqueue requests priority →
      ∀ request ∈ requests, Climbs request)
    (hn : next p.hooked.queue action = some q) :
    Open ⟨{ p.hooked with queue := q }, position⟩ := by
  refine ⟨?_, h.event, ?_, h.ticks⟩
  · cases hen : q.enabled with
    | true => rfl
    | false =>
      obtain hdis | ⟨patch, priority, he, hdis⟩ := Gate.disabled_step hn hen
      · rw [h.enabled] at hdis
        cases hdis
      · rw [hd patch priority he] at hdis
        cases hdis
  · exact lanes_step (B := fun requests => ∀ r ∈ requests, Climbs r) h.lanes
      (fun _ hm => nomatch hm) hb hn

theorem open_ticks {p : Plant} (h : Open p) {g : Hooked} (hq : g.queue = p.hooked.queue)
    (hv : g.latestEvent = p.hooked.latestEvent)
    (ht : ∀ tick ∈ g.ticks, tick ∈ p.hooked.ticks ∨ TickClimbs tick) :
    Open { p with hooked := g } := by
  refine ⟨hq ▸ h.enabled, hv.trans h.event, hq ▸ h.lanes, ?_⟩
  exact fun tick hm => (ht tick hm).elim (h.ticks tick) id

theorem open_tick {p : Plant} (h : Open p) {action : HookedAction} {g : Hooked}
    (hn : p.hooked.next action = some g) (ha : ∀ a, action ≠ .device a)
    (hv : ∀ event, action ≠ .event event) : Open { p with hooked := g } := by
  cases hooked_move hn with
  | device a => exact (ha a rfl).elim
  | event event => exact (hv event rfl).elim
  | tick state => exact open_ticks h (by rfl) (by rfl) (mem_snoc_or trivial)
  | context index state hi =>
    exact open_ticks h (by rfl) (by rfl) (mem_set_or index ⟨h.enabled, h.event⟩)
  | hook index context hi =>
    obtain ⟨he, hnone⟩ := h.ticks _ (List.mem_of_getElem? hi)
    exact open_ticks h (by rfl) (by rfl) (mem_set_or index (climbs_hook he hnone _))
  | refused index requests hi =>
    exact open_ticks h (by rfl) (by rfl) fun _ hm => Or.inl (List.mem_of_mem_eraseIdx hm)
  | submit index requests hi hr hst =>
    have hpush := next_enqueue hr hst requests .normal
    have hclimb : ∀ request ∈ requests, Climbs request := h.ticks _ (List.mem_of_getElem? hi)
    have hpushed : Open { p with hooked := { p.hooked with
        queue := p.hooked.queue.push .normal ⟨requests, none, ∅⟩ } } :=
      open_device h (by simp) (fun _ _ he => (Action.enqueue.inj he).1 ▸ hclimb) hpush
    exact open_ticks hpushed rfl rfl fun _ hm => Or.inl (List.mem_of_mem_eraseIdx hm)

theorem open_step {p t : Plant} {action : PlantAction} (h : Open p) (hok : leftOpen p action)
    (hn : p.next action = some t) : Open t := by
  cases action with
  | spawn =>
    obtain ⟨q, hq, rfl⟩ := lift_device hn
    exact open_device h (by simp) (by simp) hq
  | patch patch priority =>
    obtain ⟨q, hq, rfl⟩ := lift_device hn
    exact open_device h (fun _ _ he => (Action.patch.inj he).1 ▸ hok) (by simp) hq
  | work message =>
    obtain ⟨q, hq, -, rfl⟩ := works hn
    exact open_device h (by simp) (by simp) hq
  | tick state =>
    simp only [Plant.next] at hn
    split at hn
    · obtain ⟨g, hg, rfl⟩ := lift_some hn
      exact open_tick h hg (by simp) (by simp)
    · cases hn
  | context index | hook index | submit index =>
    obtain ⟨g, hg, rfl⟩ := lift_some hn
    exact open_tick h hg (by simp) (by simp)

theorem open_begun {p : Plant} (h : Begun p) (he : p.hooked.queue.enabled = true)
    (hv : p.hooked.latestEvent = none) : Open p := by
  refine ⟨he, hv, ?_, by simp [h.ticks]⟩
  intro priority
  cases priority <;> simp [h.queue.urgent, h.queue.normal]

/-- Without an event and without a patch that closes the gate, every run loses
no value, whatever its order. -/
theorem converged_open {p₀ p : Plant} (h : Begun p₀) (he : p₀.hooked.queue.enabled = true)
    (hv : p₀.hooked.latestEvent = none) (hrun : Runs Plant.next leftOpen p₀ p) : Converged p := by
  have hall := hrun.invariant (I := fun p => Open p ∧ Sound p ∧ Reaching p)
    ⟨open_begun h he hv, sound_begun h, reaching_begun h⟩ ?_
  · exact converged_of_reaching hall.2.2
  · intro s action t hi hok hn
    obtain ⟨hopen, hs, hr⟩ := hi
    exact ⟨open_step hopen hok hn, sound_step hs hn,
      reaching_step hr hs (converging_open hopen hs action) hn⟩

end DeviceManager.OpenGate
