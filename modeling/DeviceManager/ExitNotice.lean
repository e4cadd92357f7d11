import DeviceManager.ManagedProcess

namespace DeviceManager.ExitNotice

open Domain WorkerThread Queue Transition RuntimeBase ParameterText Hook RuntimeHooks ReliableRuntime
  ProcessAdapter ManagedProcess

/-- The child is reaped, and the adapter still shows a configured device. -/
def dead (a : Adapter) : Bool :=
  decide (a.childPid ≤ 0 ∧ (a.cachedState = .inactive ∨ a.cachedState = .active))

/-- While the child is dead no driver message with another target than FINALIZED arrives,
and no tick that has observed FINALIZED before takes its context. -/
def heeded (m : Managed) : ManagedAction → Bool
  | .driver event => !dead m.adapter || decide (event.targetState = .finalized)
  | .context index =>
    match m.ticks[index]? with
    | some (.observed .finalized) => !dead m.adapter
    | _ => true
  | _ => true

def wholeTick (m : Managed) (answers : Answers) : List ManagedAction :=
  [.tick answers, .context m.ticks.length, .hook m.ticks.length, .submit m.ticks.length]

/-- The next tick queues a request with target FINALIZED. -/
def Noticed (yaml : DoubleQuoted) (m : Managed) : Prop :=
  ∀ answers, ∃ t batch, exec (Managed.next yaml) (fun _ _ => True) (wholeTick m answers) m = some t ∧
    t.queue.normalQueue = m.queue.normalQueue ++ [batch] ∧
    ∃ request ∈ batch.requests, request.targetState = .finalized

theorem startProcess_adapter (yaml : DoubleQuoted) (answers : Answers) (a : Adapter) (call : Call)
    (parameters : ParameterMap) : (a.startProcess yaml call parameters answers).1 = a ∨
      (0 < (a.startProcess yaml call parameters answers).1.childPid ∧
        stable (a.startProcess yaml call parameters answers).1.cachedState = true) := by
  unfold Adapter.startProcess
  split
  · exact Or.inl rfl
  · unfold Adapter.spawned
    split
    · exact Or.inl rfl
    · next pid _ =>
      right
      unfold Adapter.afterStart
      split
      · exact ⟨pid.2, rfl⟩
      · exact ⟨pid.2, rfl⟩

theorem resume_adapter (yaml : DoubleQuoted) (answers : Answers) {a : Adapter}
    (h : a.cachedState = .finalized) (call : Call) :
    low (a.resume yaml answers call).1.cachedState = true ∨
      (0 < (a.resume yaml answers call).1.childPid ∧
        stable (a.resume yaml answers call).1.cachedState = true) := by
  have hlow : low a.cachedState = true := by rw [h]; rfl
  unfold Adapter.resume
  split
  · next parameters _ =>
    obtain he | hs := startProcess_adapter yaml answers a call parameters
    · rw [he]
      exact Or.inl hlow
    · exact Or.inr hs
  · unfold Adapter.afterStop
    split
    · exact Or.inl rfl
    · exact Or.inl hlow

theorem stopThen_adapter (yaml : DoubleQuoted) (answers : Answers) (a : Adapter) (call : Call) :
    (a.stopThen yaml answers call).1 = a ∨
      low (a.stopThen yaml answers call).1.cachedState = true ∨
      (0 < (a.stopThen yaml answers call).1.childPid ∧
        stable (a.stopThen yaml answers call).1.cachedState = true) := by
  unfold Adapter.stopThen Adapter.stopProcess
  by_cases hp : a.childPid ≤ 0
  · simp only [if_pos hp]
    exact Or.inr (resume_adapter yaml answers rfl call)
  · simp only [if_neg hp]
    cases answers.stopped with
    | none => exact Or.inr (resume_adapter yaml answers rfl call)
    | some failure => exact Or.inl rfl

theorem finish_adapter (yaml : DoubleQuoted) (answers : Answers) (a : Adapter) (call : Call) :
    (a.finish yaml answers call).1 = a ∨ low (a.finish yaml answers call).1.cachedState = true ∨
      (0 < (a.finish yaml answers call).1.childPid ∧
        stable (a.finish yaml answers call).1.cachedState = true) := by
  unfold Adapter.finish
  split
  · next adapter answer hn =>
    unfold Adapter.proceed at hn
    split at hn
    · cases hn
      exact Or.inl rfl
    · split at hn <;> cases hn
      exact Or.inr (Or.inl rfl)
    · split at hn
      · cases hn
      · split at hn
        · cases hn
        · next hp =>
          cases hn
          exact Or.inr (Or.inr ⟨not_le.mp hp, rfl⟩)
    · split at hn
      · cases hn
        exact Or.inl rfl
      · next hp =>
        cases hn
        exact Or.inr (Or.inr ⟨not_le.mp hp, rfl⟩)
    · split at hn
      · cases hn
        exact Or.inl rfl
      · next hp =>
        cases hn
        exact Or.inr (Or.inr ⟨not_le.mp hp, rfl⟩)
    · cases hn
    · cases hn
  · next parameters hn =>
    obtain he | hs := startProcess_adapter yaml answers a call parameters
    · exact Or.inl he
    · exact Or.inr (Or.inr hs)
  · exact stopThen_adapter yaml answers a call

theorem dead_low {a : Adapter} (h : low a.cachedState = true) : dead a = false := by
  rw [dead, decide_eq_false_iff_not]
  rintro ⟨-, hs | hs⟩ <;> simp [hs, low] at h

theorem dead_pid {a : Adapter} (h : 0 < a.childPid) : dead a = false := by
  rw [dead, decide_eq_false_iff_not]
  rintro ⟨hp, -⟩
  omega

theorem stable_low {state : LifecycleState} (h : low state = true) : stable state = true := by
  cases state <;> first | rfl | cases h

theorem reapChild_adapter (a : Adapter) (exited : Option ℤ) :
    a.reapChild exited = (a, none) ∨
      ∃ status, a.reapChild exited = (a.forget, some (processExited status)) := by
  unfold Adapter.reapChild
  split
  · next status =>
    split
    · exact Or.inr ⟨status, rfl⟩
    · exact Or.inl rfl
  · exact Or.inl rfl

/-- What a call does to the adapter: with an event the child was found to have exited. -/
theorem perform_adapter (yaml : DoubleQuoted) (answers : Answers) {a : Adapter} (call : Call)
    (hs : stable a.cachedState = true) :
    stable (a.perform yaml answers call).1.1.cachedState = true ∧
      ((a.perform yaml answers call).2 = none ∧
          (dead (a.perform yaml answers call).1.1 = true → dead a = true) ∨
        ∃ status, (a.perform yaml answers call).2 = some (processExited status)) := by
  have hfinish : ∀ b : Adapter, stable b.cachedState = true →
      stable (b.finish yaml answers call).1.cachedState = true := by
    intro b hb
    obtain he | hl | ⟨-, hst⟩ := finish_adapter yaml answers b call
    · rw [he]
      exact hb
    · exact stable_low hl
    · exact hst
  have hdead : dead (a.finish yaml answers call).1 = true → dead a = true := by
    intro hd
    obtain he | hl | ⟨hp, -⟩ := finish_adapter yaml answers a call
    · rwa [he] at hd
    · rw [dead_low hl] at hd
      cases hd
    · rw [dead_pid hp] at hd
      cases hd
  cases hc : call.reaps with
  | true =>
    rw [perform_reaps hc]
    obtain he | ⟨status, he⟩ := reapChild_adapter a answers.exited
    · rw [he]
      exact ⟨hfinish a hs, Or.inl ⟨rfl, hdead⟩⟩
    · rw [he]
      exact ⟨hfinish a.forget hs, Or.inr ⟨status, rfl⟩⟩
  | false =>
    rw [perform_plain hc]
    exact ⟨hfinish a hs, Or.inl ⟨rfl, hdead⟩⟩

def Pending (m : Managed) : Prop :=
  ∃ event, m.latestEvent = some event ∧ event.targetState = .finalized ∧
    m.latestEventRevision ≠ 0 ∧ alreadyHandled m.handled m.latestEventRevision = false

def Fits (m : Managed) : Tick → Prop
  | .observed state => stable state = true
  | .informed context => stable context.state = true ∧
    context.latestEventRevision ≤ m.latestEventRevision ∧
    (context.latestEventRevision = m.latestEventRevision →
      context.latestEvent = m.latestEvent ∧ (dead m.adapter = true → context.state ≠ .finalized))
  | .holding _ => True

structure Watching (m : Managed) : Prop where
  running : m.queue.running = true
  stopping : m.queue.stopping = false
  enabled : m.queue.enabled = true
  stable : stable m.adapter.cachedState = true
  count : m.latestEventRevision.toNat = m.delivered.length
  ticks : ∀ tick ∈ m.ticks, Fits m tick
  handled : ∀ revision, m.handled = some revision → revision ≤ m.latestEventRevision
  pending : dead m.adapter = true → Pending m

theorem revision_succ {m : Managed} (h : Watching m) (hc : m.delivered.length + 1 < 2 ^ 64) :
    (m.latestEventRevision + 1).toNat = m.latestEventRevision.toNat + 1 := by
  have hcount := h.count
  rw [UInt64.toNat_add]
  apply Nat.mod_eq_of_lt
  simp
  omega

theorem watching_deliver {m : Managed} (h : Watching m) {adapter : Adapter} {event : DeviceEvent}
    (hs : ReliableRuntime.stable adapter.cachedState = true)
    (he : dead adapter = true → event.targetState = .finalized)
    (hc : m.delivered.length + 1 < 2 ^ 64) :
    Watching ({ m with adapter := adapter }.deliver event) := by
  have hsucc := revision_succ h hc
  have hless : ∀ revision : UInt64, revision ≤ m.latestEventRevision →
      revision ≤ m.latestEventRevision + 1 ∧ revision ≠ m.latestEventRevision + 1 := by
    intro revision hr
    rw [UInt64.le_iff_toNat_le] at hr
    refine ⟨?_, fun heq => ?_⟩
    · rw [UInt64.le_iff_toNat_le]
      omega
    · rw [heq] at hr
      omega
  refine ⟨h.running, h.stopping, h.enabled, hs, ?_, ?_, ?_, ?_⟩
  · simp only [Managed.deliver, hsucc, h.count, List.length_cons]
  · intro tick hm
    have hfit := h.ticks tick hm
    cases tick with
    | observed state => exact hfit
    | informed context =>
      obtain ⟨hle, hne⟩ := hless _ hfit.2.1
      exact ⟨hfit.1, hle, fun heq => (hne heq).elim⟩
    | holding requests => trivial
  · intro revision hr
    exact (hless _ (h.handled revision hr)).1
  · intro hd
    refine ⟨event, rfl, he hd, ?_, ?_⟩
    · intro hzero
      have := congrArg UInt64.toNat hzero
      simp only [Managed.deliver, hsucc] at this
      simp at this
    · show alreadyHandled m.handled (m.latestEventRevision + 1) = false
      cases hh : m.handled with
      | none => rfl
      | some revision =>
        obtain ⟨hle, hne⟩ := hless _ (h.handled revision hh)
        exact decide_eq_false fun hge => hne (UInt64.le_antisymm hle hge)

theorem watching_called {m : Managed} (h : Watching m) (yaml : DoubleQuoted) (answers : Answers)
    (call : Call)
    (hc : (m.called (m.adapter.perform yaml answers call).1.1
      (m.adapter.perform yaml answers call).2).delivered.length < 2 ^ 64) :
    Watching (m.called (m.adapter.perform yaml answers call).1.1
      (m.adapter.perform yaml answers call).2) := by
  obtain ⟨hs, ⟨hnone, hdead⟩ | ⟨status, hsome⟩⟩ := perform_adapter yaml answers call h.stable
  · rw [hnone]
    refine ⟨h.running, h.stopping, h.enabled, hs, h.count, ?_, h.handled, fun hd =>
      h.pending (hdead hd)⟩
    intro tick hm
    have hfit := h.ticks tick hm
    cases tick with
    | observed state => exact hfit
    | informed context =>
      refine ⟨hfit.1, hfit.2.1, fun heq => ⟨(hfit.2.2 heq).1, fun hd => ?_⟩⟩
      exact (hfit.2.2 heq).2 (hdead hd)
    | holding requests => trivial
  · rw [hsome] at hc ⊢
    exact watching_deliver h hs (fun _ => rfl) hc

theorem watching_queue {m : Managed} (h : Watching m) {q : DeviceQueue} (hq : Touched m.queue q) :
    Watching { m with queue := q } := by
  obtain ⟨hr, hs, he⟩ := touched_flags hq
  exact ⟨hr.trans h.running, hs.trans h.stopping, he.trans h.enabled, h.stable, h.count, h.ticks,
    h.handled, h.pending⟩

theorem watching_ticks {m : Managed} (h : Watching m) {ticks : List Tick}
    (ht : ∀ tick ∈ ticks, tick ∈ m.ticks ∨ Fits m tick) : Watching { m with ticks := ticks } := by
  refine ⟨h.running, h.stopping, h.enabled, h.stable, h.count, ?_, h.handled, h.pending⟩
  intro tick hm
  have hfit : Fits m tick := (ht tick hm).elim (h.ticks tick) id
  cases tick <;> exact hfit

theorem path_finalized {state : LifecycleState} (hs : stable state = true)
    (hf : state ≠ .finalized) (parameters : ParameterMap) :
    RosAdapter.process.path state .finalized parameters = [⟨state, .finalized, ∅⟩] := by
  cases state with
  | unconfigured | inactive | active => rfl
  | finalized => exact (hf rfl).elim
  | _ => cases hs

theorem processHook_handled (handled : RecoveryHookState) (context : HookContext) :
    (processHook handled context).1 = handled ∨
      ((processHook handled context).1 = some context.latestEventRevision ∧
        RosAdapter.process.closes context) := by
  cases hook_cases .process handled context with
  | unwatched hw he => exact Or.inl (congrArg Prod.fst he)
  | handled hh he => exact Or.inl (congrArg Prod.fst he)
  | closes hh hc he => exact Or.inr ⟨congrArg Prod.fst he, hc⟩
  | pending event hw hh hc he => exact Or.inl (congrArg Prod.fst he)

theorem watching_hook {m : Managed} (h : Watching m) {index : Nat} {context : HookContext}
    (hi : m.ticks[index]? = some (.informed context)) :
    Watching { m with
      handled := (processHook m.handled context).1
      ticks := m.ticks.set index (.holding (processHook m.handled context).2) } := by
  have hfit : Fits m (.informed context) := h.ticks _ (List.mem_of_getElem? hi)
  have hheld : Fits m (.holding (processHook m.handled context).2) := trivial
  have hw := watching_ticks h (@mem_set_or (Fits m) m.ticks index _ hheld)
  refine ⟨h.running, h.stopping, h.enabled, h.stable, h.count, hw.ticks, ?_, ?_⟩
  · intro revision hr
    obtain he | ⟨he, -⟩ := processHook_handled m.handled context
    · exact h.handled revision (he ▸ hr)
    · rw [he] at hr
      obtain rfl := Option.some.inj hr
      exact hfit.2.1
  · intro hd
    obtain ⟨event, hlatest, htarget, hzero, hopen⟩ := h.pending hd
    refine ⟨event, hlatest, htarget, hzero, ?_⟩
    obtain he | ⟨he, hclose⟩ := processHook_handled m.handled context
    · show alreadyHandled (processHook m.handled context).1 m.latestEventRevision = false
      rw [he]
      exact hopen
    · show alreadyHandled (processHook m.handled context).1 m.latestEventRevision = false
      rw [he]
      apply decide_eq_false
      intro hge
      have heq := UInt64.le_antisymm hfit.2.1 hge
      obtain ⟨hevent, hstate⟩ := hfit.2.2 heq
      obtain ⟨event', hwatched, hclosed⟩ := hclose
      have hlatest' : context.latestEvent = some event' := (Option.filter_eq_some_iff.mp hwatched).1
      obtain rfl := Option.some.inj (hlatest'.symm.trans (hevent.trans hlatest))
      rw [htarget] at hclosed
      obtain hreached | hnone := hclosed
      · exact hstate hd hreached
      · rw [path_finalized hfit.1 (hstate hd)] at hnone
        cases hnone

theorem watching_step {yaml : DoubleQuoted} {m t : Managed} {action : ManagedAction}
    (h : Watching m) (ha : heeded m action = true) (hn : m.next yaml action = some t)
    (hc : t.delivered.length < 2 ^ 64) : Watching t := by
  cases managed_move hn with
  | queue action q hq => exact watching_queue h hq
  | call action answers call q hq => exact watching_called (watching_queue h hq) yaml answers call hc
  | driver event =>
    refine watching_deliver h h.stable (fun hd => ?_) hc
    simpa [heeded, hd] using ha
  | tick answers =>
    have hstate : Fits m (.observed (observedState
        (m.adapter.perform yaml answers .state).1.2)) := by
      rw [perform_state]
      obtain he | ⟨status, he⟩ := reapChild_adapter m.adapter answers.exited <;> rw [he] <;>
        exact h.stable
    exact watching_called (watching_ticks h (mem_snoc_or hstate)) yaml answers .state hc
  | context index state hi =>
    refine watching_ticks h (mem_set_or index ?_)
    have hfit : Fits m (.observed state) := h.ticks _ (List.mem_of_getElem? hi)
    refine ⟨hfit, UInt64.le_refl _, fun _ => ⟨rfl, fun hd hf => ?_⟩⟩
    have hf' : state = .finalized := hf
    simp [heeded, hi, hf', hd] at ha
  | hook index context hi => exact watching_hook h hi
  | submit index requests hi =>
    have hq := watching_queue h (Or.inr (Or.inr (Or.inr ⟨requests, rfl⟩)))
    refine watching_ticks hq fun tick hm => Or.inl ?_
    exact List.mem_of_mem_eraseIdx hm

theorem delivered_mono {yaml : DoubleQuoted} {m t : Managed} {action : ManagedAction}
    (hn : m.next yaml action = some t) : m.delivered.length ≤ t.delivered.length := by
  have hcalled : ∀ (m : Managed) (a : Adapter) (event : Option DeviceEvent),
      m.delivered.length ≤ (m.called a event).delivered.length := by
    intro m a event
    cases event with
    | none => exact Nat.le_refl _
    | some event => exact Nat.le_succ _
  cases managed_move hn with
  | call action answers call q hq => exact hcalled { m with queue := q } _ _
  | driver event => exact Nat.le_succ _
  | tick answers => exact hcalled { m with ticks := m.ticks ++ _ } _ _
  | _ => exact Nat.le_refl _

theorem watching_begun {m : Managed} (h : Begun m) : Watching m := by
  obtain ⟨process, hadapter⟩ := h.adapter
  refine ⟨h.queue.running, h.queue.stopping, h.enabled, ?_, ?_, ?_, ?_, ?_⟩
  · rw [hadapter]
    rfl
  · rw [h.revision, h.delivered]
    rfl
  · rw [h.ticks]
    exact fun _ hm => by cases hm
  · rw [h.handled]
    exact fun _ hr => by cases hr
  · rw [hadapter]
    exact fun hd => by cases hd

theorem watching_run {yaml : DoubleQuoted} {m₀ m : Managed} (h : Begun m₀)
    (hrun : Runs (Managed.next yaml) (fun m a => heeded m a = true) m₀ m)
    (hc : m.delivered.length < 2 ^ 64) : Watching m := by
  have hall := hrun.invariant (I := fun m => m.delivered.length < 2 ^ 64 → Watching m)
    (fun _ => watching_begun h) fun _ _ _ hi ha hn hlt =>
      watching_step (hi (Nat.lt_of_le_of_lt (delivered_mono hn) hlt)) ha hn hlt
  exact hall hc

theorem reap_dead {a : Adapter} (h : dead a = true) (exited : Option ℤ) :
    a.reapChild exited = (a, none) := by
  have hp := (of_decide_eq_true h).1
  unfold Adapter.reapChild
  split
  · rw [if_neg (not_lt.mpr hp)]
  · rfl

theorem exec_wholeTick (yaml : DoubleQuoted) {m : Managed} (hd : dead m.adapter = true)
    (answers : Answers) :
    exec (Managed.next yaml) (fun _ _ => True) (wholeTick m answers) m = some { m with
      queue := submit m.queue (processHook m.handled (m.context m.adapter.cachedState)).2
      handled := (processHook m.handled (m.context m.adapter.cachedState)).1 } := by
  have herase : ∀ a : Tick, (m.ticks ++ [a]).eraseIdx m.ticks.length = m.ticks := fun a => by
    simp [List.eraseIdx_append_of_length_le]
  have htick : m.next yaml (.tick answers) =
      some { m with ticks := m.ticks ++ [.observed m.adapter.cachedState] } := by
    simp [Managed.next, perform_state, reap_dead hd, Managed.called, observedState]
  rw [wholeTick, exec, if_pos trivial, htick, Option.bind_some]
  simp [exec, Managed.next, herase, Managed.context]

theorem path_dead {state target : LifecycleState} (hs : state = .inactive ∨ state = .active)
    (parameters : ParameterMap) :
    (∃ request ∈ RosAdapter.process.path state target parameters,
      request.targetState = .finalized) ↔ target = .finalized := by
  obtain rfl | rfl := hs <;> cases target <;>
    simp [RosAdapter.path, processPath, transitionsTo]

theorem startup_dead {m : Managed} (h : dead m.adapter = true) (he : m.queue.enabled = true) :
    ¬ ∃ request ∈ RosAdapter.process.startup (m.context m.adapter.cachedState),
      request.targetState = .finalized := by
  obtain hs | hs := (of_decide_eq_true h).2 <;>
    simp [RosAdapter.startup, processStartup, Managed.context, hs, he, automaticTarget,
      processPath, transitionsTo]

theorem hook_dead {m : Managed} (h : dead m.adapter = true) (he : m.queue.enabled = true) :
    (∃ request ∈ (processHook m.handled (m.context m.adapter.cachedState)).2,
      request.targetState = .finalized) ↔ Pending m := by
  have hstate := (of_decide_eq_true h).2
  have hstable : stable m.adapter.cachedState = true := by
    obtain hs | hs := hstate <;> rw [hs] <;> rfl
  have hreached : m.adapter.cachedState ≠ .finalized := by
    obtain hs | hs := hstate <;> rw [hs] <;> exact nofun
  have hstartup := startup_dead h he
  generalize hc : m.context m.adapter.cachedState = context at hstartup
  have hcontext : context.latestEvent = m.latestEvent ∧
      context.latestEventRevision = m.latestEventRevision ∧
      context.state = m.adapter.cachedState := by
    rw [← hc]
    exact ⟨rfl, rfl, rfl⟩
  obtain ⟨hlatest, hrevision, hst⟩ := hcontext
  have hwatch : ∀ event, m.latestEvent = some event → m.latestEventRevision ≠ 0 →
      RosAdapter.process.watched context = some event := by
    intro event hevent hzero
    simp [RosAdapter.watched, hlatest, hevent, hrevision, hzero, Option.filter]
  change (∃ request ∈ (RosAdapter.process.hook m.handled context).2, _) ↔ _
  cases hook_cases .process m.handled context with
  | unwatched hw he =>
    rw [he]
    refine iff_of_false hstartup ?_
    rintro ⟨event, hevent, -, hzero, -⟩
    rw [hwatch event hevent hzero] at hw
    cases hw
  | handled hh he =>
    rw [he]
    refine iff_of_false hstartup ?_
    rintro ⟨-, -, -, -, hopen⟩
    rw [← hrevision, hh] at hopen
    cases hopen
  | closes hh hclose he =>
    rw [he]
    refine iff_of_false hstartup ?_
    rintro ⟨event, hevent, htarget, hzero, -⟩
    obtain ⟨event', hw', hclosed⟩ := hclose
    obtain rfl := Option.some.inj (hw'.symm.trans (hwatch event hevent hzero))
    rw [htarget, hst] at hclosed
    obtain hreach | hpath := hclosed
    · exact hreached hreach
    · rw [path_finalized hstable hreached] at hpath
      cases hpath
  | pending event hw hh hclose he =>
    rw [he]
    obtain ⟨hfound, hfilter⟩ := Option.filter_eq_some_iff.mp hw
    rw [hlatest] at hfound
    have hst' : context.state = .inactive ∨ context.state = .active := by
      rwa [hst]
    refine (path_dead hst' context.parameters).trans ⟨fun htarget => ?_, ?_⟩
    · refine ⟨event, hfound, htarget, ?_, by rwa [← hrevision]⟩
      rw [hrevision] at hfilter
      simpa using hfilter
    · rintro ⟨event', hevent', htarget, -, -⟩
      obtain rfl := Option.some.inj (hevent'.symm.trans hfound)
      exact htarget

theorem contiguous_hook (handled : RecoveryHookState) (context : HookContext) :
    isContiguous (processHook handled context).2 = true := by
  have hpath : ∀ target parameters,
      isContiguous (processPath context.state target parameters) = true := by
    intro target parameters
    obtain he | ⟨hc, -⟩ := path_transitionsTo context.state target parameters ∅
    · rw [processPath, he]
      rfl
    · exact hc
  have hstartup : isContiguous (processStartup context) = true := by
    unfold processStartup
    split
    · split
      · rfl
      · exact hpath _ _
    · split
      · exact hpath _ _
      · exact hpath _ _
  change isContiguous (RosAdapter.process.hook handled context).2 = true
  cases hook_cases .process handled context with
  | unwatched hw he => exact he ▸ hstartup
  | handled hh he => exact he ▸ hstartup
  | closes hh hc he => exact he ▸ hstartup
  | pending event hw hh hc he => exact he ▸ hpath _ _

/-- While the child is dead, a tick notices exactly a pending event. -/
theorem noticed_iff {yaml : DoubleQuoted} {m : Managed} (hd : dead m.adapter = true)
    (hr : m.queue.running = true) (hs : m.queue.stopping = false) (he : m.queue.enabled = true) :
    Noticed yaml m ↔ Pending m := by
  have hcontiguous := contiguous_hook m.handled (m.context m.adapter.cachedState)
  rw [← hook_dead hd he]
  generalize hq : (processHook m.handled (m.context m.adapter.cachedState)).2 = requests
    at hcontiguous
  constructor
  · intro hn
    obtain ⟨t, batch, ht, hlane, request, hm, hf⟩ := hn ⟨none, none, fun _ => .error ""⟩
    rw [exec_wholeTick yaml hd] at ht
    obtain rfl := Option.some.inj ht
    have hlane' : (submit m.queue requests).normalQueue = m.queue.normalQueue ++ [batch] :=
      hq ▸ hlane
    obtain hsame | ⟨-, -, hpush⟩ := submit_cases m.queue requests
    · rw [hsame] at hlane'
      exact absurd hlane' (by simp)
    · rw [hpush] at hlane'
      have hbatch := List.append_cancel_left hlane'
      obtain rfl := (List.cons.inj hbatch).1
      exact ⟨request, hm, hf⟩
  · rintro ⟨request, hm, hf⟩ answers
    have hne : requests.isEmpty = false := List.isEmpty_eq_false_iff_exists_mem.mpr ⟨request, hm⟩
    refine ⟨_, ⟨requests, none, ∅⟩, exec_wholeTick yaml hd answers, ?_, request, hm, hf⟩
    simp [hq, submit, hne, hcontiguous, DeviceQueue.enqueue, hr, hs, DeviceQueue.push,
      DeviceQueue.setLane, DeviceQueue.lane]

theorem exit_noticed (yaml : DoubleQuoted) {m₀ m : Managed} (h : Begun m₀)
    (hrun : Runs (Managed.next yaml) (fun m a => heeded m a = true) m₀ m)
    (hcount : m.delivered.length < 2 ^ 64) (hd : dead m.adapter = true) : Noticed yaml m := by
  have hw := watching_run h hrun hcount
  exact (noticed_iff hd hw.running hw.stopping hw.enabled).mpr (hw.pending hd)

def started : Managed :=
  ⟨(Queue.fresh true ∅).start, Adapter.initial ⟨"demo_nodes_cpp", "talker", "relay", "", [], ∅⟩,
    none, 0, none, [], []⟩

theorem begun_started : Begun started :=
  ⟨started_start true ∅, rfl, ⟨_, rfl⟩, rfl, rfl, rfl, rfl, rfl⟩

def alive : Answers := ⟨none, none, fun _ => .ok ⟨100, by decide⟩⟩

def exited : Answers := { alive with exited := some 9 }

def unescaped : DoubleQuoted := ⟨String.toList, fun chars => some (String.ofList chars)⟩

def round : List ManagedAction :=
  [.tick alive, .context 0, .hook 0, .submit 0] ++ List.replicate 6 (.work alive)

def untilExit : List ManagedAction := [.spawn] ++ round ++ round ++ [.query exited]

theorem exit_noticed_query :
    ∃ m, exec (Managed.next unescaped) (fun m a => heeded m a = true) untilExit started = some m ∧
      dead m.adapter = true ∧ Noticed unescaped m := by
  have hexec : exec (Managed.next unescaped) (fun m a => heeded m a = true) untilExit started =
      some _ := rfl
  refine ⟨_, hexec, rfl, ?_⟩
  exact exit_noticed unescaped begun_started (exec_runs _ hexec) (by decide) rfl

def connected : DeviceEvent :=
  ⟨.ok, "driver.connected", "connected", "driver", .active, ∅⟩

theorem exit_overwritten :
    ∃ m, exec (Managed.next unescaped) (fun _ _ => True) (untilExit ++ [.driver connected]) started =
        some m ∧
      dead m.adapter = true ∧ m.queue.urgentQueue = [] ∧ m.queue.normalQueue = [] ∧
      m.queue.worker = .waiting ∧ ¬ Noticed unescaped m := by
  have hexec : exec (Managed.next unescaped) (fun _ _ => True) (untilExit ++ [.driver connected])
      started = some _ := rfl
  refine ⟨_, hexec, rfl, rfl, rfl, rfl, ?_⟩
  intro hn
  obtain ⟨event, hevent, htarget, -⟩ := (noticed_iff rfl rfl rfl rfl).mp hn
  obtain rfl := Option.some.inj hevent
  cases htarget

end DeviceManager.ExitNotice
