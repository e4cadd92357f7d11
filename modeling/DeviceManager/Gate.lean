import DeviceManager.Hook
import DeviceManager.Log
import DeviceManager.InFlight

namespace DeviceManager.Gate

open Domain WorkerThread Queue QueueStep Log Transition History Hook InFlight

def materializes (request : TransitionRequest) : Bool :=
  decide (request.fromState = .finalized ∧ request.targetState = .unconfigured)

def gate : List Event → Option Bool
  | [] => none
  | .patched patch _ :: h =>
    match patch.lookup deviceEnable with
    | some (.bool value) => some value
    | _ => gate h
  | _ :: h => gate h

def tickMaterializes : Tick → Bool
  | .observed _ => false
  | .informed context => context.enabled && decide (context.state = .finalized)
  | .holding requests => requests.any materializes

def batchMaterializes (batch : RequestBatch) : Bool := batch.requests.any materializes

/-- A request that constructs the device is queued, in the hands of the worker
or in those of a tick. -/
def materializing (h : Hooked) : Bool :=
  (inHand h.queue.worker).any materializes || h.queue.urgentQueue.any batchMaterializes ||
    h.queue.normalQueue.any batchMaterializes || h.ticks.any tickMaterializes

def disables (patch : ParameterMap) : Bool :=
  decide (patch.lookup deviceEnable = some (.bool false))

/-- No explicit submissions, no patch that closes the gate on a request on its
way to construct the device, and no plan of one behind a closed gate. -/
def guarded (h : Hooked) : HookedAction → Prop
  | .device (.patch patch _) => disables patch = true → materializing h = false
  | .device (.work (.plan (.ok requests))) =>
    h.queue.enabled = false → requests.any materializes = false
  | .device (.enqueue _ _) => False
  | .device action => serving h.queue action
  | _ => True

instance (h : Hooked) : ∀ action, Decidable (guarded h action)
  | .device (.patch patch _) =>
    inferInstanceAs (Decidable (disables patch = true → materializing h = false))
  | .device (.work (.plan (.ok requests))) =>
    inferInstanceAs (Decidable (h.queue.enabled = false → requests.any materializes = false))
  | .device (.start) | .device .stop | .device .join | .device (.enqueue _ _) =>
    inferInstanceAs (Decidable False)
  | .device .spawn | .device (.work .go) | .device (.work (.state _)) | .device (.work (.outcome _))
  | .device (.work (.plan (.error _))) | .event _ | .tick _ | .context _ | .hook _ | .submit _ =>
    inferInstanceAs (Decidable True)

/-- A closed gate keeps requests from reaching the runtime that construct the device. -/
def Shut (event : Event) (older : List Event) : Prop :=
  ∀ request, event = .requested request → gate older = some false → materializes request = false

/-- What constructs nothing. -/
def Inert (h : Hooked) : Prop :=
  AllInFlight (fun request => materializes request = false) h.queue ∧
    ∀ tick ∈ h.ticks, tickMaterializes tick = false

structure Closed (h : Hooked) : Prop where
  gate : ∀ value, gate (sinceStart h.queue.log) = some value → h.queue.enabled = value
  inert : h.queue.enabled = false → Inert h
  shut : Always Shut (sinceStart h.queue.log)

theorem inert_of_not_materializing {h : Hooked} (hm : materializing h = false) : Inert h := by
  simp only [materializing, Bool.or_eq_false_iff, List.any_eq_false, batchMaterializes,
    Bool.not_eq_true] at hm
  obtain ⟨⟨⟨hw, hu⟩, hn⟩, ht⟩ := hm
  refine ⟨⟨hw, ?_⟩, ht⟩
  intro p batch hb
  cases p with
  | urgent => exact hu batch hb
  | normal => exact hn batch hb

theorem materializes_recovery (source target : LifecycleState) :
    (recoveryRequests source target).any materializes = false := by
  cases source <;> cases target <;> rfl

/-- The hook constructs the device only when its context is enabled. -/
theorem materializes_hook (handled : UInt64) (context : HookContext) :
    (standardHook handled context).2.any materializes =
      (context.enabled && decide (context.state = .finalized)) := by
  unfold standardHook
  cases he : context.enabled with
  | false => simp [materializes_recovery]
  | true =>
    simp only [Bool.not_true, Bool.false_eq_true, if_false, Bool.true_and]
    split
    · next hs => simp [hs, materializes]
    · next hs => simp [hs, materializes]
    · next hs => simp [hs, materializes]
    · next event hs _ =>
      simp only [hs, reduceCtorEq, decide_false]
      split
      · rfl
      · exact materializes_recovery _ _
    · next hf hu hi ha =>
      have hne : context.state ≠ .finalized := fun hs => hf hs
      simp [hne]

theorem gate_read {event : Event} (h : event.isRead = true) (older : List Event) :
    gate (event :: older) = gate older := by
  cases event with
  | planRead | sourceRead | targetRead | safeRead | finalRead => rfl
  | _ => cases h

theorem gate_step {q t : DeviceQueue} {action : Action} (hs : serving q action)
    (hn : next q action = some t)
    (h : ∀ value, gate (sinceStart q.log) = some value → q.enabled = value) :
    ∀ value, gate (sinceStart t.log) = some value → t.enabled = value := by
  have hmerge : ∀ patch priority, GateValue patch → ∀ value,
      gate (.patched patch priority :: sinceStart q.log) = some value →
        (q.merge patch priority).enabled = value := by
    intro patch priority hg value hv
    rw [DeviceQueue.merge_enabled]
    obtain hnone | ⟨b, hb⟩ := hg
    · simp only [gate, hnone] at hv ⊢
      exact h value hv
    · simpa only [gate, hb, Option.some.injEq] using hv
  cases next_move hn with
  | start | startAgain | stop | stopAgain | join => exact hs.elim
  | drop patch priority hr hst he hg => simpa [isStart] using hmerge patch priority hg
  | lone patch priority hr hst he hl hg => simpa [isStart] using hmerge patch priority hg
  | queuePatch patch priority hr hst he hl hg =>
    have hg' := hmerge patch priority hg
    intro value hv
    rw [← hg' value (by simpa [DeviceQueue.queuePatch, isStart, gate] using hv)]
    simp [DeviceQueue.queuePatch]
  | read event reply hw =>
    simpa [isStart_read hw, gate_read (isRead_reads hw reply)] using h
  | _ => simpa [isStart, gate] using h

/-- Only a patch can disable the device. -/
theorem disabled_step {q t : DeviceQueue} {action : Action} (hn : next q action = some t)
    (he : t.enabled = false) :
    q.enabled = false ∨
      ∃ patch priority, action = .patch patch priority ∧ disables patch = true := by
  have hmerge : ∀ patch priority, GateValue patch → (q.merge patch priority).enabled = false →
      q.enabled = false ∨ disables patch = true := by
    intro patch priority hg hen
    rw [DeviceQueue.merge_enabled] at hen
    obtain hnone | ⟨b, hb⟩ := hg
    · simp only [hnone] at hen
      exact Or.inl hen
    · simp only [hb] at hen
      subst hen
      exact Or.inr (by simp [disables, hb])
  cases next_move hn with
  | drop patch priority hr hst hen hg =>
    exact (hmerge patch priority hg hen).imp id fun hd => ⟨patch, priority, rfl, hd⟩
  | lone patch priority hr hst hen =>
    rw [hen] at he
    cases he
  | queuePatch patch priority hr hst hen =>
    have he' : (q.merge patch priority).enabled = false := by
      simpa [DeviceQueue.queuePatch] using he
    rw [hen] at he'
    cases he'
  | _ => exact Or.inl (by simpa using he)

theorem shut_step {q t : DeviceQueue} {action : Action} (hs : serving q action)
    (hn : next q action = some t) (h : Always Shut (sinceStart q.log))
    (hcall : ∀ request ret, q.worker = .calling request ret → gate (sinceStart q.log) = some false →
      materializes request = false) : Always Shut (sinceStart t.log) := by
  have hother : ∀ event older, (∀ request, event ≠ .requested request) → Shut event older :=
    fun event older hne request he _ => (hne request he).elim
  cases next_move hn with
  | start | startAgain | stop | stopAgain | join => exact hs.elim
  | call request ret hw =>
    simp only [DeviceQueue.record_log, DeviceQueue.setWorker_log, sinceStart_cons, isStart,
      Bool.false_eq_true, if_false, always_cons]
    refine ⟨?_, h⟩
    intro request' he hg
    obtain rfl := Event.requested.inj he
    exact hcall request ret hw hg
  | read event reply hw =>
    have hne : ∀ request, event reply ≠ .requested request := by
      intro request he
      have hread := isRead_reads hw reply
      rw [he] at hread
      cases hread
    simpa [isStart_read hw, h] using hother _ (sinceStart q.log) hne
  | _ => simp [DeviceQueue.queuePatch, isStart, h, hother]

theorem guarded_serving {h : Hooked} {action : Action} (hok : guarded h (.device action)) :
    serving h.queue action := by
  cases action with
  | start | stop | join => exact hok
  | _ => trivial

theorem closed_device {h : Hooked} (hc : Closed h) {action : Action} {q : DeviceQueue}
    (hok : guarded h (.device action)) (hn : Queue.next h.queue action = some q) :
    Closed { h with queue := q } := by
  have hs := guarded_serving hok
  refine ⟨gate_step hs hn hc.gate, ?_, ?_⟩
  · intro he
    have hin : Inert h ∧ ∀ request ∈ brought action, materializes request = false := by
      obtain hd | ⟨patch, priority, rfl, hd⟩ := disabled_step hn he
      · refine ⟨hc.inert hd, ?_⟩
        cases action with
        | enqueue => exact hok.elim
        | work answer =>
          cases answer with
          | plan reply =>
            cases reply with
            | ok requests => simpa [brought] using hok hd
            | error thrown => simp [brought]
          | _ => simp [brought]
        | _ => simp [brought]
      · exact ⟨inert_of_not_materializing (hok hd), by simp [brought]⟩
    exact ⟨inFlight_step hin.1.1 hin.2 (fun _ _ => by simp [materializes]) hn, hin.1.2⟩
  · apply shut_step hs hn hc.shut
    intro request ret hw hg
    refine (hc.inert (hc.gate false hg)).1.hand request ?_
    rw [hw]
    exact List.mem_cons_self ..

theorem closed_ticks {h t : Hooked} (hc : Closed h) (hq : t.queue = h.queue)
    (ht : h.queue.enabled = false → (∀ tick ∈ h.ticks, tickMaterializes tick = false) →
      ∀ tick ∈ t.ticks, tickMaterializes tick = false) : Closed t := by
  refine ⟨hq ▸ hc.gate, ?_, hq ▸ hc.shut⟩
  intro he
  have hd : h.queue.enabled = false := hq ▸ he
  obtain ⟨hin, hticks⟩ := hc.inert hd
  exact ⟨hq ▸ hin, ht hd hticks⟩

theorem all_set {P : Tick → Prop} {l : List Tick} (h : ∀ a ∈ l, P a) (i : Nat) {b : Tick}
    (hb : P b) : ∀ a ∈ l.set i b, P a := by
  intro a ha
  obtain hm | rfl := List.mem_or_eq_of_mem_set ha
  · exact h a hm
  · exact hb

theorem closed_step {h t : Hooked} {action : HookedAction} (hc : Closed h)
    (hok : guarded h action) (hn : h.next action = some t) : Closed t := by
  cases hooked_move hn with
  | device action q hq => exact closed_device hc hok hq
  | event event => exact closed_ticks hc rfl fun _ ht => ht
  | tick state =>
    refine closed_ticks hc rfl fun _ ht => ?_
    simp only [List.forall_mem_append, List.forall_mem_singleton]
    exact ⟨ht, rfl⟩
  | context index state hi =>
    refine closed_ticks hc rfl fun hd ht => all_set ht index ?_
    simp [tickMaterializes, Hooked.context, hd]
  | hook index context hi =>
    refine closed_ticks hc rfl fun _ ht => all_set ht index ?_
    rw [tickMaterializes, materializes_hook]
    exact ht _ (List.mem_of_getElem? hi)
  | refused index requests hi =>
    exact closed_ticks hc rfl fun _ ht tick hmem => ht tick (List.mem_of_mem_eraseIdx hmem)
  | submit index requests hi hr hst =>
    have hpush := next_enqueue hr hst requests .normal
    have hs : serving h.queue (.enqueue requests .normal) := trivial
    refine ⟨gate_step hs hpush hc.gate, ?_, shut_step hs hpush hc.shut ?_⟩
    · intro he
      obtain ⟨hin, ht⟩ := hc.inert (by simpa using he)
      have hreq : ∀ request ∈ brought (.enqueue requests .normal),
          materializes request = false := by
        simpa [tickMaterializes, brought] using ht _ (List.mem_of_getElem? hi)
      refine ⟨inFlight_step hin hreq (fun _ _ => by simp [materializes]) hpush, ?_⟩
      exact fun tick hmem => ht tick (List.mem_of_mem_eraseIdx hmem)
    · intro request ret hw hg
      refine (hc.inert (hc.gate false hg)).1.hand request ?_
      rw [hw]
      exact List.mem_cons_self ..

theorem closed_started {h : Hooked} (hs : Started h.queue) (ht : h.ticks = []) : Closed h := by
  obtain ⟨older, hlog⟩ := hs.log
  constructor
  · simp [hlog, isStart, Gate.gate]
  · exact fun _ => ⟨inFlight_started hs, by simp [ht]⟩
  · simp [hlog, isStart]

theorem gate_shut {h₀ h : Hooked} (hs : Started h₀.queue) (ht : h₀.ticks = [])
    (hrun : Runs Hooked.next guarded h₀ h) :
    Always Shut (sinceStart h.queue.log) ∧ PatchesAnswered h.queue := by
  have hclosed := hrun.invariant (closed_started hs ht) fun _ _ _ hc hok hn => closed_step hc hok hn
  exact ⟨hclosed.shut, patches_answered h.queue⟩

def hooked (enabled : Bool) (parameters : ParameterMap) : Hooked :=
  ⟨(fresh enabled parameters).start, none, 0, 0, []⟩

def automatic (h : Hooked) : HookedAction → Prop
  | .device (.enqueue _ _) => False
  | .device action => serving h.queue action
  | _ => True

instance (h : Hooked) : ∀ action, Decidable (automatic h action)
  | .device (.start) | .device .stop | .device .join | .device (.enqueue _ _) =>
    inferInstanceAs (Decidable False)
  | .device .spawn | .device (.work _) | .device (.patch _ _) | .event _ | .tick _ | .context _
  | .hook _ | .submit _ => inferInstanceAs (Decidable True)

def lateBatch : List HookedAction :=
  [.device .spawn, .tick .finalized, .context 0, .hook 0, .submit 0,
    .device (.patch (Finmap.singleton deviceEnable (.bool false)) .urgent),
    .device (.work .go), .device (.work (.state (.ok .finalized))), .device (.work .go)]

theorem gate_shut_lateBatch :
    ∃ h, exec Hooked.next automatic lateBatch (hooked true ∅) = some h ∧
      ¬ Always Shut (sinceStart h.queue.log) := by
  refine ⟨_, rfl, fun hall => ?_⟩
  exact absurd (hall.1 _ rfl (by decide)) (by decide)

def earlyBatch : List HookedAction :=
  [.device .spawn, .tick .finalized, .context 0, .hook 0, .submit 0, .device (.work .go),
    .device (.work (.state (.ok .finalized))), .device (.work .go),
    .device (.patch (Finmap.singleton deviceEnable (.bool false)) .urgent),
    .device (.work (.outcome (.ok ⟨.success, ""⟩))), .device (.work (.state (.ok .unconfigured))),
    .device (.work .go), .tick .finalized, .context 0, .hook 0, .submit 0]

theorem gate_shut_earlyBatch :
    ∃ h, exec Hooked.next guarded earlyBatch (hooked true ∅) = some h ∧
      gate (sinceStart h.queue.log) = some false ∧ Always Shut (sinceStart h.queue.log) := by
  have hexec : exec Hooked.next guarded earlyBatch (hooked true ∅) = some _ := rfl
  exact ⟨_, hexec, by decide, (gate_shut (started_start true ∅) rfl (exec_runs earlyBatch hexec)).1⟩

end DeviceManager.Gate
