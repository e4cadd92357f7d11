import DeviceManager.Hook
import DeviceManager.InFlight

namespace DeviceManager.ReliableRuntime

open Domain WorkerThread Queue QueueStep Transition Hook InFlight

def stable : LifecycleState → Bool
  | .finalized | .unconfigured | .inactive | .active => true
  | _ => false

def low : LifecycleState → Bool
  | .finalized | .unconfigured => true
  | _ => false

def configures (request : TransitionRequest) : Bool :=
  decide (request.fromState = .unconfigured ∧ request.targetState = .inactive)

abbrev Position := LifecycleState × Option ParameterMap

/-- The position after a successful transition. -/
def Position.after (position : Position) (request : TransitionRequest) : Position :=
  (request.targetState, if configures request then some request.parameters else position.2)

/-- A hooked device with a runtime that plans with `standard_parameter_transitions`
and whose transitions all succeed. -/
structure Plant where
  hooked : Hooked
  position : Position

def Plant.answer (p : Plant) (message : String) : Answer :=
  match p.hooked.queue.worker with
  | .superseded | .planning _ _ | .reading _ _ | .checking _ _ _ | .recovering _ _ _ | .finalizing =>
    .state (.ok p.position.1)
  | .awaiting _ _ => .outcome (.ok ⟨.success, message⟩)
  | .transitions state parameters _ => .plan (.ok (standardParameterTransitions state parameters))
  | _ => .go

def Plant.heading (p : Plant) : Position :=
  match p.hooked.queue.worker with
  | .awaiting request _ => p.position.after request
  | _ => p.position

/-- The states that a tick can read. A running transition shows its source, its
target or a state in between. -/
def Plant.visible (p : Plant) (state : LifecycleState) : Bool :=
  match p.hooked.queue.worker with
  | .awaiting request _ =>
    decide (state = p.position.1 ∨ state = request.targetState) || !stable state
  | _ => decide (state = p.position.1)

inductive PlantAction where
  | spawn
  | patch (patch : ParameterMap) (priority : RequestPriority)
  | work (message : String)
  | tick (state : LifecycleState)
  | context (index : Nat)
  | hook (index : Nat)
  | submit (index : Nat)

def Plant.lift (p : Plant) (action : HookedAction) : Option Plant :=
  (p.hooked.next action).map fun h => { p with hooked := h }

def Plant.next (p : Plant) : PlantAction → Option Plant
  | .spawn => p.lift (.device .spawn)
  | .patch patch priority => p.lift (.device (.patch patch priority))
  | .work message => (p.hooked.next (.device (.work (p.answer message)))).map fun h => ⟨h, p.heading⟩
  | .tick state => if p.visible state then p.lift (.tick state) else none
  | .context index => p.lift (.context index)
  | .hook index => p.lift (.hook index)
  | .submit index => p.lift (.submit index)

def Edge (request : TransitionRequest) : Prop :=
  (request.fromState, request.targetState) ∈
    [(LifecycleState.finalized, LifecycleState.unconfigured), (.unconfigured, .inactive),
      (.inactive, .active), (.active, .inactive), (.inactive, .unconfigured),
      (.unconfigured, .finalized)]

instance (request : TransitionRequest) : Decidable (Edge request) :=
  inferInstanceAs (Decidable (_ ∈ _))

theorem edge_recovery (source target : LifecycleState) :
    ∀ request ∈ recoveryRequests source target, Edge request := by
  cases source <;> cases target <;> decide

theorem edge_hook (handled : UInt64) (context : HookContext) :
    ∀ request ∈ (standardHook handled context).2, Edge request := by
  unfold standardHook
  split
  · exact edge_recovery _ _
  · split
    · simp [Edge]
    · simp [Edge]
    · simp [Edge]
    · split
      · simp
      · exact edge_recovery _ _
    · simp

theorem edge_plan (state : LifecycleState) (parameters : ParameterMap) :
    ∀ request ∈ standardParameterTransitions state parameters, Edge request := by
  cases state <;> simp [standardParameterTransitions, Edge]

theorem edge_stable {request : TransitionRequest} (h : Edge request) :
    stable request.targetState = true := by
  simp only [Edge, List.mem_cons, Prod.mk.injEq, List.not_mem_nil, or_false] at h
  obtain h | h | h | h | h | h := h <;> rw [h.2] <;> rfl

/-- An edge that leaves the two lower states without configuring stays in them. -/
theorem edge_low {request : TransitionRequest} (h : Edge request) (hc : configures request = false)
    (hs : low request.fromState = true) : low request.targetState = true := by
  simp only [Edge, List.mem_cons, Prod.mk.injEq, List.not_mem_nil, or_false] at h
  obtain h | h | h | h | h | h := h <;> simp_all [configures, low]

/-- Where the requests of a list bring a runtime whose transitions succeed. The
list ends at a request with another source state. -/
def land (position : Position) : List TransitionRequest → Position
  | [] => position
  | request :: rest =>
    if position.1 = request.fromState then land (position.after request) rest else position

theorem land_cons {position : Position} {request : TransitionRequest}
    (h : request.fromState = position.1) (rest : List TransitionRequest) :
    land position (request :: rest) = land (position.after request) rest := if_pos h.symm

theorem land_stale {position : Position} {request : TransitionRequest}
    (h : position.1 ≠ request.fromState) (rest : List TransitionRequest) :
    land position (request :: rest) = position := if_neg h

theorem land_plan {position : Position} (h : stable position.1 = true) (parameters : ParameterMap) :
    low (land position (standardParameterTransitions position.1 parameters)).1 = false ∧
      (land position (standardParameterTransitions position.1 parameters)).2 = some parameters := by
  obtain ⟨state, map⟩ := position
  cases state with
  | finalized | unconfigured | inactive | active => exact ⟨rfl, rfl⟩
  | _ => cases h

theorem land_snd {position : Position} {requests : List TransitionRequest}
    (h : ∀ request ∈ requests, configures request = false) :
    (land position requests).2 = position.2 := by
  induction requests generalizing position with
  | nil => rfl
  | cons request rest ih =>
    by_cases hs : position.1 = request.fromState
    · have hone : (position.after request).2 = position.2 := by
        simp [Position.after, h request (List.mem_cons_self ..)]
      rw [land_cons hs.symm, ih fun r hm => h r (List.mem_cons_of_mem _ hm), hone]
    · rw [land_stale hs]

/-- Edges that only configure with good maps never bring the runtime into a
configuration with another map. -/
theorem land_good {good : ParameterMap → Bool} {position : Position}
    {requests : List TransitionRequest} (hedge : ∀ request ∈ requests, Edge request)
    (hgood : ∀ request ∈ requests, configures request = true → good request.parameters = true)
    (h : low position.1 = true ∨ position.2.any good = true) :
    low (land position requests).1 = true ∨ (land position requests).2.any good = true := by
  induction requests generalizing position with
  | nil => exact h
  | cons request rest ih =>
    by_cases hs : position.1 = request.fromState
    · rw [land_cons hs.symm]
      apply ih (fun r hm => hedge r (List.mem_cons_of_mem _ hm))
        (fun r hm => hgood r (List.mem_cons_of_mem _ hm))
      cases hc : configures request with
      | true =>
        have hmap := hgood request (List.mem_cons_self ..) hc
        exact Or.inr (by simp [Position.after, hc, hmap])
      | false =>
        obtain hl | hg := h
        · exact Or.inl (edge_low (hedge request (List.mem_cons_self ..)) hc (hs ▸ hl))
        · exact Or.inr (by simpa [Position.after, hc] using hg)
    · rw [land_stale hs]
      exact h

def Leading (requests : List TransitionRequest) : Prop :=
  ∀ request ∈ requests.tail, configures request = false

instance (requests : List TransitionRequest) : Decidable (Leading requests) :=
  inferInstanceAs (Decidable (∀ request ∈ _, _))

theorem leading_recovery (source target : LifecycleState) :
    Leading (recoveryRequests source target) := by
  cases source <;> cases target <;> decide

theorem leading_hook (handled : UInt64) (context : HookContext) :
    Leading (standardHook handled context).2 := by
  unfold standardHook
  split
  · exact leading_recovery _ _
  · split
    · simp [Leading]
    · simp [Leading]
    · simp [Leading]
    · split
      · simp [Leading]
      · exact leading_recovery _ _
    · simp [Leading]

/-- Such a batch does not change the map of a configured runtime. -/
theorem land_configured {position : Position} {requests : List TransitionRequest}
    (hlead : Leading requests) (h : low position.1 = false) :
    (land position requests).2 = position.2 := by
  cases requests with
  | nil => rfl
  | cons request rest =>
    by_cases hs : position.1 = request.fromState
    · have hc : configures request = false := by
        rw [configures, decide_eq_false_iff_not]
        rintro ⟨hu, -⟩
        simp [hs, hu, low] at h
      apply land_snd
      intro r hm
      obtain rfl | hm := List.mem_cons.mp hm
      · exact hc
      · exact hlead r hm
    · rw [land_stale hs]

end DeviceManager.ReliableRuntime
