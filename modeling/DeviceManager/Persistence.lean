import DeviceManager.ManagerStep
import DeviceManager.RuntimeHooks

namespace DeviceManager.Persistence

open Domain Transition Hook ReliableRuntime RuntimeHooks

/-- The second context was taken later: its revision is no smaller, and the event
of a revision does not change. -/
def Precedes (earlier later : HookContext) : Prop :=
  earlier.latestEventRevision ≤ later.latestEventRevision ∧
    (earlier.latestEventRevision = later.latestEventRevision →
      earlier.latestEvent = later.latestEvent)

/-- The contexts of the ticks of an enabled device, the oldest one first. -/
structure Ticked (contexts : List HookContext) : Prop where
  ordered : contexts.Pairwise Precedes
  enabled : ∀ context ∈ contexts, context.enabled = true
  counted : ∀ context ∈ contexts, context.latestEvent ≠ none → context.latestEventRevision ≠ 0

def Fault (context : HookContext) (event : DeviceEvent) : Prop :=
  context.latestEvent = some event ∧ eventNeedsRecovery event = true ∧
    stable event.targetState = true

def Reached (contexts : List HookContext) (revision : UInt64) (event : DeviceEvent) : Prop :=
  ∃ context ∈ contexts, context.latestEventRevision = revision ∧
    context.state = event.targetState

def Stuck (adapter : RosAdapter) (contexts : List HookContext) (revision : UInt64)
    (event : DeviceEvent) : Prop :=
  ∃ context ∈ contexts, context.latestEventRevision = revision ∧
    adapter.path context.state event.targetState context.parameters = []

def route (adapter : RosAdapter) (context : HookContext) (event : DeviceEvent) :
    List TransitionRequest := adapter.path context.state event.targetState context.parameters

/-- Recovery goes on at this tick until the target was seen, and not any longer. -/
def Persists (adapter : RosAdapter) (history : List HookContext) (context : HookContext) : Prop :=
  ∀ event, Fault context event →
    (¬ Reached (history ++ [context]) context.latestEventRevision event →
      route adapter context event ≠ [] →
      adapter.registerHook.returns history context = route adapter context event ∧
        Path context.state event.targetState (adapter.registerHook.returns history context)) ∧
    (Reached history context.latestEventRevision event →
      adapter.registerHook.returns history context = adapter.startup context)

/-- There is a path again after a tick that saw none, and the start-up branch would
not return the same one. -/
def Lost (adapter : RosAdapter) (history : List HookContext) (context : HookContext) : Prop :=
  ∃ event, Fault context event ∧
    ¬ Reached (history ++ [context]) context.latestEventRevision event ∧
    Stuck adapter history context.latestEventRevision event ∧
    route adapter context event ≠ [] ∧ route adapter context event ≠ adapter.startup context

theorem watched_fault {adapter : RosAdapter} {context : HookContext} {event : DeviceEvent}
    (h : Fault context event) (hen : context.enabled = true)
    (hrev : context.latestEventRevision ≠ 0) : adapter.watched context = some event := by
  obtain ⟨he, hn, -⟩ := h
  cases adapter <;> simp [RosAdapter.watched, he, hn, hen, hrev]

theorem path_route (adapter : RosAdapter) {context : HookContext} {event : DeviceEvent}
    (h : route adapter context event ≠ []) :
    Path context.state event.targetState (route adapter context event) := by
  cases adapter with
  | process => exact (path_transitionsTo _ _ _ _).resolve_left h
  | lifecycle => exact (path_lifecycle _ _ _).resolve_left h

theorem fault_earlier {earlier context : HookContext} {event : DeviceEvent}
    (h : Fault context event) (hp : Precedes earlier context)
    (hr : earlier.latestEventRevision = context.latestEventRevision) : Fault earlier event :=
  ⟨(hp.2 hr).trans h.1, h.2⟩

/-- In a run of ticks an event is handled once a tick has seen its target or no path to it. -/
theorem handled_iff (adapter : RosAdapter) {history : List HookContext} {context : HookContext}
    {event : DeviceEvent} (ht : Ticked (history ++ [context])) (hf : Fault context event) :
    alreadyHandled (adapter.after history) context.latestEventRevision = true ↔
      Reached history context.latestEventRevision event ∨
        Stuck adapter history context.latestEventRevision event := by
  have hprec : ∀ earlier ∈ history, Precedes earlier context := fun earlier hm =>
    (List.pairwise_append.mp ht.ordered).2.2 earlier hm context (List.mem_singleton_self _)
  have hwatch : ∀ earlier ∈ history,
      earlier.latestEventRevision = context.latestEventRevision →
      adapter.watched earlier = some event := by
    intro earlier hm hr
    have hfe := fault_earlier hf (hprec earlier hm) hr
    have hmem : earlier ∈ history ++ [context] := List.mem_append_left _ hm
    exact watched_fault hfe (ht.enabled _ hmem) (ht.counted _ hmem (by rw [hfe.1]; simp))
  rw [alreadyHandled_after]
  constructor
  · rintro ⟨earlier, hm, ⟨event', hw, hc⟩, hle⟩
    have hr : earlier.latestEventRevision = context.latestEventRevision :=
      UInt64.le_antisymm (hprec earlier hm).1 hle
    obtain rfl := Option.some.inj (hw.symm.trans (hwatch earlier hm hr))
    exact hc.imp (fun hs => ⟨earlier, hm, hr, hs⟩) fun hs => ⟨earlier, hm, hr, hs⟩
  · rintro (⟨earlier, hm, hr, hs⟩ | ⟨earlier, hm, hr, hs⟩)
    · exact ⟨earlier, hm, ⟨event, hwatch earlier hm hr, Or.inl hs⟩, UInt64.le_of_eq hr.symm⟩
    · exact ⟨earlier, hm, ⟨event, hwatch earlier hm hr, Or.inr hs⟩, UInt64.le_of_eq hr.symm⟩

theorem returns_handled {adapter : RosAdapter} {history : List HookContext} {context : HookContext}
    (h : alreadyHandled (adapter.after history) context.latestEventRevision = true) :
    adapter.registerHook.returns history context = adapter.startup context := by
  rw [returns_eq, hook_handled h]

theorem returns_open {adapter : RosAdapter} {history : List HookContext} {context : HookContext}
    {event : DeviceEvent} (ht : Ticked (history ++ [context])) (hf : Fault context event)
    (hh : alreadyHandled (adapter.after history) context.latestEventRevision = false)
    (hs : context.state ≠ event.targetState) (hr : route adapter context event ≠ []) :
    adapter.registerHook.returns history context = route adapter context event := by
  have hmem : context ∈ history ++ [context] := List.mem_append_right _ (List.mem_singleton_self _)
  have hw : adapter.watched context = some event :=
    watched_fault hf (ht.enabled _ hmem) (ht.counted _ hmem (by rw [hf.1]; simp))
  have hc : ¬ adapter.closes context := by
    rintro ⟨event', hw', hclose⟩
    obtain rfl := Option.some.inj (hw.symm.trans hw')
    exact hclose.elim hs hr
  rw [returns_eq, hook_pending hw hh hc]
  rfl

theorem persists_iff {adapter : RosAdapter} {history : List HookContext} {context : HookContext}
    (ht : Ticked (history ++ [context])) :
    Persists adapter history context ↔ ¬ Lost adapter history context := by
  constructor
  · rintro hp ⟨event, hf, hun, hstuck, hr, hne⟩
    have hreturn := ((hp event hf).1 hun hr).1
    have hhandled := (handled_iff adapter ht hf).mpr (Or.inr hstuck)
    rw [returns_handled hhandled] at hreturn
    exact hne hreturn.symm
  · intro hlost event hf
    have hiff := handled_iff adapter ht hf
    constructor
    · intro hun hr
      have hreturn : adapter.registerHook.returns history context = route adapter context event := by
        cases hh : alreadyHandled (adapter.after history) context.latestEventRevision with
        | true =>
          obtain ⟨earlier, hm, hseen⟩ | hstuck := hiff.mp hh
          · exact (hun ⟨earlier, List.mem_append_left _ hm, hseen⟩).elim
          · rw [returns_handled hh]
            by_contra hne
            exact hlost ⟨event, hf, hun, hstuck, hr, fun he => hne he.symm⟩
        | false =>
          refine returns_open ht hf hh ?_ hr
          intro hs
          exact hun ⟨context, List.mem_append_right _ (List.mem_singleton_self _), rfl, hs⟩
      rw [hreturn]
      exact ⟨rfl, path_route adapter hr⟩
    · intro hseen
      exact returns_handled (hiff.mpr (Or.inl hseen))

theorem ticked_before {contexts history : List HookContext} {context : HookContext}
    (h : Ticked contexts) (hp : history ++ [context] <+: contexts) :
    Ticked (history ++ [context]) :=
  ⟨h.ordered.sublist hp.sublist, fun c hc => h.enabled c (hp.subset hc),
    fun c hc => h.counted c (hp.subset hc)⟩

/-- In every run of ticks the recovery of a fault goes on until its target was seen,
exactly when no tick of the run is one at which it is lost. -/
theorem recovery_persists (adapter : RosAdapter) (contexts : List HookContext)
    (ht : Ticked contexts) :
    (∀ history context, history ++ [context] <+: contexts → Persists adapter history context) ↔
      ∀ history context, history ++ [context] <+: contexts → ¬ Lost adapter history context := by
  constructor
  · intro h history context hp
    exact (persists_iff (ticked_before ht hp)).mp (h history context hp)
  · intro h history context hp
    exact (persists_iff (ticked_before ht hp)).mpr (h history context hp)

def faulted (state : LifecycleState) : HookContext :=
  ⟨state, true, ∅, some ⟨.error, "driver.fault", "", "driver", .unconfigured, ∅⟩, 1⟩

theorem ticked_faulted (states : List LifecycleState) : Ticked (states.map faulted) := by
  refine ⟨?_, by simp [faulted], by simp [faulted]⟩
  rw [List.pairwise_map]
  exact List.pairwise_of_forall fun _ _ => ⟨UInt64.le_refl 1, fun _ => rfl⟩

theorem recovery_persists_twoTicks :
    Ticked ([LifecycleState.active, .inactive].map faulted) ∧
    ∀ history context, history ++ [context] <+: [LifecycleState.active, .inactive].map faulted →
      Persists .lifecycle history context := by
  refine ⟨ticked_faulted _,
    (recovery_persists .lifecycle _ (ticked_faulted [.active, .inactive])).mpr ?_⟩
  rintro history context hp ⟨event, hf, -, ⟨earlier, hm, -, hpath⟩, -⟩
  have hcontext : context ∈ [LifecycleState.active, .inactive].map faulted :=
    hp.subset (List.mem_append_right _ (List.mem_singleton_self _))
  have hearlier : earlier ∈ [LifecycleState.active, .inactive].map faulted :=
    hp.subset (List.mem_append_left _ hm)
  have he : event = ⟨.error, "driver.fault", "", "driver", .unconfigured, ∅⟩ := by
    obtain ⟨state, -, rfl⟩ := List.mem_map.mp hcontext
    exact (Option.some.inj hf.1).symm
  subst he
  simp only [List.map_cons, List.map_nil, List.mem_cons, List.not_mem_nil, or_false] at hearlier
  obtain rfl | rfl := hearlier <;> simp [faulted, RosAdapter.path, lifecycleTransitionsTo] at hpath

/-- A tick during a transition gives the recovery up. -/
theorem recovery_persists_transitional :
    Ticked [faulted .deactivating, faulted .active] ∧
      ¬ Persists .lifecycle [faulted .deactivating] (faulted .active) := by
  refine ⟨ticked_faulted [.deactivating, .active], ?_⟩
  intro h
  obtain ⟨hreturn, -⟩ := (h _ ⟨rfl, rfl, rfl⟩).1 (by simp [Reached, faulted]) (by
    simp [route, faulted, RosAdapter.path, lifecycleTransitionsTo])
  cases hreturn

def delivers (id : String) : Manager.ManagerAction → Bool
  | .event target _ => decide (target = id)
  | _ => false

def eventsOf (id : String) (actions : List Manager.ManagerAction) : Nat :=
  actions.countP (delivers id)

theorem observed_move {m t : Manager.Impl} {action : Manager.ManagerAction}
    (h : ManagerStep.Move m action t) (id : String) :
    (delivers id action = true ∧
      (t.devices id).latestEventRevision = (m.devices id).latestEventRevision + 1) ∨
    (delivers id action = false ∧
      (t.devices id).latestEventRevision = (m.devices id).latestEventRevision ∧
      (t.devices id).latestEvent = (m.devices id).latestEvent) := by
  cases h with
  | event id' event =>
    by_cases hid : id' = id
    · subst hid
      exact Or.inl (by simp [delivers])
    · exact Or.inr (by simp [delivers, hid, Function.update_of_ne (Ne.symm hid)])
  | attach id' | attachThrew _ id' | unknown _ id' | registerThrew _ id' | confirm _ id'
  | drop _ id' | detach _ id' | registrar _ id' | arm _ id' | spawn id' | halt _ id' | join _ id'
  | work id' =>
    by_cases hid : id = id'
    · subst hid
      exact Or.inr (by simp [delivers, Manager.Impl.setQueue])
    · exact Or.inr (by simp [delivers, Manager.Impl.setQueue, hid])
  | push submission =>
    by_cases hid : id = submission.id
    · subst hid
      exact Or.inr (by simp [delivers, Manager.Impl.setQueue])
    · exact Or.inr (by simp [delivers, Manager.Impl.setQueue, hid])
  | _ => exact Or.inr (by simp [delivers])

theorem observed_exec {m t : Manager.Impl} (id : String) (actions : List Manager.ManagerAction)
    (h : exec Manager.Impl.next Manager.anyOrder actions m = some t) :
    (t.devices id).latestEventRevision =
        (m.devices id).latestEventRevision + UInt64.ofNat (eventsOf id actions) ∧
      (eventsOf id actions = 0 → (t.devices id).latestEvent = (m.devices id).latestEvent) := by
  induction actions generalizing m with
  | nil =>
    obtain rfl := Option.some.inj h
    simp [eventsOf]
  | cons action actions ih =>
    have hok : Manager.anyOrder m action := trivial
    rw [exec, if_pos hok] at h
    obtain ⟨u, hn, hu⟩ := Option.bind_eq_some_iff.mp h
    obtain ⟨hrev, hsame⟩ := ih hu
    obtain ⟨hd, hone⟩ | ⟨hd, hone, he⟩ := observed_move (ManagerStep.manager_move hn) id
    · have hcount : eventsOf id (action :: actions) = eventsOf id actions + 1 := by
        simp [eventsOf, hd]
      refine ⟨?_, by omega⟩
      rw [hrev, hone, hcount, UInt64.ofNat_add, UInt64.add_assoc, UInt64.add_comm 1]
      rfl
    · have hcount : eventsOf id (action :: actions) = eventsOf id actions := by
        simp [eventsOf, hd]
      rw [hcount, ← hone, ← he]
      exact ⟨hrev, hsame⟩

/-- The contexts that the core takes from one device are in order: before the counter
wraps around the assumptions of a run of ticks are met. -/
theorem precedes_hookContext {ids : List String} {nodup : ids.Nodup}
    {definition : String → Manager.DeviceDefinition} {m t : Manager.Impl}
    {earlier later : List Manager.ManagerAction} (id : String) (s s' : LifecycleState)
    (hm : exec Manager.Impl.next Manager.anyOrder earlier
      (Manager.Impl.create ids nodup definition) = some m)
    (ht : exec Manager.Impl.next Manager.anyOrder later m = some t)
    (hcount : eventsOf id earlier + eventsOf id later < 2 ^ 64) :
    Precedes ((m.devices id).hookContext s) ((t.devices id).hookContext s') ∧
      (((t.devices id).hookContext s').latestEvent ≠ none →
        ((t.devices id).hookContext s').latestEventRevision ≠ 0) := by
  obtain ⟨hrm, hem⟩ := observed_exec id earlier hm
  obtain ⟨hrt, het⟩ := observed_exec id later ht
  have hzero : ((Manager.Impl.create ids nodup definition).devices id).latestEventRevision = 0 := rfl
  have hnone : ((Manager.Impl.create ids nodup definition).devices id).latestEvent = none := rfl
  rw [hzero, UInt64.zero_add] at hrm
  rw [hrm, ← UInt64.ofNat_add] at hrt
  have hm' : (m.devices id).latestEventRevision.toNat = eventsOf id earlier := by
    rw [hrm, UInt64.toNat_ofNat']
    exact Nat.mod_eq_of_lt (by omega)
  have ht' : (t.devices id).latestEventRevision.toNat =
      eventsOf id earlier + eventsOf id later := by
    rw [hrt, UInt64.toNat_ofNat']
    exact Nat.mod_eq_of_lt hcount
  refine ⟨⟨?_, ?_⟩, ?_⟩
  · show (m.devices id).latestEventRevision ≤ (t.devices id).latestEventRevision
    rw [UInt64.le_iff_toNat_le]
    omega
  · intro he
    have heq := congrArg UInt64.toNat he
    simp only [Manager.Device.hookContext] at heq
    exact (het (by omega)).symm
  · intro he hr
    have heq := congrArg UInt64.toNat hr
    simp only [Manager.Device.hookContext, UInt64.toNat_zero] at heq
    exact he ((het (by omega)).trans ((hem (by omega)).trans hnone))

end DeviceManager.Persistence
