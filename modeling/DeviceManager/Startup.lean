import DeviceManager.Shutdown

namespace DeviceManager.Startup

open Domain WorkerThread Transition Queue QueueStep Manager ManagerStep Posts Shutdown

/-- The last call of `start` or `stop` that returned was a start that threw, and
none is in progress. -/
def Failed (m : Impl) : Prop := m.lifecycle = none ∧ m.returned.head? = some .startFailed

/-- What a start that threw leaves of a device. -/
structure Undone (d : Device) : Prop where
  down : Down d.queue
  handler : d.handler = true → d.clearThrew = true
  hook : d.registerThrew = true → d.hook = none

/-- No call of the runtime or of the thread library throws in `start` or `stop`. -/
def calm (_ : Impl) : ManagerAction → Prop
  | .lifecycle (.threw _) => False
  | _ => True

/-- The owner of the lifecycle mutex takes a step in which nothing throws. -/
def owner (_ : Impl) (action : ManagerAction) : Prop := action = .lifecycle .returned

instance (m : Impl) (action : ManagerAction) : Decidable (calm m action) :=
  match action with
  | .lifecycle (.threw _) => isFalse id
  | .lifecycle .returned | .start | .stop | .register _ | .submit _ | .push | .tick | .ticking _ _
  | .work _ _ | .event _ _ => isTrue trivial

def rank : Starting → Nat
  | .handler => 6
  | .check => 5
  | .register => 4
  | .confirm => 3
  | .queue => 2
  | .spawn => 1
  | .drop => 0

def height : Option Lifecycle → Nat
  | some (.starting point _ rest) => rank point + 6 * rest.length
  | _ => 0

def Climbing : Option Lifecycle → Prop
  | some (.starting .drop _ _) => False
  | some (.starting _ _ _) | some .publishing => True
  | _ => False

/-- The owner can finish the start on its own. -/
def Completes (m : Impl) : Prop :=
  ∃ t, Runs Impl.next owner m t ∧ t.returned = .started :: m.returned ∧ t.running = true

theorem climbing_startFrom (m : Impl) (rest : List String) :
    Climbing (m.startFrom rest).lifecycle := by cases rest <;> trivial

theorem height_startFrom (m : Impl) (rest : List String) :
    height (m.startFrom rest).lifecycle = 6 * rest.length := by
  cases rest with
  | nil => rfl
  | cons id rest =>
    simp only [Impl.startFrom, Impl.at_lifecycle, height, rank, List.length_cons]
    omega

/-- In such a start the next step of the owner is possible. -/
theorem owner_enabled {m : Impl} (hp : Placed m) (hc : Climbing m.lifecycle) :
    ∃ t, m.next (.lifecycle .returned) = some t := by
  apply Option.isSome_iff_exists.mp
  have hseat := hp.seated
  unfold Impl.next Impl.advance
  cases hl : m.lifecycle with
  | none => simp [hl, Climbing] at hc
  | some lifecycle =>
    rw [hl] at hc hseat
    cases lifecycle with
    | exchanging => exact hc.elim
    | stopping point id rest thrown => exact hc.elim
    | publishing =>
      have hr : m.running = false := hseat
      cases hs : m.submission with
      | none => simp [Impl.publish, hs]
      | some held =>
        have hrunning := hp.submission (by simp [hs])
        simp [hr] at hrunning
    | starting point id rest =>
      have hfit := hp.fit id (hseat.2.subset (List.mem_cons_self ..))
      simp only [hl, post, if_true] at hfit
      cases point with
      | drop => exact hc.elim
      | handler | register | confirm => simp [Impl.starting]
      | check => cases hh : (m.devices id).hookRegistered <;> simp [Impl.starting, hh]
      | queue => simp [Impl.starting, Impl.act, Queue.next]
      | spawn =>
        have hw : (m.devices id).queue.worker = .absent := hfit.queue.2
        simp [Impl.starting, Impl.act, Queue.next, hw]

/-- Unless it is the last one, it brings the start nearer to its end. -/
theorem owner_descends {m t : Impl} (hc : Climbing m.lifecycle)
    (hn : m.next (.lifecycle .returned) = some t) :
    (t.returned = .started :: m.returned ∧ t.running = true) ∨
      (Climbing t.lifecycle ∧ t.returned = m.returned ∧
        height t.lifecycle < height m.lifecycle) := by
  generalize ha : ManagerAction.lifecycle .returned = action at hn
  cases manager_move hn with
  | publish => exact Or.inl ⟨rfl, rfl⟩
  | attach _ _ hl | known _ _ _ hl | unknown _ _ _ hl | register _ _ hl | confirm _ _ _ hl
  | arm _ _ _ hl => exact Or.inr ⟨trivial, rfl, by simp [hl, height, rank]⟩
  | armed _ _ rest hl | spawn _ rest hl =>
    refine Or.inr ⟨climbing_startFrom _ _, by simp [Impl.setQueue], ?_⟩
    rw [height_startFrom, hl]
    simp only [height, rank]
    omega
  | exchange _ hl | exchangeAgain _ hl | halt _ _ _ _ hl | halted _ _ _ _ hl
  | unjoinable _ _ _ _ hl | join _ _ _ _ hl | detach _ _ _ _ hl | drop _ _ _ hl =>
    simp [hl, Climbing] at hc
  | _ => cases ha

theorem completes {m : Impl} (hp : Placed m) (hc : Climbing m.lifecycle) : Completes m := by
  induction hn : height m.lifecycle using Nat.strong_induction_on generalizing m with
  | _ n ih =>
    obtain ⟨t, ht⟩ := owner_enabled hp hc
    have hstep : Runs Impl.next owner m t := (Runs.refl m).snoc rfl ht
    obtain ⟨hret, hrun⟩ | ⟨hct, hret, hlt⟩ := owner_descends hc ht
    · exact ⟨t, hstep, hret, hrun⟩
    · obtain ⟨u, hu, hur, hurun⟩ := ih _ (hn ▸ hlt) (placed_step hp ht) hct rfl
      exact ⟨u, hstep.trans hu, hret ▸ hur, hurun⟩

theorem climbing_step {m t : Impl} {action : ManagerAction} (hc : Climbing m.lifecycle)
    (ha : calm m action) (hn : m.next action = some t) :
    (Climbing t.lifecycle ∧ t.returned = m.returned) ∨ t.returned = .started :: m.returned := by
  cases manager_move hn with
  | attachThrew | registerThrew | spawnThrew => exact ha.elim
  | startAgain hl | start hl | stop hl | exchange _ hl | exchangeAgain _ hl | halt _ _ _ _ hl
  | halted _ _ _ _ hl | unjoinable _ _ _ _ hl | join _ _ _ _ hl | detach _ _ _ _ hl
  | drop _ _ _ hl => simp [hl, Climbing] at hc
  | attach | known | unknown | register | confirm | arm => exact Or.inl ⟨trivial, rfl⟩
  | armed | spawn => exact Or.inl ⟨climbing_startFrom _ _, by simp [Impl.setQueue]⟩
  | publish => exact Or.inr rfl
  | _ => exact Or.inl ⟨hc, rfl⟩

theorem returned_step {m t : Impl} {action : ManagerAction} (hn : m.next action = some t) :
    m.returned <:+ t.returned := by
  have hstop : ∀ (u : Impl) (thrown : Bool) (rest : List String), u.returned = m.returned →
      m.returned <:+ (u.stopFrom thrown rest).returned := by
    intro u thrown rest hu
    cases rest with
    | nil => exact hu ▸ List.suffix_cons _ _
    | cons id rest => exact hu ▸ List.suffix_refl _
  cases manager_move hn with
  | attachThrew | drop | spawnThrew | exchange | detach => exact hstop _ _ _ rfl
  | startAgain | publish | exchangeAgain => exact List.suffix_cons _ _
  | start | armed | spawn => simp [Impl.setQueue]
  | _ => exact List.suffix_refl _

theorem start_climbs {m s t : Impl} (hr : m.running = false) (hs : m.next .start = some s)
    (hrun : Runs Impl.next calm s t) :
    (Climbing t.lifecycle ∧ t.returned = m.returned) ∨ .started :: m.returned <:+ t.returned := by
  have hstart : Climbing s.lifecycle ∧ s.returned = m.returned := by
    cases manager_move hs with
    | startAgain _ hrunning => simp [hr] at hrunning
    | start => exact ⟨climbing_startFrom _ _, by simp⟩
  apply hrun.invariant (I := fun t => (Climbing t.lifecycle ∧ t.returned = m.returned) ∨
    .started :: m.returned <:+ t.returned) (Or.inl hstart)
  intro u action v hu ha hn
  obtain ⟨hc, hret⟩ | hsuf := hu
  · obtain ⟨hc', hret'⟩ | hdone := climbing_step hc ha hn
    · exact Or.inl ⟨hc', hret'.trans hret⟩
    · exact Or.inr (by rw [hdone, hret])
  · exact Or.inr (hsuf.trans (returned_step hn))

theorem undone_off {enabled : Bool} {parameters : ParameterMap} {d : Device}
    (hrun : Runs Queue.next free (fresh enabled parameters) d.queue) (hfit : Fit .off d) :
    Undone d := by
  refine ⟨down_idle hrun hfit.queue, hfit.handler, ?_⟩
  intro hthrew
  obtain hreg | hun := hfit.hook
  · simp [hreg.2.1] at hthrew
  · exact hun.2.2

theorem start_all_or_nothing {ids : List String} {nodup : ids.Nodup}
    {definition : String → DeviceDefinition} {m : Impl}
    (hrun : Runs Impl.next anyOrder (Impl.create ids nodup definition) m) :
    (Failed m → m.running = false ∧ (∀ id ∈ m.ids, Undone (m.devices id)) ∧
      ∀ t, Runs Impl.next unstarted m t → Silent m t) ∧
    (m.running = false → ∀ s t, m.next .start = some s → Runs Impl.next calm s t →
      .started :: m.returned <:+ t.returned ∨ (t.returned = m.returned ∧ Completes t)) ∧
    (m.running = true → ∀ id ∈ m.ids, Registered (m.devices id)) := by
  have hp := placed_run hrun
  refine ⟨?_, ?_, ?_⟩
  · rintro ⟨hl, hret⟩
    have hr : m.running = false := by
      have hv := verdict_run hrun
      simp only [Verdict, hl, hret] at hv
      simpa using hv
    refine ⟨hr, ?_, fun t ht => silent_run hp hr hl ht⟩
    intro id hm
    have hfit := hp.fit id hm
    simp only [hl, hr, post] at hfit
    exact undone_off (queue_run hrun id) hfit
  · intro hr s t hs ht
    obtain ⟨hc, hret⟩ | hdone := start_climbs hr hs ht
    · have hpt : Placed t := ht.invariant (placed_step hp hs)
        fun _ _ _ hu _ hn => placed_step hu hn
      exact Or.inr ⟨hret, completes hpt hc⟩
    · exact Or.inl hdone
  · intro hr id hm
    have hfit := (hp.fit id hm).hook
    have hseat := hp.seated
    rw [hr] at hfit hseat
    rwa [post_running hseat] at hfit

/-- `register_hook` throws and so does the call that clears the event handler. -/
def clearThrows : List ManagerAction :=
  [.start, .lifecycle .returned, .lifecycle .returned, .register (some 7),
    .lifecycle (.threw true), .lifecycle .returned, .lifecycle .returned, .lifecycle (.threw true)]

theorem all_or_nothing_clearThrows :
    ∃ m, exec Impl.next anyOrder clearThrows oneDevice = some m ∧ Failed m ∧
      (m.devices "imu").handler = true := ⟨_, rfl, ⟨rfl, rfl⟩, rfl⟩

def twoDevices : Impl := Impl.create ["imu", "lidar"] (by decide) fun _ => ⟨true, ∅⟩

/-- The second device throws after it was given a hook. The first one, whose
worker runs already, is stopped. The next start succeeds. -/
def secondThrows : List ManagerAction :=
  [.start, .lifecycle .returned, .lifecycle .returned, .register (some 7), .lifecycle .returned,
    .lifecycle .returned, .lifecycle .returned, .lifecycle .returned,
    .lifecycle .returned, .lifecycle .returned, .register (some 8), .register (some 9),
    .lifecycle (.threw false), .lifecycle .returned, .lifecycle .returned,
    .work "imu" .go, .work "imu" (.state (.ok .finalized)), .lifecycle .returned,
    .lifecycle .returned, .lifecycle .returned, .lifecycle .returned]

theorem start_all_or_nothing_secondThrows :
    ∃ m, exec Impl.next anyOrder secondThrows twoDevices = some m ∧ Failed m ∧
      (∀ id ∈ m.ids, Undone (m.devices id)) ∧ (m.devices "lidar").registerThrew = true ∧
      ∀ s, m.next .start = some s → Completes s := by
  have hexec : exec Impl.next anyOrder secondThrows twoDevices = some _ := rfl
  obtain ⟨hfail, hstart, -⟩ := start_all_or_nothing (exec_runs secondThrows hexec)
  refine ⟨_, hexec, ⟨rfl, rfl⟩, (hfail ⟨rfl, rfl⟩).2.1, rfl, fun s hs => ?_⟩
  obtain hdone | ⟨-, hcomp⟩ := hstart rfl s s hs (Runs.refl s)
  · obtain rfl := Option.some.inj hs
    exact absurd hdone (by decide)
  · exact hcomp

end DeviceManager.Startup
