import DeviceManager.Lockstep

namespace DeviceManager.Application

open Lockstep

/-- The points of `start` and `stop`. The caller has `lifecycle_mutex_` at all of them; in
`startingManager`, `spawning` and `undoing` it has `mutex_` as well. -/
inductive Point where
  | enterStart | startingManager | spawning | undoing
  | enterStop | stoppingManager | joining
  deriving DecidableEq

/-- The points of `run`: in front of `mutex_`, in `wait_for`, in front of `manager_.tick()`, in it,
and returned. -/
inductive TickThread where
  | absent | locking | waiting | unlocked | ticking | returned
  deriving DecidableEq

/-- `DeviceManagerApplication`. -/
structure App where
  running : Bool
  owner : Option Point
  tickThread : TickThread
  deriving DecidableEq

def App.create : App := ⟨false, none, .absent⟩

/-- What can be seen of a step. `lowered` is `running_ = false` in `stop`. -/
inductive Event where
  | managerStarted | managerStopped | spawned | lowered
  | tickBegins | tickEnds
  | startReturned | startThrew | stopReturned
  deriving DecidableEq

/-- A caller that gets `lifecycle_mutex_`, the next step of the one that has it, where the manager or
the thread library may throw, and the next step of the tick thread, whose wait may time out. -/
inductive Action where
  | start
  | stop
  | proceed (throws : Bool)
  | tick (timedOut : Bool)

def App.at (s : App) (point : Point) : App := { s with owner := some point }

/-- Nobody has `mutex_` between two steps. -/
def App.mutexFree (s : App) : Bool :=
  match s.owner with
  | some .startingManager | some .spawning | some .undoing => false
  | _ => true

def App.leave (s : App) (event : Event) : List Event × App := ([event], { s with owner := none })

/-- The caller that has `lifecycle_mutex_`. Of the manager only `start` throws. -/
def proceed (s : App) (throws : Bool) : List Event × App :=
  match s.owner with
  | none => ([], s)
  | some .enterStart =>
    if s.running then s.leave .startReturned else ([], s.at .startingManager)
  | some .startingManager =>
    if throws then s.leave .startThrew
    else ([.managerStarted], { s with running := true }.at .spawning)
  | some .spawning =>
    if throws then ([], { s with running := false }.at .undoing)
    else ([.spawned, .startReturned], { s with tickThread := .locking, owner := none })
  | some .undoing => ([.managerStopped, .startThrew], { s with owner := none })
  | some .enterStop =>
    if s.running then ([.lowered], { s with running := false }.at .stoppingManager)
    else s.leave .stopReturned
  | some .stoppingManager => ([.managerStopped], s.at .joining)
  | some .joining =>
    match s.tickThread with
    | .returned => ([.stopReturned], { s with tickThread := .absent, owner := none })
    | .absent => s.leave .stopReturned
    | _ => ([], s)

/-- `run`. A notification that finds `running_` set is as good as none. -/
def tick (s : App) (timedOut : Bool) : List Event × App :=
  match s.tickThread with
  | .absent | .returned => ([], s)
  | .locking =>
    if !s.mutexFree then ([], s)
    else ([], { s with tickThread := if s.running then .waiting else .returned })
  | .waiting =>
    if !s.mutexFree then ([], s)
    else if !s.running then ([], { s with tickThread := .returned })
    else ([], { s with tickThread := if timedOut then .unlocked else .waiting })
  | .unlocked => ([.tickBegins], { s with tickThread := .ticking })
  | .ticking => ([.tickEnds], { s with tickThread := .locking })

def step (s : App) : Action → List Event × App
  | .start => if s.owner.isSome then ([], s) else ([], s.at .enterStart)
  | .stop => if s.owner.isSome then ([], s) else ([], s.at .enterStop)
  | .proceed throws => proceed s throws
  | .tick timedOut => tick s timedOut

inductive Wish where
  | unasked | asked | outrun
  deriving DecidableEq

structure Service where
  managed : Bool
  threaded : Bool
  ticking : Bool
  wish : Wish
  deriving DecidableEq

def Service.create : Service := ⟨false, false, false, .unasked⟩

/-- The events that a user may see next: the manager is started and stopped in turn, one thread at
a time is made and only for a manager that runs, ticks do not overlap and belong to a thread, at
most one of them begins behind the wish to stop, and when `stop` returns there is neither thread nor
tick and the manager is stopped. -/
def Service.next (m : Service) : Event → Option Service
  | .managerStarted => if m.managed || m.threaded then none else some { m with managed := true }
  | .managerStopped => if m.managed then some { m with managed := false } else none
  | .spawned => if m.threaded || !m.managed then none else some { m with threaded := true }
  | .lowered =>
    if m.threaded && m.managed && m.wish = .unasked then some { m with wish := .asked } else none
  | .tickBegins =>
    if !m.threaded || m.ticking then none
    else
      match m.wish with
      | .unasked => some { m with ticking := true }
      | .asked => some { m with ticking := true, wish := .outrun }
      | .outrun => none
  | .tickEnds => if m.ticking then some { m with ticking := false } else none
  | .startReturned => if m.threaded && m.managed && m.wish = .unasked then some m else none
  | .startThrew => if m.threaded || m.managed then none else some m
  | .stopReturned =>
    if m.ticking || m.managed then none else some { m with threaded := false, wish := .unasked }

def App.managed (s : App) : Bool :=
  match s.owner with
  | some .startingManager | some .joining => false
  | some .spawning | some .undoing | some .stoppingManager => true
  | _ => s.running

def App.view (s : App) (wish : Wish) : Service :=
  ⟨s.managed, decide (s.tickThread ≠ .absent), decide (s.tickThread = .ticking), wish⟩

/-- Whether there is a thread follows from the point of the caller. -/
def Placed (s : App) : Prop :=
  match s.owner with
  | some .startingManager | some .undoing => s.running = false ∧ s.tickThread = .absent
  | some .spawning => s.running = true ∧ s.tickThread = .absent
  | some .stoppingManager | some .joining => s.running = false ∧ s.tickThread ≠ .absent
  | _ => s.running = true ↔ s.tickThread ≠ .absent

def Timed (s : App) : Wish → Prop
  | .unasked => s.tickThread = .absent ∨ s.running = true ∧ s.tickThread ≠ .returned
  | .asked => s.running = false ∧ s.tickThread ≠ .absent
  | .outrun => s.running = false ∧
    (s.tickThread = .ticking ∨ s.tickThread = .locking ∨ s.tickThread = .returned)

def follow (m : Service) (events : List Event) : Option Service := events.foldlM Service.next m

def Explained (s : App) (wish : Wish) (result : List Event × App) : Prop :=
  ∃ wish', follow (s.view wish) result.1 = some (result.2.view wish') ∧
    Placed result.2 ∧ Timed result.2 wish'

theorem explained_idle {s : App} {wish : Wish} (hplaced : Placed s)
    (htimed : Timed s wish) : Explained s wish ([], s) := ⟨wish, rfl, hplaced, htimed⟩

theorem timed_absent {s : App} {wish : Wish} (h : s.tickThread = .absent)
    (htimed : Timed s wish) : wish = .unasked := by
  cases wish with
  | unasked => rfl
  | asked => exact absurd h htimed.2
  | outrun =>
    rcases htimed.2 with hthread | hthread | hthread
    all_goals
      rw [h] at hthread
      cases hthread

theorem timed_running {s : App} {wish : Wish} (h : s.running = true)
    (htimed : Timed s wish) : wish = .unasked := by
  cases wish with
  | unasked => rfl
  | asked => exact absurd (h.symm.trans htimed.1) (by decide)
  | outrun => exact absurd (h.symm.trans htimed.1) (by decide)

theorem placed_down : Placed ⟨false, none, .absent⟩ :=
  ⟨fun h => absurd h Bool.false_ne_true, fun h => absurd rfl h⟩

theorem placed_up : Placed ⟨true, none, .locking⟩ := ⟨fun _ => by decide, fun _ => rfl⟩

theorem explained_proceed {s : App} {wish : Wish} (hplaced : Placed s)
    (htimed : Timed s wish) (throws : Bool) : Explained s wish (proceed s throws) := by
  obtain ⟨running, owner, thread⟩ := s
  cases owner with
  | none => exact explained_idle hplaced htimed
  | some point =>
    cases point with
    | enterStart =>
      cases running with
      | true =>
        have hthread : thread ≠ .absent := hplaced.mp rfl
        obtain rfl := timed_running rfl htimed
        refine ⟨.unasked, ?_, hplaced, htimed⟩
        simp [proceed, App.leave, follow, Service.next, App.view, App.managed, hthread]
      | false =>
        obtain rfl : thread = .absent := by
          by_contra hthread
          exact absurd (hplaced.mpr hthread) Bool.false_ne_true
        obtain rfl := timed_absent rfl htimed
        exact ⟨.unasked, rfl, ⟨rfl, rfl⟩, Or.inl rfl⟩
    | startingManager =>
      obtain ⟨rfl, rfl⟩ := hplaced
      obtain rfl := timed_absent rfl htimed
      cases throws with
      | true => exact ⟨.unasked, rfl, placed_down, Or.inl rfl⟩
      | false => exact ⟨.unasked, rfl, ⟨rfl, rfl⟩, Or.inl rfl⟩
    | spawning =>
      obtain ⟨rfl, rfl⟩ := hplaced
      obtain rfl := timed_absent rfl htimed
      cases throws with
      | true => exact ⟨.unasked, rfl, ⟨rfl, rfl⟩, Or.inl rfl⟩
      | false => exact ⟨.unasked, rfl, placed_up, Or.inr ⟨rfl, by decide⟩⟩
    | undoing =>
      obtain ⟨rfl, rfl⟩ := hplaced
      obtain rfl := timed_absent rfl htimed
      exact ⟨.unasked, rfl, placed_down, Or.inl rfl⟩
    | enterStop =>
      cases running with
      | true =>
        have hthread : thread ≠ .absent := hplaced.mp rfl
        obtain rfl := timed_running rfl htimed
        refine ⟨.asked, ?_, ⟨rfl, hthread⟩, ⟨rfl, hthread⟩⟩
        simp [proceed, App.at, follow, Service.next, App.view, App.managed, hthread]
      | false =>
        obtain rfl : thread = .absent := by
          by_contra hthread
          exact absurd (hplaced.mpr hthread) Bool.false_ne_true
        obtain rfl := timed_absent rfl htimed
        exact ⟨.unasked, rfl, hplaced, Or.inl rfl⟩
    | stoppingManager => exact ⟨wish, rfl, hplaced, htimed⟩
    | joining =>
      obtain ⟨rfl, hthread⟩ := hplaced
      cases thread with
      | absent => exact absurd rfl hthread
      | returned => exact ⟨.unasked, rfl, placed_down, Or.inl rfl⟩
      | locking => exact explained_idle ⟨rfl, hthread⟩ htimed
      | waiting => exact explained_idle ⟨rfl, hthread⟩ htimed
      | unlocked => exact explained_idle ⟨rfl, hthread⟩ htimed
      | ticking => exact explained_idle ⟨rfl, hthread⟩ htimed

section

variable {running : Bool} {owner : Option Point} {thread next : TickThread} {wish : Wish}

/-- A thread that is there stays there. -/
theorem placed_move (hplaced : Placed ⟨running, owner, thread⟩) (hthread : thread ≠ .absent)
    (hnext : next ≠ .absent) : Placed ⟨running, owner, next⟩ := by
  cases owner with
  | none => exact ⟨fun _ => hnext, fun _ => hplaced.mpr hthread⟩
  | some point =>
    cases point with
    | enterStart => exact ⟨fun _ => hnext, fun _ => hplaced.mpr hthread⟩
    | enterStop => exact ⟨fun _ => hnext, fun _ => hplaced.mpr hthread⟩
    | startingManager => exact absurd hplaced.2 hthread
    | spawning => exact absurd hplaced.2 hthread
    | undoing => exact absurd hplaced.2 hthread
    | stoppingManager => exact ⟨hplaced.1, hnext⟩
    | joining => exact ⟨hplaced.1, hnext⟩

/-- Who has `mutex_` over several steps has no thread beside it. -/
theorem mutexFree_of_thread (hplaced : Placed ⟨running, owner, thread⟩)
    (hthread : thread ≠ .absent) : App.mutexFree ⟨running, owner, thread⟩ = true := by
  cases owner with
  | none => rfl
  | some point =>
    cases point with
    | startingManager => exact absurd hplaced.2 hthread
    | spawning => exact absurd hplaced.2 hthread
    | undoing => exact absurd hplaced.2 hthread
    | enterStart => rfl
    | enterStop => rfl
    | stoppingManager => rfl
    | joining => rfl

theorem running_of_unasked (htimed : Timed ⟨running, owner, thread⟩ .unasked)
    (hthread : thread ≠ .absent) : running = true := (htimed.resolve_left hthread).1

theorem explained_move (hplaced : Placed ⟨running, owner, thread⟩) (hthread : thread ≠ .absent)
    (hidle : thread ≠ .ticking) (hnext : next ≠ .absent) (hquiet : next ≠ .ticking)
    (htimed : Timed ⟨running, owner, next⟩ wish) :
    Explained ⟨running, owner, thread⟩ wish ([], ⟨running, owner, next⟩) := by
  refine ⟨wish, ?_, placed_move hplaced hthread hnext, htimed⟩
  have hview : App.view ⟨running, owner, thread⟩ wish = App.view ⟨running, owner, next⟩ wish := by
    simp [App.view, App.managed, hthread, hidle, hnext, hquiet]
  rw [hview]
  rfl

/-- On its way out the thread is behind the wish to stop. -/
theorem timed_returned (htimed : Timed ⟨false, owner, thread⟩ wish) (hthread : thread ≠ .absent) :
    Timed ⟨false, owner, .returned⟩ wish := by
  cases wish with
  | unasked => cases running_of_unasked htimed hthread
  | asked => exact ⟨rfl, fun h => by cases h⟩
  | outrun => exact ⟨rfl, Or.inr (Or.inr rfl)⟩

/-- The thread looks at `running_`: it goes on or returns. -/
theorem explained_look (hplaced : Placed ⟨running, owner, thread⟩)
    (htimed : Timed ⟨running, owner, thread⟩ wish) (hthread : thread ≠ .absent)
    (hidle : thread ≠ .ticking) (hnext : next ≠ .absent) (hquiet : next ≠ .ticking)
    (hgoes : next ≠ .returned) :
    Explained ⟨running, owner, thread⟩ wish
      ([], ⟨running, owner, if running then next else .returned⟩) := by
  cases running with
  | true =>
    obtain rfl := timed_running rfl htimed
    exact explained_move hplaced hthread hidle hnext hquiet (Or.inr ⟨rfl, hgoes⟩)
  | false =>
    have hleave : Explained ⟨false, owner, thread⟩ wish ([], ⟨false, owner, .returned⟩) :=
      explained_move hplaced hthread hidle (by decide) (by decide) (timed_returned htimed hthread)
    exact hleave

theorem explained_begins (hplaced : Placed ⟨running, owner, .unlocked⟩)
    (htimed : Timed ⟨running, owner, .unlocked⟩ wish) :
    Explained ⟨running, owner, .unlocked⟩ wish ([.tickBegins], ⟨running, owner, .ticking⟩) := by
  have hmove : Placed ⟨running, owner, .ticking⟩ := placed_move hplaced (by decide) (by decide)
  cases wish with
  | unasked =>
    have hrunning := running_of_unasked htimed (by decide)
    exact ⟨.unasked, rfl, hmove, Or.inr ⟨hrunning, fun h => by cases h⟩⟩
  | asked => exact ⟨.outrun, rfl, hmove, htimed.1, Or.inl rfl⟩
  | outrun => rcases htimed.2 with h | h | h <;> cases h

theorem explained_ends (hplaced : Placed ⟨running, owner, .ticking⟩)
    (htimed : Timed ⟨running, owner, .ticking⟩ wish) :
    Explained ⟨running, owner, .ticking⟩ wish ([.tickEnds], ⟨running, owner, .locking⟩) := by
  have hmove : Placed ⟨running, owner, .locking⟩ := placed_move hplaced (by decide) (by decide)
  refine ⟨wish, rfl, hmove, ?_⟩
  cases wish with
  | unasked =>
    have hrunning := running_of_unasked htimed (by decide)
    exact Or.inr ⟨hrunning, fun h => by cases h⟩
  | asked => exact ⟨htimed.1, fun h => by cases h⟩
  | outrun => exact ⟨htimed.1, Or.inr (Or.inl rfl)⟩

end

theorem explained_tick {s : App} {wish : Wish} (hplaced : Placed s) (htimed : Timed s wish)
    (timedOut : Bool) : Explained s wish (tick s timedOut) := by
  obtain ⟨running, owner, thread⟩ := s
  cases thread with
  | absent => exact explained_idle hplaced htimed
  | returned => exact explained_idle hplaced htimed
  | unlocked => exact explained_begins hplaced htimed
  | ticking => exact explained_ends hplaced htimed
  | locking =>
    have hfree := mutexFree_of_thread hplaced (by decide)
    have hlook : Explained ⟨running, owner, .locking⟩ wish
        ([], ⟨running, owner, if running then .waiting else .returned⟩) :=
      explained_look hplaced htimed (by decide) (by decide) (by decide) (by decide) (by decide)
    simp only [tick, hfree, Bool.not_true, Bool.false_eq_true, if_false]
    exact hlook
  | waiting =>
    have hfree := mutexFree_of_thread hplaced (by decide)
    have hlook : Explained ⟨running, owner, .waiting⟩ wish
        ([], ⟨running, owner, if running then (if timedOut then .unlocked else .waiting)
          else .returned⟩) := by
      cases timedOut with
      | true =>
        exact explained_look hplaced htimed (by decide) (by decide) (by decide) (by decide)
          (by decide)
      | false =>
        exact explained_look hplaced htimed (by decide) (by decide) (by decide) (by decide)
          (by decide)
    simp only [tick, hfree, Bool.not_true, Bool.false_eq_true, if_false]
    cases running with
    | true => exact hlook
    | false => exact hlook

theorem explained_step {s : App} {wish : Wish} (hplaced : Placed s) (htimed : Timed s wish)
    (a : Action) : Explained s wish (step s a) := by
  cases a with
  | start =>
    obtain ⟨running, owner, thread⟩ := s
    cases owner with
    | none => exact ⟨wish, rfl, hplaced, htimed⟩
    | some point => exact explained_idle hplaced htimed
  | stop =>
    obtain ⟨running, owner, thread⟩ := s
    cases owner with
    | none => exact ⟨wish, rfl, hplaced, htimed⟩
    | some point => exact explained_idle hplaced htimed
  | proceed throws => exact explained_proceed hplaced htimed throws
  | tick timedOut => exact explained_tick hplaced htimed timedOut

theorem follow_run (actions : List Action) :
    ∃ wish, follow .create (play step .create actions).1 =
        some ((play step .create actions).2.view wish) ∧
      Placed (play step .create actions).2 ∧ Timed (play step .create actions).2 wish := by
  induction actions using List.reverseRecOn with
  | nil => exact ⟨.unasked, rfl, placed_down, Or.inl rfl⟩
  | append_singleton actions a ih =>
    obtain ⟨wish, hfollow, hplaced, htimed⟩ := ih
    obtain ⟨wish', hnext, hplaced', htimed'⟩ := explained_step hplaced htimed a
    refine ⟨wish', ?_, ?_, ?_⟩
    · rw [play_append, play_cons, play_nil, List.append_nil, follow, List.foldlM_append]
      unfold follow at hfollow hnext
      rw [hfollow]
      exact hnext
    · rw [play_snoc]
      exact hplaced'
    · rw [play_snoc]
      exact htimed'

def drain : TickThread → List Action
  | .absent | .returned => []
  | .locking | .waiting => [.tick true]
  | .unlocked => [.tick true, .tick true, .tick true]
  | .ticking => [.tick true, .tick true]

def finish (s : App) : List Action :=
  match s.owner with
  | none => []
  | some .enterStart =>
    if s.running then [.proceed false] else [.proceed false, .proceed false, .proceed false]
  | some .startingManager => [.proceed false, .proceed false]
  | some .spawning | some .undoing => [.proceed false]
  | some .enterStop =>
    if s.running then [.proceed false, .proceed false] ++ drain s.tickThread ++ [.proceed false]
    else [.proceed false]
  | some .stoppingManager => [.proceed false] ++ drain s.tickThread ++ [.proceed false]
  | some .joining => drain s.tickThread ++ [.proceed false]

theorem owner_finish {s : App} (hplaced : Placed s) :
    (play step s (finish s)).2.owner = none := by
  obtain ⟨running, owner, thread⟩ := s
  cases owner with
  | none => rfl
  | some point =>
    cases point with
    | enterStart => cases running <;> rfl
    | startingManager => rfl
    | spawning => rfl
    | undoing => rfl
    | enterStop =>
      cases running with
      | true => cases thread <;> rfl
      | false => rfl
    | stoppingManager =>
      obtain ⟨rfl, -⟩ := hplaced
      cases thread <;> rfl
    | joining =>
      obtain ⟨rfl, -⟩ := hplaced
      cases thread <;> rfl

theorem finish_bounds (s : App) : (finish s).length ≤ 6 ∧
    ∀ a ∈ finish s, a = .proceed false ∨ a = .tick true := by
  obtain ⟨running, owner, thread⟩ := s
  cases owner with
  | none => simp [finish]
  | some point =>
    cases point with
    | enterStart => cases running <;> simp [finish]
    | startingManager => simp [finish]
    | spawning => simp [finish]
    | undoing => simp [finish]
    | enterStop =>
      cases running with
      | true => cases thread <;> simp [finish, drain]
      | false => simp [finish]
    | stoppingManager => cases thread <;> simp [finish, drain]
    | joining => cases thread <;> simp [finish, drain]

/-- No call waits for ever: whatever has happened, six steps of its own and of the tick thread are
enough for the call that has `lifecycle_mutex_` to return. -/
theorem returns_run (actions : List Action) : ∃ more : List Action, more.length ≤ 6 ∧
    (∀ a ∈ more, a = .proceed false ∨ a = .tick true) ∧
      (play step .create (actions ++ more)).2.owner = none := by
  obtain ⟨-, -, hplaced, -⟩ := follow_run actions
  obtain ⟨hlength, hmore⟩ := finish_bounds (play step .create actions).2
  refine ⟨finish (play step .create actions).2, hlength, hmore, ?_⟩
  rw [play_append]
  exact owner_finish hplaced

end DeviceManager.Application
