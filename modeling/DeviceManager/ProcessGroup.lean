import Mathlib.Logic.Function.Basic
import DeviceManager.ProcessAdapter
import DeviceManager.Transition

namespace DeviceManager.ProcessGroup

open Domain RuntimeBase ParameterText ProcessAdapter Transition

inductive Leader where
  | running
  | zombie (status : ℤ)
  | gone
  deriving DecidableEq

/-- The members of a process group: its leader, its other members, and those of them that
have exited and wait for the adapter, their subreaper. -/
structure Group where
  leader : Leader
  others : ℕ
  zombies : ℕ
  deriving DecidableEq

def Group.none : Group := ⟨.gone, 0, 0⟩

/-- `waitpid(-group, &status, WNOHANG)` until there is nothing to wait for. -/
def Group.reap (g : Group) : Group :=
  ⟨if g.leader = .running then .running else .gone, g.others, 0⟩

/-- The two halves of `stop_process_locked`. -/
inductive Phase where
  | terminate | kill

def Phase.failure : Phase → String → StopFailure
  | .terminate => .terminate
  | .kill => .kill

inductive Point where
  | idle
  | entering (call : Call)
  | reaping (call : Call) (status : ℤ) (gone : Bool)
  | proceeding (call : Call)
  | signalling (call : Call) (phase : Phase)
  | waiting (call : Call) (phase : Phase)
  | starting (call : Call) (parameters : ParameterMap)
  | spawning (call : Call) (parameters : ParameterMap) (arguments : List String)

/-- What the log of a run keeps: a started child, a `kill(-pid, 0)` that reported ESRCH,
a reset of `child_pid_`, and a call that returned. -/
inductive Entry where
  | spawned (pid : ℤ)
  | gone (pid : ℤ)
  | forgot (pid : ℤ)
  | returned (before : Adapter) (call : Call) (after : Adapter) (answer : Answer)
      (event : Option DeviceEvent)

/-- The adapter, the process groups, and the call that holds the state mutex, with the
adapter that it found and the event that it has emitted. -/
structure State where
  adapter : Adapter
  groups : ℤ → Group
  point : Point
  before : Adapter
  event : Option DeviceEvent
  log : List Entry

def initial (process : ProcessSpec) : State where
  adapter := Adapter.initial process
  groups _ := Group.none
  point := .idle
  before := Adapter.initial process
  event := none
  log := []

/-- A call, a step of it with the answer of the system, or a step of a process group. -/
inductive Action where
  | call (call : Call)
  | go
  | probe (elapsed : Bool)
  | deadline
  | signal (errno : Option String)
  | spawn (result : Except String ℤ)
  | exit (pid status : ℤ)
  | fork (pid : ℤ)
  | orphan (pid : ℤ)
  | leave (pid : ℤ)

def State.setGroup (s : State) (pid : ℤ) (group : Group) : State :=
  { s with groups := Function.update s.groups pid group }

@[simp] theorem setGroup_same (s : State) (pid : ℤ) (group : Group) :
    (s.setGroup pid group).groups pid = group := Function.update_self ..

theorem setGroup_other (s : State) {p pid : ℤ} (h : p ≠ pid) (group : Group) :
    (s.setGroup pid group).groups p = s.groups p := Function.update_of_ne h ..

def State.group (s : State) : Group := s.groups s.adapter.childPid

def State.enter (s : State) (point : Point) : State := { s with point := point }

def State.record (s : State) (entry : Entry) : State := { s with log := entry :: s.log }

def State.returns (s : State) (call : Call) (result : Adapter × Answer) : State :=
  { s with
    adapter := result.1
    point := .idle
    log := .returned s.before call result.1 result.2 s.event :: s.log }

/-- `child_pid_ = -1; emit_process_exited_event(status);` -/
def State.forget (s : State) (call : Call) (status : ℤ) : State :=
  { s with
    adapter := s.adapter.forget
    event := some (processExited status)
    point := .proceeding call
    log := .forgot s.adapter.childPid :: s.log }

/-- A call behind a `stop_process_locked` that leaves this adapter. -/
def State.afterStop (s : State) (call : Call) (adapter : Adapter) : State :=
  match call.restarts with
  | some parameters => { s with adapter := adapter, point := .starting call parameters }
  | none => s.returns call (adapter.afterStop call)

/-- What a round of a loop waits for, before it asks for the members of the group. -/
def State.reaped (s : State) : State := s.setGroup s.adapter.childPid s.group.reap

/-- A round of the loop of `reap_child_locked`: 100 ms after the first of an unbroken row of
rounds without a member it breaks. -/
def State.probeReap (s : State) (call : Call) (status : ℤ) (gone elapsed : Bool) : State :=
  if s.group.reap = Group.none then
    if gone && elapsed then
      (s.reaped.record (.gone s.adapter.childPid)).forget call status
    else (s.reaped.record (.gone s.adapter.childPid)).enter (.reaping call status true)
  else s.reaped.enter (.reaping call status false)

/-- A round of a loop of `stop_process_locked`. -/
def State.probeStop (s : State) (call : Call) : State :=
  if s.group.reap = Group.none then
    ((s.reaped.record (.gone s.adapter.childPid)).record (.forgot s.adapter.childPid)).afterStop
      call s.adapter.stopped
  else s.reaped

def State.go (yaml : DoubleQuoted) (s : State) : Option State :=
  match s.point with
  | .entering call =>
    if s.adapter.childPid ≤ 0 then some (s.enter (.proceeding call))
    else match s.group.leader with
      | .zombie status => some
          ((s.setGroup s.adapter.childPid { s.group with leader := .gone }).enter
            (.reaping call status false))
      | _ => some (s.enter (.proceeding call))
  | .proceeding call =>
    match s.adapter.proceed call with
    | .returns adapter answer => some (s.returns call (adapter, answer))
    | .starts parameters => some (s.enter (.starting call parameters))
    | .stops =>
      if s.adapter.childPid ≤ 0 then some (s.afterStop call (s.adapter.become .finalized))
      else some (s.enter (.signalling call .terminate))
  | .starting call parameters =>
    match childParameters s.adapter.process parameters with
    | .error outcome => some (s.returns call (s.adapter, .outcome outcome))
    | .ok child => some
        (s.enter (.spawning call parameters (arguments yaml s.adapter.process child)))
  | _ => none

def State.next (yaml : DoubleQuoted) (s : State) : Action → Option State
  | .call call =>
    match s.point with
    | .idle => some { s with
        point := if call.reaps then .entering call else .proceeding call
        before := s.adapter
        event := none }
    | _ => none
  | .go => s.go yaml
  | .probe elapsed =>
    match s.point with
    | .reaping call status gone => some (s.probeReap call status gone elapsed)
    | .waiting call _ => some (s.probeStop call)
    | _ => none
  | .deadline =>
    match s.point with
    | .reaping call status _ => some (s.forget call status)
    | .waiting call .terminate => some (s.enter (.signalling call .kill))
    | .waiting call .kill => some (s.returns call (s.adapter, .outcome StopFailure.timeout.outcome))
    | _ => none
  | .signal errno =>
    match s.point, errno with
    | .signalling call phase, none => some (s.enter (.waiting call phase))
    | .signalling call phase, some errno =>
      some (s.returns call (s.adapter, .outcome (phase.failure errno).outcome))
    | _, _ => none
  | .spawn result =>
    match s.point, result with
    | .spawning call _ _, .error errno =>
      some (s.returns call (s.adapter, .outcome (spawnFailure errno)))
    | .spawning call parameters _, .ok pid =>
      if 0 < pid ∧ s.groups pid = Group.none then
        some (((s.setGroup pid ⟨.running, 0, 0⟩).record (.spawned pid)).returns call
          ((s.adapter.started pid parameters).afterStart call))
      else none
    | _, _ => none
  | .exit pid status =>
    if (s.groups pid).leader = .running then
      some (s.setGroup pid { s.groups pid with leader := .zombie status })
    else none
  | .fork pid =>
    if (s.groups pid).leader = .running ∨ 0 < (s.groups pid).others then
      some (s.setGroup pid { s.groups pid with others := (s.groups pid).others + 1 })
    else none
  | .orphan pid =>
    if 0 < (s.groups pid).others then
      some (s.setGroup pid { s.groups pid with
        others := (s.groups pid).others - 1, zombies := (s.groups pid).zombies + 1 })
    else none
  | .leave pid =>
    if 0 < (s.groups pid).others then
      some (s.setGroup pid { s.groups pid with others := (s.groups pid).others - 1 })
    else none

inductive Move (yaml : DoubleQuoted) (s : State) : Action → State → Prop
  | call (call : Call) (hp : s.point = .idle) :
    Move yaml s (.call call) { s with
      point := if call.reaps then .entering call else .proceeding call
      before := s.adapter
      event := none }
  | alive (call : Call) (hp : s.point = .entering call) :
    Move yaml s .go (s.enter (.proceeding call))
  | exited (call : Call) (status : ℤ) (hp : s.point = .entering call)
      (hpid : 0 < s.adapter.childPid) :
    Move yaml s .go ((s.setGroup s.adapter.childPid { s.group with leader := .gone }).enter
      (.reaping call status false))
  | answers (call : Call) (adapter : Adapter) (answer : Answer) (hp : s.point = .proceeding call)
      (hn : s.adapter.proceed call = .returns adapter answer) :
    Move yaml s .go (s.returns call (adapter, answer))
  | starts (call : Call) (parameters : ParameterMap) (hp : s.point = .proceeding call)
      (hn : s.adapter.proceed call = .starts parameters) :
    Move yaml s .go (s.enter (.starting call parameters))
  | idleStop (call : Call) (hp : s.point = .proceeding call)
      (hn : s.adapter.proceed call = .stops) (hpid : s.adapter.childPid ≤ 0) :
    Move yaml s .go (s.afterStop call (s.adapter.become .finalized))
  | stops (call : Call) (hp : s.point = .proceeding call)
      (hn : s.adapter.proceed call = .stops) (hpid : 0 < s.adapter.childPid) :
    Move yaml s .go (s.enter (.signalling call .terminate))
  | missing (call : Call) (parameters : ParameterMap) (outcome : TransitionOutcome)
      (hp : s.point = .starting call parameters)
      (hc : childParameters s.adapter.process parameters = .error outcome) :
    Move yaml s .go (s.returns call (s.adapter, .outcome outcome))
  | launches (call : Call) (parameters child : ParameterMap)
      (hp : s.point = .starting call parameters)
      (hc : childParameters s.adapter.process parameters = .ok child) :
    Move yaml s .go (s.enter
      (.spawning call parameters (arguments yaml s.adapter.process child)))
  | probeReap (call : Call) (status : ℤ) (gone elapsed : Bool)
      (hp : s.point = .reaping call status gone) :
    Move yaml s (.probe elapsed) (s.probeReap call status gone elapsed)
  | probeStop (call : Call) (phase : Phase) (elapsed : Bool) (hp : s.point = .waiting call phase) :
    Move yaml s (.probe elapsed) (s.probeStop call)
  | giveUp (call : Call) (status : ℤ) (gone : Bool) (hp : s.point = .reaping call status gone) :
    Move yaml s .deadline (s.forget call status)
  | overdue (call : Call) (hp : s.point = .waiting call .terminate) :
    Move yaml s .deadline (s.enter (.signalling call .kill))
  | timeout (call : Call) (hp : s.point = .waiting call .kill) :
    Move yaml s .deadline (s.returns call (s.adapter, .outcome StopFailure.timeout.outcome))
  | signalled (call : Call) (phase : Phase) (hp : s.point = .signalling call phase) :
    Move yaml s (.signal none) (s.enter (.waiting call phase))
  | refused (call : Call) (phase : Phase) (errno : String) (hp : s.point = .signalling call phase) :
    Move yaml s (.signal (some errno))
      (s.returns call (s.adapter, .outcome (phase.failure errno).outcome))
  | spawnFailed (call : Call) (parameters : ParameterMap) (arguments : List String)
      (errno : String) (hp : s.point = .spawning call parameters arguments) :
    Move yaml s (.spawn (.error errno))
      (s.returns call (s.adapter, .outcome (spawnFailure errno)))
  | spawned (call : Call) (parameters : ParameterMap) (arguments : List String) (pid : ℤ)
      (hp : s.point = .spawning call parameters arguments) (hpid : 0 < pid)
      (hg : s.groups pid = Group.none) :
    Move yaml s (.spawn (.ok pid))
      (((s.setGroup pid ⟨.running, 0, 0⟩).record (.spawned pid)).returns call
        ((s.adapter.started pid parameters).afterStart call))
  | group (action : Action) (pid : ℤ) (group : Group) (hg : s.groups pid ≠ Group.none)
      (hd : action ≠ .deadline) : Move yaml s action (s.setGroup pid group)

theorem ne_none {g : Group} (h : g.leader = .running ∨ 0 < g.others) : g ≠ Group.none := by
  rintro rfl
  obtain h | h := h
  · cases h
  · cases h

theorem go_move {yaml : DoubleQuoted} {s t : State} (h : s.go yaml = some t) :
    Move yaml s .go t := by
  cases hp : s.point with
  | entering call =>
    simp only [State.go, hp] at h
    split at h
    · exact Option.some.inj h ▸ Move.alive call hp
    · next hpid =>
      split at h
      · next status _ =>
        exact Option.some.inj h ▸ Move.exited call status hp (by omega)
      · exact Option.some.inj h ▸ Move.alive call hp
  | proceeding call =>
    simp only [State.go, hp] at h
    split at h
    · next adapter answer hn => exact Option.some.inj h ▸ Move.answers call adapter answer hp hn
    · next parameters hn => exact Option.some.inj h ▸ Move.starts call parameters hp hn
    · next hn =>
      split at h
      · next hpid => exact Option.some.inj h ▸ Move.idleStop call hp hn hpid
      · next hpid => exact Option.some.inj h ▸ Move.stops call hp hn (by omega)
  | starting call parameters =>
    simp only [State.go, hp] at h
    split at h
    · next outcome hc => exact Option.some.inj h ▸ Move.missing call parameters outcome hp hc
    · next child hc => exact Option.some.inj h ▸ Move.launches call parameters child hp hc
  | _ => simp [State.go, hp] at h

theorem state_move {yaml : DoubleQuoted} {s t : State} {action : Action}
    (h : s.next yaml action = some t) : Move yaml s action t := by
  cases action with
  | call call =>
    simp only [State.next] at h
    split at h
    · next hp => exact Option.some.inj h ▸ Move.call call hp
    · cases h
  | go => exact go_move h
  | probe elapsed =>
    simp only [State.next] at h
    split at h
    · next call status gone hp =>
      exact Option.some.inj h ▸ Move.probeReap call status gone elapsed hp
    · next call phase hp => exact Option.some.inj h ▸ Move.probeStop call phase elapsed hp
    · cases h
  | deadline =>
    simp only [State.next] at h
    split at h
    · next call status gone hp => exact Option.some.inj h ▸ Move.giveUp call status gone hp
    · next call hp => exact Option.some.inj h ▸ Move.overdue call hp
    · next call hp => exact Option.some.inj h ▸ Move.timeout call hp
    · cases h
  | signal errno =>
    simp only [State.next] at h
    split at h
    · next call phase hp => exact Option.some.inj h ▸ Move.signalled call phase hp
    · next call phase errno hp => exact Option.some.inj h ▸ Move.refused call phase errno hp
    · cases h
  | spawn result =>
    simp only [State.next] at h
    split at h
    · next call parameters arguments errno hp =>
      exact Option.some.inj h ▸ Move.spawnFailed call parameters arguments errno hp
    · next call parameters arguments pid hp =>
      split at h
      · next hg =>
        exact Option.some.inj h ▸ Move.spawned call parameters arguments pid hp hg.1 hg.2
      · cases h
    · cases h
  | exit pid status =>
    simp only [State.next] at h
    split at h
    · next hg => exact Option.some.inj h ▸ Move.group _ pid _ (ne_none (Or.inl hg)) (by simp)
    · cases h
  | fork pid =>
    simp only [State.next] at h
    split at h
    · next hg => exact Option.some.inj h ▸ Move.group _ pid _ (ne_none hg) (by simp)
    · cases h
  | orphan pid =>
    simp only [State.next] at h
    split at h
    · next hg => exact Option.some.inj h ▸ Move.group _ pid _ (ne_none (Or.inr hg)) (by simp)
    · cases h
  | leave pid =>
    simp only [State.next] at h
    split at h
    · next hg => exact Option.some.inj h ▸ Move.group _ pid _ (ne_none (Or.inr hg)) (by simp)
    · cases h

end DeviceManager.ProcessGroup
