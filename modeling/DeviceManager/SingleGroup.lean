import DeviceManager.History
import DeviceManager.ProcessGroup

namespace DeviceManager.SingleGroup

open Domain RuntimeBase ParameterText ProcessAdapter ProcessGroup Transition History

/-- `kill(-pid, 0)` has reported ESRCH since the last child with this pid was started. -/
def reported (pid : ℤ) : List Entry → Bool
  | [] => false
  | .gone p :: older => p == pid || reported pid older
  | .spawned p :: older => p != pid && reported pid older
  | .forgot _ :: older | .returned _ _ _ _ _ :: older => reported pid older

theorem reported_gone (pid : ℤ) (older : List Entry) : reported pid (.gone pid :: older) = true := by
  simp [reported]

def ForgetsReported (entry : Entry) (older : List Entry) : Prop :=
  match entry with
  | .forgot pid => reported pid older = true
  | _ => True

/-- `reap_child_locked` does not run into its deadline before a round of its loop has found
no member of the group. -/
def patient (s : State) (action : Action) : Bool :=
  match action, s.point with
  | .deadline, .reaping _ _ false => false
  | _, _ => true

def State.idle (s : State) : Prop := ∀ pid, s.groups pid = Group.none

def PointSound (s : State) : Prop :=
  match s.point with
  | .reaping _ _ gone =>
    0 < s.adapter.childPid ∧
      (gone = true → s.group = Group.none ∧ reported s.adapter.childPid s.log = true)
  | .signalling _ _ | .waiting _ _ => 0 < s.adapter.childPid
  | .starting _ _ | .spawning _ _ _ => s.adapter.childPid ≤ 0
  | _ => True

structure Sound (s : State) : Prop where
  single : ∀ pid, s.groups pid ≠ Group.none → pid = s.adapter.childPid ∧ 0 < pid
  point : PointSound s
  reported : Always ForgetsReported s.log

theorem idle_of_group {s : State} (h : Sound s) (hg : s.group = Group.none) (pid : ℤ) :
    s.groups pid = Group.none := by
  by_contra hne
  obtain ⟨rfl, -⟩ := h.single pid hne
  exact hne hg

theorem idle_of_pid {s : State} (h : Sound s) (hp : s.adapter.childPid ≤ 0) (pid : ℤ) :
    s.groups pid = Group.none := by
  by_contra hne
  obtain ⟨rfl, hpos⟩ := h.single pid hne
  omega

theorem single_setGroup {s : State} (h : Sound s) (hp : 0 < s.adapter.childPid) (group : Group) :
    ∀ pid, (s.setGroup s.adapter.childPid group).groups pid ≠ Group.none →
      pid = s.adapter.childPid ∧ 0 < pid := by
  intro pid hne
  by_cases hpc : pid = s.adapter.childPid
  · exact ⟨hpc, hpc ▸ hp⟩
  · rw [setGroup_other s hpc] at hne
    exact h.single pid hne

theorem sound_reaped {s : State} (h : Sound s) (hp : 0 < s.adapter.childPid) {point : Point}
    (hpoint : PointSound (s.reaped.enter point)) : Sound (s.reaped.enter point) :=
  ⟨single_setGroup h hp _, hpoint, h.reported⟩

theorem sound_returns {s : State} (hlog : Always ForgetsReported s.log) (call : Call)
    {result : Adapter × Answer}
    (hg : ∀ pid, s.groups pid ≠ Group.none → pid = result.1.childPid ∧ 0 < pid) :
    Sound (s.returns call result) :=
  ⟨hg, trivial, ⟨trivial, hlog⟩⟩

theorem proceed_returns {a adapter : Adapter} {call : Call} {answer : Answer}
    (h : a.proceed call = .returns adapter answer) : adapter.childPid = a.childPid := by
  unfold Adapter.proceed at h
  split at h <;> (try split at h) <;> (try split at h) <;> cases h <;> rfl

theorem proceed_starts {a : Adapter} {call : Call} {parameters : ParameterMap}
    (h : a.proceed call = .starts parameters) : a.childPid ≤ 0 := by
  unfold Adapter.proceed at h
  split at h <;> (try split at h) <;> (try split at h) <;> first | omega | cases h

theorem afterStart_pid (a : Adapter) (call : Call) :
    (a.afterStart call).1.childPid = a.childPid := by
  unfold Adapter.afterStart
  split <;> rfl

theorem sound_afterStop {s : State} (hlog : Always ForgetsReported s.log) (call : Call)
    {adapter : Adapter} (hp : adapter.childPid ≤ 0) (hg : ∀ pid, s.groups pid = Group.none) :
    Sound (s.afterStop call adapter) := by
  unfold State.afterStop
  split
  · exact ⟨fun pid hne => (hne (hg pid)).elim, hp, hlog⟩
  · exact sound_returns hlog call fun pid hne => (hne (hg pid)).elim

theorem sound_empty {s : State} (h : Sound s) (hp : 0 < s.adapter.childPid)
    (hg : s.group.reap = Group.none) :
    ∀ pid, (s.reaped.record (.gone s.adapter.childPid)).groups pid = Group.none := by
  intro pid
  by_contra hne
  obtain ⟨rfl, -⟩ := single_setGroup h hp _ pid hne
  apply hne
  rw [← hg]
  exact setGroup_same s _ _

theorem sound_probeReap {s : State} (h : Sound s) {call : Call} {status : ℤ} {gone : Bool}
    (hp : s.point = .reaping call status gone) (elapsed : Bool) :
    Sound (s.probeReap call status gone elapsed) := by
  have hpoint := h.point
  rw [PointSound, hp] at hpoint
  obtain ⟨hpid, -⟩ := hpoint
  unfold State.probeReap
  split
  · next hg =>
    have hempty := sound_empty h hpid hg
    split
    · exact ⟨fun pid hne => (hne (hempty pid)).elim, trivial,
        ⟨reported_gone _ _, trivial, h.reported⟩⟩
    · exact ⟨fun pid hne => (hne (hempty pid)).elim, ⟨hpid, fun _ => ⟨hempty _, reported_gone _ _⟩⟩,
        ⟨trivial, h.reported⟩⟩
  · exact sound_reaped h hpid ⟨hpid, fun h => by cases h⟩

theorem sound_probeStop {s : State} (h : Sound s) {call : Call} {phase : Phase}
    (hp : s.point = .waiting call phase) : Sound (s.probeStop call) := by
  have hpid := h.point
  rw [PointSound, hp] at hpid
  unfold State.probeStop
  split
  · next hg =>
    have hempty := sound_empty h hpid hg
    have hlog : Always ForgetsReported
        (.forgot s.adapter.childPid :: .gone s.adapter.childPid :: s.log) :=
      ⟨reported_gone _ _, trivial, h.reported⟩
    exact sound_afterStop hlog call (show (-1 : ℤ) ≤ 0 by decide) hempty
  · refine ⟨single_setGroup h hpid _, ?_, h.reported⟩
    rw [PointSound]
    simp only [State.reaped, State.setGroup, hp]
    exact hpid

theorem sound_step (yaml : DoubleQuoted) {s t : State} {action : Action} (h : Sound s)
    (ha : patient s action = true) (hnext : s.next yaml action = some t) : Sound t := by
  have hpoint := h.point
  unfold PointSound at hpoint
  cases state_move hnext with
  | call call hp =>
    refine ⟨h.single, ?_, h.reported⟩
    unfold PointSound
    cases call.reaps <;> trivial
  | alive call hp => exact ⟨h.single, trivial, h.reported⟩
  | exited call status hp hpid =>
    exact ⟨single_setGroup h hpid _, ⟨hpid, fun h => by cases h⟩, h.reported⟩
  | answers call adapter answer hp hn =>
    apply sound_returns h.reported
    rw [proceed_returns hn]
    exact h.single
  | starts call parameters hp hn => exact ⟨h.single, proceed_starts hn, h.reported⟩
  | idleStop call hp hn hpid =>
    exact sound_afterStop h.reported call hpid (idle_of_pid h hpid)
  | stops call hp hn hpid => exact ⟨h.single, hpid, h.reported⟩
  | missing call parameters outcome hp hc => exact sound_returns h.reported call h.single
  | launches call parameters child hp hc =>
    rw [hp] at hpoint
    exact ⟨h.single, hpoint, h.reported⟩
  | probeReap call status gone elapsed hp => exact sound_probeReap h hp elapsed
  | probeStop call phase elapsed hp => exact sound_probeStop h hp
  | giveUp call status gone hp =>
    rw [hp] at hpoint
    cases gone with
    | false => simp [patient, hp] at ha
    | true =>
      obtain ⟨-, hreported⟩ := hpoint
      obtain ⟨hg, hr⟩ := hreported rfl
      exact ⟨fun pid hne => (hne (idle_of_group h hg pid)).elim, trivial, ⟨hr, h.reported⟩⟩
  | overdue call hp =>
    rw [hp] at hpoint
    exact ⟨h.single, hpoint, h.reported⟩
  | timeout call hp => exact sound_returns h.reported call h.single
  | signalled call phase hp =>
    rw [hp] at hpoint
    exact ⟨h.single, hpoint, h.reported⟩
  | refused call phase errno hp => exact sound_returns h.reported call h.single
  | spawnFailed call parameters arguments errno hp => exact sound_returns h.reported call h.single
  | spawned call parameters arguments pid hp hpid hg =>
    rw [hp] at hpoint
    have hlog : Always ForgetsReported (.spawned pid :: s.log) := ⟨trivial, h.reported⟩
    refine sound_returns hlog call fun p hne => ?_
    rw [afterStart_pid]
    by_cases hpp : p = pid
    · exact ⟨hpp, hpp ▸ hpid⟩
    · exact (hne ((setGroup_other s hpp _).trans (idle_of_pid h hpoint p))).elim
  | group action pid group hg hd =>
    obtain ⟨rfl, hpos⟩ := h.single pid hg
    refine ⟨single_setGroup h hpos group, ?_, h.reported⟩
    cases hp : s.point with
    | reaping call status gone =>
      rw [hp] at hpoint
      simp only [PointSound, State.setGroup, hp]
      exact ⟨hpos, fun hgone => (hg (hpoint.2 hgone).1).elim⟩
    | idle | entering call | proceeding call => simp only [PointSound, State.setGroup, hp]
    | signalling call phase | waiting call phase | starting call parameters
    | spawning call parameters arguments =>
      rw [hp] at hpoint
      simp only [PointSound, State.setGroup, hp]
      exact hpoint

theorem sound_initial (process : ProcessSpec) : Sound (initial process) :=
  ⟨fun _ hne => (hne rfl).elim, trivial, trivial⟩

/-- While `reap_child_locked` stays in its loop until a round has found no member,
`child_pid_` is reset behind a reported ESRCH only, every live group is the one of
`child_pid_`, and no group is live when a process is started. -/
theorem one_group (yaml : DoubleQuoted) (process : ProcessSpec) {s : State}
    (h : Runs (State.next yaml) (fun s a => patient s a = true) (initial process) s) :
    (∀ pid older, .forgot pid :: older <:+ s.log → reported pid older = true) ∧
    (∀ pid, s.groups pid ≠ Group.none → pid = s.adapter.childPid ∧ 0 < pid) ∧
    ∀ call parameters arguments, s.point = .spawning call parameters arguments →
      ∀ pid, s.groups pid = Group.none := by
  have hs : Sound s := h.invariant (sound_initial process) fun _ _ _ hi ha hn =>
    sound_step yaml hi ha hn
  refine ⟨fun pid older hsuffix => (always_iff _ _).mp hs.reported _ older hsuffix, hs.single, ?_⟩
  intro call parameters arguments hp
  have hpoint := hs.point
  rw [PointSound, hp] at hpoint
  exact idle_of_pid hs hpoint

def relay : ProcessSpec := ⟨"demo_nodes_cpp", "talker", "relay", "", [], ∅⟩

def unescaped : DoubleQuoted := ⟨String.toList, fun chars => some (String.ofList chars)⟩

/-- A call starts the process `pid`. -/
def launch (pid : ℤ) : List Action :=
  [.call (.operation (.materialize ∅)), .go, .go, .go, .spawn (.ok pid)]

def exits (pid : ℤ) : List Action := [.exit pid 0, .call .state, .go]

theorem one_group_restarted :
    ∃ s, exec (State.next unescaped) (fun s a => patient s a = true)
        (launch 100 ++ exits 100 ++ [.probe false, .probe true, .go] ++ launch 200)
        (initial relay) = some s ∧
      s.groups 200 ≠ Group.none ∧
      ∀ pid, s.groups pid ≠ Group.none → pid = s.adapter.childPid ∧ 0 < pid := by
  have hexec : exec (State.next unescaped) (fun s a => patient s a = true)
      (launch 100 ++ exits 100 ++ [.probe false, .probe true, .go] ++ launch 200)
      (initial relay) = some _ := rfl
  exact ⟨_, hexec, by decide, (one_group unescaped relay (exec_runs _ hexec)).2.1⟩

/-- A descendant outlives SIGKILL until the deadline: the next `materialize` starts a second
group beside it. -/
theorem two_groups :
    ∃ s, exec (State.next unescaped) (fun _ _ => True)
        (launch 100 ++ [.fork 100] ++ exits 100 ++ [.probe false, .deadline, .go] ++ launch 200)
        (initial relay) = some s ∧
      s.groups 100 ≠ Group.none ∧ s.groups 200 ≠ Group.none ∧
      ∃ older, .forgot 100 :: older <:+ s.log ∧ reported 100 older = false := by
  have hexec : exec (State.next unescaped) (fun _ _ => True)
      (launch 100 ++ [.fork 100] ++ exits 100 ++ [.probe false, .deadline, .go] ++ launch 200)
      (initial relay) = some _ := rfl
  exact ⟨_, hexec, by decide, by decide, _, ⟨[_, _, _], rfl⟩, rfl⟩

end DeviceManager.SingleGroup
