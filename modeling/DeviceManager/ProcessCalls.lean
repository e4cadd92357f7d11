import DeviceManager.ProcessGroup

namespace DeviceManager.ProcessCalls

open Domain RuntimeBase ParameterText ProcessAdapter ProcessGroup Transition

/-- A call that has returned is `Adapter.perform` for some answers of the system. -/
def Performs (yaml : DoubleQuoted) (entry : Entry) : Prop :=
  match entry with
  | .returned before call after answer event =>
    ∃ answers, before.perform yaml answers call = ((after, answer), event)
  | _ => True

def Exiting (s : State) (call : Call) : Prop :=
  call.reaps = true ∧ s.before = s.adapter ∧ s.event = none ∧ 0 < s.adapter.childPid

def Stopping (yaml : DoubleQuoted) (s : State) (call : Call) : Prop :=
  0 < s.adapter.childPid ∧ ∃ exited, ∀ stopped spawned,
    s.before.perform yaml ⟨exited, stopped, spawned⟩ call =
      (s.adapter.stopThen yaml ⟨exited, stopped, spawned⟩ call, s.event)

def Underway (yaml : DoubleQuoted) (s : State) : Prop :=
  match s.point with
  | .idle => True
  | .entering call => call.reaps = true ∧ s.before = s.adapter ∧ s.event = none
  | .reaping call _ _ => Exiting s call
  | .proceeding call => ∃ exited, ∀ stopped spawned,
      s.before.perform yaml ⟨exited, stopped, spawned⟩ call =
        (s.adapter.finish yaml ⟨exited, stopped, spawned⟩ call, s.event)
  | .signalling call _ | .waiting call _ => Stopping yaml s call
  | .starting call parameters => ∃ exited stopped, ∀ spawned,
      s.before.perform yaml ⟨exited, stopped, spawned⟩ call =
        (s.adapter.startProcess yaml call parameters ⟨exited, stopped, spawned⟩, s.event)
  | .spawning call parameters arguments => ∃ exited stopped, ∀ spawned,
      s.before.perform yaml ⟨exited, stopped, spawned⟩ call =
        (s.adapter.spawned call parameters (spawned arguments), s.event)

structure Traced (yaml : DoubleQuoted) (s : State) : Prop where
  underway : Underway yaml s
  log : ∀ entry ∈ s.log, Performs yaml entry

def unspawned : List String → Except String {pid : ℤ // 0 < pid} := fun _ => .error ""

theorem traced_returns {yaml : DoubleQuoted} {s : State} (h : ∀ entry ∈ s.log, Performs yaml entry)
    {call : Call} {result : Adapter × Answer}
    (hr : ∃ answers, s.before.perform yaml answers call = (result, s.event)) :
    Traced yaml (s.returns call result) := by
  refine ⟨trivial, fun entry hm => ?_⟩
  obtain rfl | hm := List.mem_cons.mp hm
  · exact hr
  · exact h entry hm

theorem traced_record {yaml : DoubleQuoted} {s : State} (h : ∀ entry ∈ s.log, Performs yaml entry)
    (entry : Entry) (he : Performs yaml entry) :
    ∀ e ∈ (s.record entry).log, Performs yaml e := by
  intro e hm
  obtain rfl | hm := List.mem_cons.mp hm
  · exact he
  · exact h e hm

theorem stopThen_idle {yaml : DoubleQuoted} {a : Adapter} (h : a.childPid ≤ 0) (answers : Answers)
    (call : Call) :
    a.stopThen yaml answers call = (a.become .finalized).resume yaml answers call := by
  simp [Adapter.stopThen, Adapter.stopProcess, h]

theorem stopThen_stopped {yaml : DoubleQuoted} {a : Adapter} (h : 0 < a.childPid)
    {answers : Answers} (hs : answers.stopped = none) (call : Call) :
    a.stopThen yaml answers call = a.stopped.resume yaml answers call := by
  simp [Adapter.stopThen, Adapter.stopProcess, hs, not_le.mpr h]

theorem stopThen_failed {yaml : DoubleQuoted} {a : Adapter} (h : 0 < a.childPid)
    {answers : Answers} {failure : StopFailure} (hs : answers.stopped = some failure)
    (call : Call) : a.stopThen yaml answers call = (a, .outcome failure.outcome) := by
  simp [Adapter.stopThen, Adapter.stopProcess, hs, not_le.mpr h]

theorem traced_afterStop {yaml : DoubleQuoted} {s : State}
    (h : ∀ entry ∈ s.log, Performs yaml entry) {call : Call} {adapter : Adapter}
    (hr : ∃ exited stopped, ∀ spawned, s.before.perform yaml ⟨exited, stopped, spawned⟩ call =
      (adapter.resume yaml ⟨exited, stopped, spawned⟩ call, s.event)) :
    Traced yaml (s.afterStop call adapter) := by
  obtain ⟨exited, stopped, hr⟩ := hr
  unfold State.afterStop
  split
  · next parameters hc =>
    simp only [Adapter.resume, hc] at hr
    exact ⟨⟨exited, stopped, hr⟩, h⟩
  · next hc =>
    simp only [Adapter.resume, hc] at hr
    exact traced_returns h ⟨_, hr unspawned⟩

theorem traced_forget {yaml : DoubleQuoted} {s : State} (h : ∀ entry ∈ s.log, Performs yaml entry)
    {call : Call} (hu : Exiting s call) (status : ℤ) : Traced yaml (s.forget call status) := by
  obtain ⟨hc, hbefore, hevent, hpid⟩ := hu
  refine ⟨⟨some status, fun stopped spawned => ?_⟩, ?_⟩
  · rw [perform_reaps hc]
    simp [State.forget, hbefore, Adapter.reapChild, hpid]
  · intro entry hm
    obtain rfl | hm := List.mem_cons.mp hm
    · trivial
    · exact h entry hm

theorem traced_probeReap {yaml : DoubleQuoted} {s : State} (h : Traced yaml s) {call : Call}
    (hu : Exiting s call) (status : ℤ) (gone elapsed : Bool) :
    Traced yaml (s.probeReap call status gone elapsed) := by
  have hlog : ∀ entry ∈ (s.reaped.record (.gone s.adapter.childPid)).log, Performs yaml entry :=
    traced_record (s := s.reaped) h.log _ trivial
  unfold State.probeReap
  split
  · split
    · exact traced_forget hlog hu status
    · exact ⟨hu, hlog⟩
  · exact ⟨hu, h.log⟩

theorem traced_failed {yaml : DoubleQuoted} {s : State} (h : ∀ entry ∈ s.log, Performs yaml entry)
    {call : Call} (hu : Stopping yaml s call) (failure : StopFailure) :
    Traced yaml (s.returns call (s.adapter, .outcome failure.outcome)) := by
  obtain ⟨hpid, exited, hu⟩ := hu
  refine traced_returns h ⟨⟨exited, some failure, unspawned⟩, ?_⟩
  rw [hu, stopThen_failed hpid rfl]

theorem traced_probeStop {yaml : DoubleQuoted} {s : State} (h : Traced yaml s) {call : Call}
    {phase : Phase} (hp : s.point = .waiting call phase) (hu : Stopping yaml s call) :
    Traced yaml (s.probeStop call) := by
  unfold State.probeStop
  split
  · obtain ⟨hpid, exited, hu⟩ := hu
    apply traced_afterStop
    · exact traced_record (traced_record (s := s.reaped) h.log (.gone s.adapter.childPid) trivial)
        (.forgot s.adapter.childPid) trivial
    · refine ⟨exited, none, fun spawned => ?_⟩
      have hperform := hu none spawned
      rw [stopThen_stopped hpid rfl] at hperform
      exact hperform
  · refine ⟨?_, h.log⟩
    simp only [Underway, State.reaped, State.setGroup, hp]
    exact hu

theorem traced_step {yaml : DoubleQuoted} {s t : State} {action : Action} (h : Traced yaml s)
    (hnext : s.next yaml action = some t) : Traced yaml t := by
  have hu := h.underway
  unfold Underway at hu
  cases state_move hnext with
  | call call hp =>
    refine ⟨?_, h.log⟩
    unfold Underway
    cases hc : call.reaps with
    | true => exact ⟨hc, rfl, rfl⟩
    | false => exact ⟨none, fun stopped spawned => perform_plain hc _⟩
  | alive call hp =>
    rw [hp] at hu
    obtain ⟨hc, hbefore, hevent⟩ := hu
    refine ⟨⟨none, fun stopped spawned => ?_⟩, h.log⟩
    rw [perform_reaps hc]
    simp [State.enter, hbefore, hevent, Adapter.reapChild]
  | exited call status hp hpid =>
    rw [hp] at hu
    exact ⟨⟨hu.1, hu.2.1, hu.2.2, hpid⟩, h.log⟩
  | answers call adapter answer hp hn =>
    rw [hp] at hu
    obtain ⟨exited, hu⟩ := hu
    refine traced_returns h.log ⟨⟨exited, none, unspawned⟩, ?_⟩
    rw [hu, Adapter.finish, hn]
  | starts call parameters hp hn =>
    rw [hp] at hu
    obtain ⟨exited, hu⟩ := hu
    refine ⟨⟨exited, none, fun spawned => ?_⟩, h.log⟩
    rw [State.enter, hu, Adapter.finish, hn]
  | idleStop call hp hn hpid =>
    rw [hp] at hu
    obtain ⟨exited, hu⟩ := hu
    refine traced_afterStop h.log ⟨exited, none, fun spawned => ?_⟩
    rw [hu, Adapter.finish, hn]
    exact congrArg (·, s.event) (stopThen_idle hpid _ call)
  | stops call hp hn hpid =>
    rw [hp] at hu
    obtain ⟨exited, hu⟩ := hu
    refine ⟨⟨hpid, exited, fun stopped spawned => ?_⟩, h.log⟩
    rw [State.enter, hu, Adapter.finish, hn]
  | missing call parameters outcome hp hc =>
    rw [hp] at hu
    obtain ⟨exited, stopped, hu⟩ := hu
    refine traced_returns h.log ⟨⟨exited, stopped, unspawned⟩, ?_⟩
    rw [hu, Adapter.startProcess, hc]
  | launches call parameters child hp hc =>
    rw [hp] at hu
    obtain ⟨exited, stopped, hu⟩ := hu
    refine ⟨⟨exited, stopped, fun spawned => ?_⟩, h.log⟩
    rw [State.enter, hu, Adapter.startProcess, hc]
  | probeReap call status gone elapsed hp =>
    rw [hp] at hu
    exact traced_probeReap h hu status gone elapsed
  | probeStop call phase elapsed hp =>
    rw [hp] at hu
    exact traced_probeStop h hp hu
  | giveUp call status gone hp =>
    rw [hp] at hu
    exact traced_forget h.log hu status
  | overdue call hp =>
    rw [hp] at hu
    exact ⟨hu, h.log⟩
  | timeout call hp =>
    rw [hp] at hu
    exact traced_failed h.log hu .timeout
  | signalled call phase hp =>
    rw [hp] at hu
    exact ⟨hu, h.log⟩
  | refused call phase errno hp =>
    rw [hp] at hu
    exact traced_failed h.log hu (phase.failure errno)
  | spawnFailed call parameters arguments errno hp =>
    rw [hp] at hu
    obtain ⟨exited, stopped, hu⟩ := hu
    refine traced_returns h.log ⟨⟨exited, stopped, fun _ => .error errno⟩, ?_⟩
    rw [hu, Adapter.spawned]
  | spawned call parameters arguments pid hp hpid hg =>
    rw [hp] at hu
    obtain ⟨exited, stopped, hu⟩ := hu
    have hlog := traced_record (s := s.setGroup pid ⟨.running, 0, 0⟩) h.log (.spawned pid) trivial
    exact traced_returns hlog ⟨⟨exited, stopped, fun _ => .ok ⟨pid, hpid⟩⟩, hu _⟩
  | group action pid group hg hd => exact ⟨h.underway, h.log⟩

/-- Every call of a run is one of the calls with atomic answers. -/
theorem call_performs (yaml : DoubleQuoted) (process : ProcessSpec)
    {ok : State → Action → Prop} {s : State} (h : Runs (State.next yaml) ok (initial process) s)
    {before after : Adapter} {call : Call} {answer : Answer} {event : Option DeviceEvent}
    (hm : .returned before call after answer event ∈ s.log) :
    ∃ answers, before.perform yaml answers call = ((after, answer), event) := by
  have hs : Traced yaml s := h.invariant ⟨trivial, fun _ hm => by cases hm⟩
    fun _ _ _ hi _ hn => traced_step hi hn
  exact hs.log _ hm

end DeviceManager.ProcessCalls
