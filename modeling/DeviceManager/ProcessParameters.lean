import DeviceManager.Fallible
import DeviceManager.ProcessCalls
import Mathlib.Data.List.Induction

namespace DeviceManager.ProcessParameters

open Domain RuntimeBase ParameterText ProcessAdapter ProcessGroup ProcessCalls Transition

/-- `topology_parameters` overlaid by the mappings, of which the last one for a name counts. -/
def overlay (process : ProcessSpec) (parameters : ParameterMap) (name : String) :
    Option ParameterValue :=
  match process.parameterMappings.reverse.lookup name with
  | some source => parameters.lookup source
  | none => process.topologyParameters.lookup name

theorem childParameters_overlay {process : ProcessSpec} {parameters child : ParameterMap}
    (h : childParameters process parameters = .ok child) (name : String) :
    child.lookup name = overlay process parameters name := by
  obtain ⟨package, executable, nodeName, namespace_, mappings, topology⟩ := process
  unfold childParameters at h
  unfold overlay
  dsimp only at h ⊢
  induction mappings using List.reverseRecOn generalizing child with
  | nil =>
    obtain rfl := Except.ok.inj h
    rfl
  | append_singleton mappings mapping ih =>
    obtain ⟨target, source⟩ := mapping
    rw [List.foldlM_append] at h
    obtain ⟨older, holder, h⟩ := Fallible.bind_ok h
    obtain ⟨newer, hnewer, h⟩ := Fallible.bind_ok h
    obtain rfl := Except.ok.inj h
    dsimp only at hnewer
    rw [List.reverse_append, List.reverse_singleton, List.singleton_append, List.lookup_cons]
    cases hvalue : parameters.lookup source with
    | none =>
      rw [hvalue] at hnewer
      cases hnewer
    | some value =>
      rw [hvalue] at hnewer
      obtain rfl := Except.ok.inj hnewer
      by_cases hname : name = target
      · subst hname
        rw [Finmap.lookup_insert, beq_self_eq_true]
        exact hvalue.symm
      · rw [Finmap.lookup_insert_of_ne _ hname, beq_eq_false_iff_ne.mpr hname]
        exact ih holder

/-- A run with the pid and the command line of the last child that was started. -/
structure Watched where
  state : State
  child : Option (ℤ × List String)

def launched (s : State) : Action → Option (ℤ × List String)
  | .spawn (.ok pid) =>
    match s.point with
    | .spawning _ _ arguments => some (pid, arguments)
    | _ => none
  | _ => none

def Watched.next (yaml : DoubleQuoted) (w : Watched) (action : Action) : Option Watched :=
  (w.state.next yaml action).map fun t => ⟨t, (launched w.state action).or w.child⟩

def InEffect (yaml : DoubleQuoted) (process : ProcessSpec) (w : Watched) : Prop :=
  0 < w.state.adapter.childPid →
    ∃ child, childParameters process w.state.adapter.materializedParameters = .ok child ∧
      w.child = some (w.state.adapter.childPid, arguments yaml process child)

/-- What is about to be started. -/
def Prepared (yaml : DoubleQuoted) (process : ProcessSpec) : Point → Prop
  | .spawning _ parameters line =>
    ∃ child, childParameters process parameters = .ok child ∧ line = arguments yaml process child
  | _ => True

structure Tracked (yaml : DoubleQuoted) (process : ProcessSpec) (w : Watched) : Prop where
  same : w.state.adapter.process = process
  point : Prepared yaml process w.state.point
  effect : InEffect yaml process w

def Keeps (a b : Adapter) : Prop :=
  b.process = a.process ∧ (0 < b.childPid →
    b.childPid = a.childPid ∧ b.materializedParameters = a.materializedParameters)

theorem Keeps.refl (a : Adapter) : Keeps a a := ⟨rfl, fun _ => ⟨rfl, rfl⟩⟩

theorem keeps_become (a : Adapter) (state : LifecycleState) : Keeps a (a.become state) :=
  ⟨rfl, fun _ => ⟨rfl, rfl⟩⟩

theorem Keeps.trans {a b c : Adapter} (h : Keeps a b) (h' : Keeps b c) : Keeps a c := by
  refine ⟨h'.1.trans h.1, fun hpid => ?_⟩
  obtain ⟨hsame, hparameters⟩ := h'.2 hpid
  obtain ⟨hsame', hparameters'⟩ := h.2 (hsame ▸ hpid)
  exact ⟨hsame.trans hsame', hparameters.trans hparameters'⟩

theorem keeps_forget (a : Adapter) : Keeps a a.forget :=
  ⟨rfl, fun h => absurd (show (0 : ℤ) < -1 from h) (by decide)⟩

theorem keeps_stopped (a : Adapter) : Keeps a a.stopped :=
  ⟨rfl, fun h => absurd (show (0 : ℤ) < -1 from h) (by decide)⟩

theorem keeps_proceed {a b : Adapter} {call : Call} {answer : Answer}
    (h : a.proceed call = .returns b answer) : Keeps a b := by
  unfold Adapter.proceed at h
  split at h <;> (try split at h) <;> (try split at h) <;> cases h <;> exact Keeps.refl a

theorem keeps_afterStop (a : Adapter) (call : Call) : Keeps a (a.afterStop call).1 := by
  unfold Adapter.afterStop
  split
  · exact keeps_become a _
  · exact Keeps.refl a

theorem afterStart_become (a : Adapter) (call : Call) :
    ∃ state, (a.afterStart call).1 = a.become state := by
  unfold Adapter.afterStart
  split
  · exact ⟨.inactive, rfl⟩
  · exact ⟨a.cachedState, rfl⟩

structure Quiet (yaml : DoubleQuoted) (s t : State) : Prop where
  adapter : Keeps s.adapter t.adapter
  point : Prepared yaml s.adapter.process s.point → Prepared yaml s.adapter.process t.point

theorem quiet_afterStop {yaml : DoubleQuoted} {s u : State} {adapter : Adapter}
    (h : Keeps s.adapter adapter) (call : Call) : Quiet yaml s (u.afterStop call adapter) := by
  unfold State.afterStop
  split
  · exact ⟨h, fun _ => trivial⟩
  · exact ⟨h.trans (keeps_afterStop adapter call), fun _ => trivial⟩

theorem quiet_move {yaml : DoubleQuoted} {s t : State} {action : Action}
    (hm : Move yaml s action t) (ha : ∀ result, action ≠ .spawn result) : Quiet yaml s t := by
  cases hm with
  | call call hp =>
    refine ⟨Keeps.refl _, fun _ => ?_⟩
    dsimp only
    split <;> trivial
  | alive call hp | exited call status hp hpid | starts call parameters hp hn
  | stops call hp hn hpid | overdue call hp | signalled call phase hp =>
    exact ⟨Keeps.refl _, fun _ => trivial⟩
  | answers call adapter answer hp hn => exact ⟨keeps_proceed hn, fun _ => trivial⟩
  | idleStop call hp hn hpid => exact quiet_afterStop (keeps_become s.adapter _) call
  | missing call parameters outcome hp hc | timeout call hp | refused call phase errno hp =>
    exact ⟨Keeps.refl _, fun _ => trivial⟩
  | launches call parameters child hp hc => exact ⟨Keeps.refl _, fun _ => ⟨child, hc, rfl⟩⟩
  | probeReap call status gone elapsed hp =>
    unfold State.probeReap
    split
    · split
      · exact ⟨keeps_forget s.adapter, fun _ => trivial⟩
      · exact ⟨Keeps.refl _, fun _ => trivial⟩
    · exact ⟨Keeps.refl _, fun _ => trivial⟩
  | probeStop call phase elapsed hp =>
    unfold State.probeStop
    split
    · exact quiet_afterStop (keeps_stopped s.adapter) call
    · exact ⟨Keeps.refl _, id⟩
  | giveUp call status gone hp => exact ⟨keeps_forget s.adapter, fun _ => trivial⟩
  | spawnFailed call parameters arguments errno hp => exact absurd rfl (ha _)
  | spawned call parameters arguments pid hp hpid hg => exact absurd rfl (ha _)
  | group action pid group hg hd => exact ⟨Keeps.refl _, id⟩

theorem Tracked.quiet {yaml : DoubleQuoted} {process : ProcessSpec} {w : Watched} {t : State}
    (h : Tracked yaml process w) (hq : Quiet yaml w.state t) :
    Tracked yaml process ⟨t, w.child⟩ := by
  refine ⟨hq.adapter.1.trans h.same, ?_, fun hpid => ?_⟩
  · have hpoint := hq.point
    rw [h.same] at hpoint
    exact hpoint h.point
  · obtain ⟨hsame, hparameters⟩ := hq.adapter.2 hpid
    obtain ⟨child, hchild, hlast⟩ := h.effect (hsame ▸ hpid)
    exact ⟨child, hparameters ▸ hchild, hsame ▸ hlast⟩

theorem Tracked.spawn {yaml : DoubleQuoted} {process : ProcessSpec} {w w' : Watched}
    (h : Tracked yaml process w) {result : Except String ℤ}
    (hn : w.next yaml (.spawn result) = some w') : Tracked yaml process w' := by
  obtain ⟨t, ht, rfl⟩ := Option.map_eq_some_iff.mp hn
  have hpoint := h.point
  cases hp : w.state.point with
  | spawning call parameters line =>
    rw [hp] at hpoint
    obtain ⟨child, hchild, rfl⟩ := hpoint
    simp only [State.next, hp] at ht
    cases result with
    | error errno =>
      obtain rfl := Option.some.inj ht
      exact h.quiet ⟨Keeps.refl _, fun _ => trivial⟩
    | ok pid =>
      dsimp only at ht
      split_ifs at ht
      obtain rfl := Option.some.inj ht
      obtain ⟨state, hstate⟩ := afterStart_become (w.state.adapter.started pid parameters) call
      refine ⟨?_, trivial, fun _ => ?_⟩
      · dsimp only [State.returns]
        rw [hstate]
        exact h.same
      · refine ⟨child, ?_, ?_⟩
        · dsimp only [State.returns]
          rw [hstate]
          exact hchild
        · dsimp only [State.returns, launched]
          rw [hstate, hp]
          rfl
  | _ =>
    simp only [State.next, hp] at ht
    cases ht

theorem Tracked.step {yaml : DoubleQuoted} {process : ProcessSpec} {w w' : Watched}
    (h : Tracked yaml process w) {action : Action} (hn : w.next yaml action = some w') :
    Tracked yaml process w' := by
  cases action with
  | spawn result => exact h.spawn hn
  | _ =>
    obtain ⟨t, ht, rfl⟩ := Option.map_eq_some_iff.mp hn
    exact h.quiet (quiet_move (state_move ht) (by simp))

theorem childParameters_error {process : ProcessSpec} {parameters : ParameterMap}
    {outcome : TransitionOutcome} (h : childParameters process parameters = .error outcome) :
    outcome.result = .error := by
  obtain ⟨package, executable, nodeName, namespace_, mappings, topology⟩ := process
  unfold childParameters at h
  dsimp only at h
  induction mappings generalizing topology with
  | nil => cases h
  | cons mapping mappings ih =>
    rw [List.foldlM_cons] at h
    cases hvalue : parameters.lookup mapping.2 with
    | none =>
      rw [hvalue] at h
      exact (Except.error.inj h).symm ▸ rfl
    | some value =>
      rw [hvalue] at h
      exact ih _ h

/-- What a configure does to the adapter behind its `reap_child_locked`. -/
inductive Configured (a : Adapter) (parameters : ParameterMap) :
    Adapter → TransitionResult → Prop
  | kept (hpid : 0 < a.childPid)
      (hsame : parameters = ∅ ∨ sameParameters parameters a.materializedParameters = true) :
    Configured a parameters (a.become .inactive) .success
  | started (b : Adapter) (pid : ℤ) (hpid : 0 < pid) :
    Configured a parameters ((b.started pid parameters).become .inactive) .success
  | refused (result : TransitionResult) (hr : result ≠ .success) : Configured a parameters a result
  | stopped (result : TransitionResult) (hr : result ≠ .success) :
    Configured a parameters a.stopped result

theorem startProcess_configure {yaml : DoubleQuoted} {a b : Adapter} {parameters : ParameterMap}
    {answers : Answers} {outcome : TransitionOutcome}
    (h : a.startProcess yaml (.operation (.configure parameters)) parameters answers =
      (b, .outcome outcome)) :
    (b = a ∧ outcome.result ≠ .success) ∨ ∃ pid : ℤ, 0 < pid ∧
      b = (a.started pid parameters).become .inactive ∧ outcome.result = .success := by
  unfold Adapter.startProcess at h
  split at h
  · next failure hc =>
    cases h
    exact Or.inl ⟨rfl, by rw [childParameters_error hc]; nofun⟩
  · unfold Adapter.spawned at h
    split at h
    · cases h
      exact Or.inl ⟨rfl, nofun⟩
    · next pid _ =>
      cases h
      exact Or.inr ⟨pid, pid.2, rfl, rfl⟩

theorem finish_configured {yaml : DoubleQuoted} {a b : Adapter} {parameters : ParameterMap}
    {answers : Answers} {outcome : TransitionOutcome}
    (h : a.finish yaml answers (.operation (.configure parameters)) = (b, .outcome outcome)) :
    Configured a parameters b outcome.result := by
  unfold Adapter.finish Adapter.proceed at h
  dsimp only at h
  split_ifs at h with hstops hidle
  · obtain ⟨hpid, -, -⟩ := hstops
    dsimp only at h
    cases hstopped : answers.stopped with
    | some failure =>
      rw [stopThen_failed hpid hstopped] at h
      cases h
      exact .refused _ (by cases failure <;> nofun)
    | none =>
      rw [stopThen_stopped hpid hstopped] at h
      obtain ⟨rfl, hfailed⟩ | ⟨pid, hpid, rfl, hdone⟩ := startProcess_configure h
      · exact .stopped _ hfailed
      · exact hdone ▸ .started _ pid hpid
  · obtain ⟨rfl, hfailed⟩ | ⟨pid, hpid, rfl, hdone⟩ := startProcess_configure h
    · exact .refused _ hfailed
    · exact hdone ▸ .started _ pid hpid
  · cases h
    refine .kept (not_le.mp hidle) ?_
    by_cases hempty : parameters = ∅
    · exact Or.inl hempty
    · right
      by_contra hother
      exact hstops ⟨not_le.mp hidle, hempty, by simpa using hother⟩

/-- Behind its `reap_child_locked` the adapter has its child or none. -/
theorem reapChild_cases (a : Adapter) (exited : Option ℤ) :
    (a.reapChild exited).1 = a ∨ (a.reapChild exited).1 = a.forget := by
  unfold Adapter.reapChild
  split
  · split_ifs
    · exact Or.inr rfl
    · exact Or.inl rfl
  · exact Or.inl rfl

theorem perform_configured {yaml : DoubleQuoted} {a b : Adapter} {parameters : ParameterMap}
    {answers : Answers} {outcome : TransitionOutcome} {event : Option DeviceEvent}
    (h : a.perform yaml answers (.operation (.configure parameters)) =
      ((b, .outcome outcome), event)) :
    Configured a parameters b outcome.result ∨ Configured a.forget parameters b outcome.result := by
  rw [perform_reaps rfl] at h
  have hfinish := finish_configured (congrArg Prod.fst h)
  obtain hreap | hreap := reapChild_cases a answers.exited
  · exact Or.inl (hreap ▸ hfinish)
  · exact Or.inr (hreap ▸ hfinish)

theorem Configured.success {a b : Adapter} {parameters : ParameterMap} {result : TransitionResult}
    (h : Configured a parameters b result) (hr : result = .success) (hp : parameters ≠ ∅) :
    0 < b.childPid ∧ (b.materializedParameters = parameters ∨
      sameParameters parameters b.materializedParameters = true) := by
  cases h with
  | kept hpid hsame => exact ⟨hpid, Or.inr (hsame.resolve_left hp)⟩
  | started c pid hpid => exact ⟨hpid, Or.inl rfl⟩
  | refused _ hfailed => exact absurd hr hfailed
  | stopped _ hfailed => exact absurd hr hfailed

theorem Configured.failure {a b : Adapter} {parameters : ParameterMap} {result : TransitionResult}
    (h : Configured a parameters b result) (hr : result ≠ .success) :
    b = a ∨ b = a.stopped := by
  cases h with
  | kept hpid hsame => exact absurd rfl hr
  | started c pid hpid => exact absurd rfl hr
  | refused _ _ => exact Or.inl rfl
  | stopped _ _ => exact Or.inr rfl

def JustReturned (s : State) (before : Adapter) (call : Call) (answer : Answer) : Prop :=
  s.point = .idle ∧ ∃ event older, s.log = .returned before call s.adapter answer event :: older

theorem justReturned_returns (s : State) (call : Call) (result : Adapter × Answer) :
    JustReturned (s.returns call result) s.before call result.2 := ⟨rfl, s.event, s.log, rfl⟩

/-- What the parameters of the running child are, in any state and behind each configure. -/
structure Followed (yaml : DoubleQuoted) (process : ProcessSpec) (w : Watched) : Prop where
  effect : 0 < w.state.adapter.childPid →
    ∃ child, childParameters process w.state.adapter.materializedParameters = .ok child ∧
      (∀ name, child.lookup name =
        overlay process w.state.adapter.materializedParameters name) ∧
      w.child = some (w.state.adapter.childPid, arguments yaml process child)
  configured : ∀ before parameters outcome,
    JustReturned w.state before (.operation (.configure parameters)) (.outcome outcome) →
      outcome.result = .success → parameters ≠ ∅ → 0 < w.state.adapter.childPid ∧
        (w.state.adapter.materializedParameters = parameters ∨
          sameParameters parameters w.state.adapter.materializedParameters = true)
  failed : ∀ before parameters outcome,
    JustReturned w.state before (.operation (.configure parameters)) (.outcome outcome) →
      outcome.result ≠ .success → before.cachedState = .unconfigured →
        (w.state.adapter.cachedState = .unconfigured ∧
            (w.state.adapter.childPid = before.childPid ∨ w.state.adapter.childPid ≤ 0)) ∨
          (w.state.adapter.cachedState = .finalized ∧ w.state.adapter.childPid ≤ 0)

theorem watched_runs {yaml : DoubleQuoted} {ok : Watched → Action → Prop} {u w : Watched}
    (h : Runs (Watched.next yaml) ok u w) :
    Runs (State.next yaml) (fun _ _ => True) u.state w.state := by
  refine Runs.project Watched.state (fun s action t _ hn => ?_) h
  obtain ⟨v, hv, rfl⟩ := Option.map_eq_some_iff.mp hn
  exact Runs.snoc (Runs.refl _) trivial hv

theorem followed_run (yaml : DoubleQuoted) (process : ProcessSpec) (w : Watched)
    (h : Runs (Watched.next yaml) (fun _ _ => True) ⟨initial process, none⟩ w) :
    Followed yaml process w := by
  have hperforms : ∀ {before parameters outcome},
      JustReturned w.state before (.operation (.configure parameters)) (.outcome outcome) →
        Configured before parameters w.state.adapter outcome.result ∨
          Configured before.forget parameters w.state.adapter outcome.result := by
    rintro before parameters outcome ⟨-, event, older, hlog⟩
    obtain ⟨answers, hperform⟩ := call_performs yaml process (watched_runs h)
      (hlog ▸ List.mem_cons_self)
    exact perform_configured hperform
  refine ⟨fun hpid => ?_, ?_, ?_⟩
  · have htracked : Tracked yaml process w := by
      refine h.invariant ⟨rfl, trivial, ?_⟩ fun _ _ _ hu _ hn => hu.step hn
      exact fun hpid => absurd (show (0 : ℤ) < -1 from hpid) (by decide)
    obtain ⟨child, hchild, hlast⟩ := htracked.effect hpid
    exact ⟨child, hchild, childParameters_overlay hchild, hlast⟩
  · intro before parameters outcome hreturned hr hp
    obtain hc | hc := hperforms hreturned
    · exact hc.success hr hp
    · exact hc.success hr hp
  · intro before parameters outcome hreturned hr hstate
    have hnone : (-1 : ℤ) ≤ 0 := by decide
    obtain hc | hc := hperforms hreturned <;> obtain hb | hb := hc.failure hr <;> rw [hb]
    · exact Or.inl ⟨hstate, Or.inl rfl⟩
    · exact Or.inr ⟨rfl, hnone⟩
    · exact Or.inl ⟨hstate, Or.inr hnone⟩
    · exact Or.inr ⟨rfl, hnone⟩

def plainText : DoubleQuoted := ⟨String.toList, fun text => some (String.ofList text)⟩

def oneMapped : ProcessSpec := ⟨"pkg", "node", "node", "", [("gain", "gain")], ∅⟩

def gain (bits : UInt64) : ParameterMap := Finmap.singleton "gain" (.double bits)

theorem arguments_gain (bits : UInt64) : arguments plainText oneMapped (gain bits) =
    ["ros2", "run", "pkg", "node", "--ros-args", "-r", "__node:=node", "-p",
      "gain:=" ++ parameterValueToString plainText (.double bits)] := by
  have hkeys : (gain bits).keys = {"gain"} := rfl
  rw [arguments, entries, hkeys, Finset.sort_singleton]
  rfl

/-- The child is started with 0, and a configure with 1 starts it again. -/
theorem restarted_followed :
    ∃ w : Watched, w.child = some (8, arguments plainText oneMapped (gain 0x3FF0000000000000)) ∧
      Followed plainText oneMapped w :=
  ⟨_, rfl, followed_run plainText oneMapped _ (exec_runs
    [.call (.operation (.materialize (gain 0))), .go, .go, .go, .spawn (.ok 7),
      .call (.operation (.configure (gain 0x3FF0000000000000))), .go, .go, .signal none,
      .exit 7 0, .probe false, .go, .spawn (.ok 8)] rfl)⟩

/-- The two zeros are equal, so a configure with the other one keeps the child, which was not
started from it. -/
theorem otherZero_notStarted :
    ∃ (w : Watched) (before : Adapter) (outcome : TransitionOutcome),
      Runs (Watched.next plainText) (fun _ _ => True) ⟨initial oneMapped, none⟩ w ∧
      JustReturned w.state before (.operation (.configure (gain 0x8000000000000000)))
        (.outcome outcome) ∧ outcome.result = .success ∧ gain 0x8000000000000000 ≠ ∅ ∧
      ∀ child, childParameters oneMapped (gain 0x8000000000000000) = .ok child →
        w.child ≠ some (w.state.adapter.childPid, arguments plainText oneMapped child) := by
  refine ⟨_, _, _, exec_runs
    [.call (.operation (.materialize (gain 0))), .go, .go, .go, .spawn (.ok 7),
      .call (.operation (.configure (gain 0x8000000000000000))), .go, .go] rfl,
    ⟨rfl, _, _, rfl⟩, rfl, by decide, ?_⟩
  intro child hchild hlast
  obtain rfl := Except.ok.inj (show Except.ok (gain 0x8000000000000000) = .ok child from hchild)
  have hline : arguments plainText oneMapped (gain 0) =
      arguments plainText oneMapped (gain 0x8000000000000000) :=
    (Prod.ext_iff.mp (Option.some.inj hlast)).2
  rw [arguments_gain, arguments_gain] at hline
  exact absurd hline (by decide)

end DeviceManager.ProcessParameters
