import DeviceManager.Accounting

namespace DeviceManager.Planning

open Domain WorkerThread Queue QueueStep Log Transition History Ledger Delta Tickets Accounting

/-- Each take takes the open delta with the desired map, and each plan is made
with the maps of the last take. -/
structure Planned (parameters : ParameterMap) (q : DeviceQueue) : Prop where
  desired : q.parameters = desired parameters (sinceStart q.log)
  takes : Always (fun event older => ∀ m p, event = .taken m p →
    m = Delta.desired parameters older ∧ p = delta (opened (entries older))) (sinceStart q.log)
  chosen : ∀ pair, chosen q.worker = some pair → lastTake (sinceStart q.log) = some pair
  plans : Always (fun event older => ∀ s m p r, event = .planned s m p r →
    lastTake older = some (m, p)) (sinceStart q.log)

theorem planned_started {q : DeviceQueue} (h : Started q) : Planned q.parameters q := by
  obtain ⟨older, hlog⟩ := h.log
  constructor <;> simp [hlog, isStart, Delta.desired, h.worker, Delta.chosen]

def neutral : Event → Bool
  | .started _ | .taken _ _ | .planned _ _ _ _ => false
  | _ => true

theorem neutral_read {event : Event} (h : event.isRead = true) : neutral event = true := by
  cases event with
  | planRead | sourceRead | targetRead | safeRead | finalRead => rfl
  | _ => cases h

theorem neutral_isStart {event : Event} (h : neutral event = true) : isStart event = false := by
  cases event <;> simp_all [neutral, isStart]

theorem planned_same {parameters : ParameterMap} {q t : DeviceQueue} {e : Event}
    (h : Planned parameters q) (hlog : t.log = e :: q.log) (hne : neutral e = true)
    (hd : t.parameters = Delta.desired parameters (e :: sinceStart q.log))
    (hc : ∀ pair, Delta.chosen t.worker = some pair → Delta.chosen q.worker = some pair) :
    Planned parameters t := by
  have hstart : sinceStart t.log = e :: sinceStart q.log := by
    simp [hlog, neutral_isStart hne]
  constructor
  · rw [hstart, hd]
  · rw [hstart]
    refine ⟨?_, h.takes⟩
    rintro m p rfl
    cases hne
  · intro pair hpair
    have hl : lastTake (e :: sinceStart q.log) = lastTake (sinceStart q.log) := by
      cases e <;> simp_all [neutral, lastTake]
    rw [hstart, hl]
    exact h.chosen pair (hc pair hpair)
  · rw [hstart]
    refine ⟨?_, h.plans⟩
    rintro s m p r rfl
    cases hne

theorem planned_silent {parameters : ParameterMap} {q t : DeviceQueue} (h : Planned parameters q)
    (hlog : t.log = q.log) (hd : t.parameters = q.parameters)
    (hc : Delta.chosen t.worker = none) : Planned parameters t := by
  constructor
  · rw [hlog, hd, h.desired]
  · rw [hlog]
    exact h.takes
  · intro pair hpair
    rw [hc] at hpair
    cases hpair
  · rw [hlog]
    exact h.plans

theorem planned_push {parameters : ParameterMap} {q : DeviceQueue} (h : Planned parameters q)
    (p : RequestPriority) (batch : RequestBatch) : Planned parameters (q.push p batch) := by
  have hd := h.desired
  exact planned_same (e := .queued p batch) h (by simp) rfl (by simpa [Delta.desired] using hd)
    (by simp)

theorem planned_take {parameters : ParameterMap} {q : DeviceQueue} (h : Planned parameters q)
    (hc : Carried q) {patch : ParameterMap}
    (hw : q.worker = .examining q.parameterRevision patch) : Planned parameters (q.take patch) := by
  have hp := (carried_take hc hw).1.trans hc.pending
  have hlog : sinceStart (q.take patch).log = .taken q.parameters patch :: sinceStart q.log := by
    simp [isStart]
  constructor
  · rw [hlog]
    exact h.desired
  · rw [hlog]
    refine ⟨?_, h.takes⟩
    intro m p he
    obtain ⟨rfl, rfl⟩ := Event.taken.inj he
    exact ⟨h.desired, hp⟩
  · intro pair hpair
    rw [hlog]
    exact hpair
  · rw [hlog]
    exact ⟨by simp, h.plans⟩

theorem planned_plan {parameters : ParameterMap} {q : DeviceQueue} (h : Planned parameters q)
    {state : LifecycleState} {m p : ParameterMap} (hw : q.worker = .transitions state m p)
    (reply : Reply (List TransitionRequest)) :
    Planned parameters ((q.setWorker (afterPlan state m p reply)).record
      (.planned state m p reply)) := by
  have hlog : sinceStart ((q.setWorker (afterPlan state m p reply)).record
      (.planned state m p reply)).log = .planned state m p reply :: sinceStart q.log := by
    simp [isStart]
  constructor
  · rw [hlog]
    exact h.desired
  · rw [hlog]
    exact ⟨by simp, h.takes⟩
  · intro pair hpair
    have hnone := (held_afterPlan state m p reply).2
    simp [hnone] at hpair
  · rw [hlog]
    refine ⟨?_, h.plans⟩
    intro s m' p' r he
    obtain ⟨rfl, rfl, rfl, rfl⟩ := Event.planned.inj he
    exact h.chosen (m, p) (congrArg Delta.chosen hw)

theorem planned_step {parameters : ParameterMap} {q t : DeviceQueue} {action : Action}
    (h : Planned parameters q) (hcar : Carried q) (hs : steady q action)
    (hn : next q action = some t) : Planned parameters t := by
  have hd := h.desired
  cases next_move hn with
  | start | startAgain | stop | stopAgain | join => exact (steady_serving hs).elim
  | refuse | refusePatch => exact h
  | spawn => exact planned_silent h rfl rfl rfl
  | finalize => exact planned_silent h rfl rfl rfl
  | supersede => exact planned_silent h rfl rfl rfl
  | push requests priority => exact planned_push h priority _
  | drop patch priority hr hst he =>
    rw [steady_merge hs hcar.enabled] at he
    cases he
  | lone patch priority =>
    exact planned_same h rfl rfl (by simp [Delta.desired, hd]) (by simp)
  | queuePatch patch priority =>
    refine planned_push ?_ priority _
    exact planned_same h rfl rfl (by simp [Delta.desired, hd]) (by simp)
  | dequeue priority batch rest =>
    refine planned_same (e := .dequeued priority batch) h (by simp) rfl ?_ ?_
    · simpa [Delta.desired] using hd
    · simp [chosen_enter]
  | take patch hw => exact planned_take h hcar hw
  | call request ret hw => exact planned_same h rfl rfl hd (by simp [Delta.chosen])
  | store record ret hw =>
    refine planned_same h rfl rfl hd ?_
    simp [held_resume]
  | read event reply hw =>
    refine planned_same h rfl (neutral_read (isRead_reads hw reply)) ?_ ?_
    · exact hd.trans (accounts_read (isRead_reads hw reply) _ _).2.2.2.1.symm
    · intro pair hpair
      obtain hc | ⟨-, hc⟩ := chosen_reads hw reply
      · exact hc ▸ hpair
      · simp [hc] at hpair
  | reply request ret reply hw =>
    refine planned_same h rfl rfl hd ?_
    simp [held_afterOutcome]
  | plan state m p reply hw => exact planned_plan h hw reply

theorem planned_run {q₀ q : DeviceQueue} (h : Started q₀) (he : q₀.enabled = true)
    (hrun : Runs next steady q₀ q) (hcount : patches (sinceStart q.log) < 2 ^ 64) :
    Planned q₀.parameters q := by
  refine (hrun.invariant (I := fun q => patches (sinceStart q.log) < 2 ^ 64 →
    Carried q ∧ Planned q₀.parameters q) (fun _ => ⟨carried_started h he, planned_started h⟩) ?_
    hcount).2
  intro s a t ih hs hn ht
  obtain ⟨hcar, hp⟩ := ih ((patches_le hs hn).trans_lt ht)
  exact ⟨carried_step hcar hs hn ht, planned_step hp hcar hs hn⟩

def isPlanning : Worker → Bool
  | .planning _ _ => true
  | _ => false

def throws : Action → Bool
  | .work (.state (.error _)) => true
  | _ => false

/-- The steady steps in which no call of `state()` throws just before a plan. -/
def answering (q : DeviceQueue) (action : Action) : Prop :=
  steady q action ∧ (isPlanning q.worker && throws action) = false

instance (q : DeviceQueue) (action : Action) : Decidable (answering q action) :=
  inferInstanceAs (Decidable (_ ∧ _))

def Handed (q : DeviceQueue) : Prop :=
  (closed (entries (sinceStart q.log))).map delta =
    calls (sinceStart q.log) ++ (Delta.chosen q.worker).toList.map Prod.snd

theorem handed_same {q t : DeviceQueue} (h : Handed q)
    (hl : closed (entries (sinceStart t.log)) = closed (entries (sinceStart q.log)))
    (hc : calls (sinceStart t.log) = calls (sinceStart q.log))
    (hw : Delta.chosen t.worker = Delta.chosen q.worker) : Handed t := by
  rw [Handed, hl, hc, hw]
  exact h

theorem handed_take {q : DeviceQueue} (h : Handed q) (hcar : Carried q) {patch : ParameterMap}
    (hw : q.worker = .examining q.parameterRevision patch) : Handed (q.take patch) := by
  have hp := (carried_take hcar hw).1.trans hcar.pending
  have hnone : Delta.chosen q.worker = none := congrArg Delta.chosen hw
  rw [Handed, hnone, Option.toList_none, List.map_nil, List.append_nil] at h
  have hlog : sinceStart (q.take patch).log = .taken q.parameters patch :: sinceStart q.log := by
    simp [isStart]
  rw [Handed, hlog]
  simp [entries, closed, calls, h, hp, Delta.chosen]

theorem handed_step {q t : DeviceQueue} {action : Action} (h : Handed q) (hcar : Carried q)
    (hs : answering q action) (hn : next q action = some t) : Handed t := by
  cases next_move hn with
  | start | startAgain | stop | stopAgain | join => exact (steady_serving hs.1).elim
  | refuse | refusePatch => exact h
  | spawn hw => exact handed_same h rfl rfl (congrArg Delta.chosen hw).symm
  | finalize hw => exact handed_same h rfl rfl (congrArg Delta.chosen hw).symm
  | supersede revision patch hw => exact handed_same h rfl rfl (congrArg Delta.chosen hw).symm
  | push requests priority =>
    exact handed_same h (by simp [isStart, entries]) (by simp [isStart, calls]) (by simp)
  | drop patch priority hr hst he =>
    rw [steady_merge hs.1 hcar.enabled] at he
    cases he
  | lone patch priority hr hst he hl =>
    exact handed_same h (by simp [isStart, entries, hl]) (by simp [isStart, calls]) rfl
  | queuePatch patch priority hr hst he hl =>
    apply handed_same h
    · simp [DeviceQueue.queuePatch, isStart, entries, closed, hl]
    · simp [DeviceQueue.queuePatch, isStart, calls]
    · simp [DeviceQueue.queuePatch]
  | dequeue priority batch rest hw =>
    apply handed_same h
    · simp [isStart, entries]
    · simp [isStart, calls]
    · exact (chosen_enter batch).trans (congrArg Delta.chosen hw).symm
  | take patch hw => exact handed_take h hcar hw
  | call request ret hw => exact handed_same h rfl rfl (congrArg Delta.chosen hw).symm
  | store record ret hw =>
    exact handed_same h rfl rfl ((held_resume ret _).2.trans (congrArg Delta.chosen hw).symm)
  | read event reply hw =>
    obtain ⟨he, -, hc, -⟩ := accounts_read (isRead_reads hw reply) (sinceStart q.log) ∅
    apply handed_same h
    · simp [isStart_read hw, he]
    · simp [isStart_read hw, hc]
    · obtain hch | ⟨⟨m, p, thrown, hplan, rfl⟩, -⟩ := chosen_reads hw reply
      · exact hch
      · have hne := hs.2
        simp [hplan, isPlanning, throws] at hne
  | reply request ret reply hw =>
    exact handed_same h rfl rfl
      ((held_afterOutcome request ret reply).2.trans (congrArg Delta.chosen hw).symm)
  | plan state m p reply hw =>
    have hnone := (held_afterPlan state m p reply).2
    have hsome : Delta.chosen q.worker = some (m, p) := congrArg Delta.chosen hw
    rw [Handed, hsome] at h
    simpa [Handed, isStart, entries, calls, hnone] using h

theorem handed_run {q₀ q : DeviceQueue} (h : Started q₀) (he : q₀.enabled = true)
    (hrun : Runs next answering q₀ q) (hcount : patches (sinceStart q.log) < 2 ^ 64) :
    Handed q := by
  have hstart : Handed q₀ := by
    obtain ⟨older, hlog⟩ := h.log
    simp [Handed, hlog, isStart, entries, closed, calls, h.worker, Delta.chosen]
  refine (hrun.invariant (I := fun q => patches (sinceStart q.log) < 2 ^ 64 →
    Carried q ∧ Handed q) (fun _ => ⟨carried_started h he, hstart⟩) ?_ hcount).2
  intro s a t ih hs hn ht
  obtain ⟨hcar, hh⟩ := ih ((patches_le hs.1 hn).trans_lt ht)
  exact ⟨carried_step hcar hs.1 hn ht, handed_step hh hcar hs hn⟩

theorem beforeTake_of_lastTake {log : List Event} {m p : ParameterMap}
    (h : lastTake log = some (m, p)) :
    ∃ older, beforeTake log = some older ∧ .taken m p :: older <:+ log := by
  induction log with
  | nil => cases h
  | cons event older ih =>
    cases event with
    | taken m' p' =>
      obtain ⟨rfl, rfl⟩ := Prod.mk.inj (Option.some.inj h)
      exact ⟨older, rfl, List.suffix_refl _⟩
    | _ =>
      obtain ⟨older', hb, hs⟩ := ih h
      exact ⟨older', hb, hs.trans (List.suffix_cons _ _)⟩

/-- Every call of `parameter_transitions` gets the union of one whole window of
patches with the desired map of the moment the window was closed. -/
theorem plan_window {parameters : ParameterMap} {q : DeviceQueue} (h : Planned parameters q) :
    Always (fun event older => ∀ s m p r, event = .planned s m p r → ∃ before,
      beforeTake older = some before ∧ m = Delta.desired parameters before ∧
        p = delta (opened (entries before))) (sinceStart q.log) := by
  rw [always_iff]
  intro event older hs s m p r he
  have hlast := (always_iff _ _).mp h.plans event older hs s m p r he
  obtain ⟨before, hb, hsuf⟩ := beforeTake_of_lastTake hlast
  have htake := (always_iff _ _).mp h.takes _ before
    (hsuf.trans ((List.suffix_cons event older).trans hs)) m p rfl
  exact ⟨before, hb, htake⟩

theorem delta_accounting {q₀ q : DeviceQueue} (h : Started q₀) (he : q₀.enabled = true)
    (hrun : Runs next answering q₀ q) (hcount : patches (sinceStart q.log) < 2 ^ 64) :
    (q.pendingParameterPatch ≠ ∅ → carriers q = [q.pendingParameterPatch]) ∧
    Always (fun event older => ∀ s m p r, event = .planned s m p r → ∃ before,
      beforeTake older = some before ∧ m = Delta.desired q₀.parameters before ∧
        p = delta (opened (entries before))) (sinceStart q.log) ∧
    (closed (entries (sinceStart q.log))).flatten ++ opened (entries (sinceStart q.log)) =
      given (entries (sinceStart q.log)) ∧
    (q.urgentQueue = [] → q.normalQueue = [] → q.worker = .waiting →
      opened (entries (sinceStart q.log)) = [] ∧
      calls (sinceStart q.log) = (closed (entries (sinceStart q.log))).map delta) ∧
    PatchesAnswered q := by
  have hsteady : Runs next steady q₀ q := hrun.mono fun _ _ hs => hs.1
  have hcar := carried_run h he hsteady hcount
  refine ⟨?_, plan_window (planned_run h he hsteady hcount), flatten_closed _, ?_,
    patches_answered q⟩
  · intro hne
    rw [hcar.carried, if_neg]
    intro hnil
    exact hne (by rw [hcar.pending, hnil]; rfl)
  · intro hu hn hw
    have hnone : tickets q = [] := by simp [tickets, hu, hn, hw, held]
    constructor
    · by_contra hne
      have hc := hcar.carried
      rw [if_neg hne, carriers, hnone] at hc
      cases hc
    · have hh := handed_run h he hrun hcount
      rw [Handed, hw] at hh
      simpa [Delta.chosen] using hh.symm

def threePatches : List Action :=
  [.patch (Finmap.singleton "gain" (.int 1)) .normal, .spawn,
    .patch (Finmap.singleton "rate" (.int 2)) .urgent, .work .go, .work .go,
    .work (.state (.ok .active)), .patch (Finmap.singleton "gain" (.int 3)) .normal,
    .work (.plan (.ok []))]

theorem delta_accounting_threePatches :
    ∃ q, exec next answering threePatches (fresh true ∅).start = some q ∧
      q.pendingParameterPatch = Finmap.singleton "gain" (.int 3) ∧
      carriers q = [q.pendingParameterPatch] := by
  have hexec : exec next answering threePatches (fresh true ∅).start = some _ := rfl
  refine ⟨_, hexec, by decide, ?_⟩
  exact (delta_accounting (started_start true ∅) rfl (exec_runs threePatches hexec) (by decide)).1
    (by decide)

end DeviceManager.Planning
