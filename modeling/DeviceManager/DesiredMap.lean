import DeviceManager.ManagerStep

namespace DeviceManager.DesiredMap

open Domain WorkerThread Transition Queue QueueStep Manager ManagerStep

/-- The patches of a device that were accepted, newest first. -/
def acceptedPatches (id : String) : List (Submission × SubmissionResult) → List ParameterMap
  | [] => []
  | (.patch id' values _, result) :: older =>
    if id' = id ∧ result.accepted = true then values :: acceptedPatches id older
    else acceptedPatches id older
  | (.enqueue _ _ _, _) :: older => acceptedPatches id older

/-- The map after the patches, the newest of which comes first. -/
def mergeAll (initial : ParameterMap) (patches : List ParameterMap) : ParameterMap :=
  patches.foldr (fun patch map => insertOrAssign map patch) initial

def GateAgrees (enabled : Bool) (parameters : ParameterMap) : Prop :=
  ∀ value, parameters.lookup deviceEnable = some value → value = .bool enabled

/-- `enabled_from` of the registrations. -/
def enabledFrom (parameters : ParameterMap) : Except String Bool :=
  match parameters.lookup deviceEnable with
  | none => .ok true
  | some (.bool value) => .ok value
  | some _ => .error "device.enable must be a boolean"

theorem enabledFrom_agrees {parameters : ParameterMap} {enabled : Bool}
    (h : enabledFrom parameters = .ok enabled) : GateAgrees enabled parameters := by
  intro value hv
  unfold enabledFrom at h
  rw [hv] at h
  cases value with
  | bool b => rw [Except.ok.inj h]
  | _ => cases h

theorem gateAgrees_merge {q : DeviceQueue} (h : GateAgrees q.enabled q.parameters)
    {patch : ParameterMap} (priority : RequestPriority) (hg : GateValue patch) :
    GateAgrees (q.merge patch priority).enabled (q.merge patch priority).parameters := by
  intro value hv
  rw [DeviceQueue.merge_parameters] at hv
  obtain hnone | ⟨b, hb⟩ := hg
  · have hnot : deviceEnable ∉ patch := Finmap.lookup_eq_none.mp hnone
    rw [lookup_insertOrAssign_map hnot] at hv
    simpa [hnone] using h value hv
  · have hmem : deviceEnable ∈ patch := Finmap.mem_iff.mpr ⟨_, hb⟩
    rw [lookup_insertOrAssign_patch hmem, hb] at hv
    simpa [hb] using (Option.some.inj hv).symm

theorem gateAgrees_step {q t : DeviceQueue} {action : Action}
    (h : GateAgrees q.enabled q.parameters) (hn : Queue.next q action = some t) :
    GateAgrees t.enabled t.parameters := by
  cases next_move hn with
  | drop patch priority _ _ _ hg => exact gateAgrees_merge h priority hg
  | lone patch priority _ _ _ _ hg => exact gateAgrees_merge h priority hg
  | queuePatch patch priority _ _ _ _ hg =>
    simpa [DeviceQueue.queuePatch] using gateAgrees_merge h priority hg
  | _ => simpa using h

theorem gateAgrees_run {q t : DeviceQueue} (h : GateAgrees q.enabled q.parameters)
    (hrun : Runs Queue.next free q t) : GateAgrees t.enabled t.parameters :=
  hrun.invariant (I := fun q => GateAgrees q.enabled q.parameters) h
    fun _ _ _ hs _ hn => gateAgrees_step hs hn

/-- No step of a device but a patch touches the desired map. -/
theorem parameters_step {q t : DeviceQueue} {action : Action}
    (hn : Queue.next q action = some t) (ha : ∀ patch priority, action ≠ .patch patch priority) :
    t.parameters = q.parameters := by
  cases next_move hn with
  | drop patch priority | lone patch priority | queuePatch patch priority =>
    exact (ha patch priority rfl).elim
  | _ => simp

theorem parameters_follows {q t : DeviceQueue} (h : Follows internal q t) :
    t.parameters = q.parameters := by
  obtain rfl | ⟨action, ha, hn⟩ := h
  · rfl
  · apply parameters_step hn
    rintro patch priority rfl
    exact ha

theorem patch_parameters {q : DeviceQueue} (patch : ParameterMap) (priority : RequestPriority) :
    (q.enqueueParameterPatch patch priority).2.parameters =
      if (q.enqueueParameterPatch patch priority).1.accepted = true then
        insertOrAssign q.parameters patch
      else q.parameters := by
  obtain ⟨ha, hq⟩ | ⟨-, -, -, hq⟩ := enqueueParameterPatch_cases q patch priority
  · simp [ha, hq]
  · rw [hq]
    simp only [accepted, if_true, DeviceQueue.acceptPatch]
    split_ifs <;> simp [DeviceQueue.queuePatch]

theorem refused_unchanged {q t : DeviceQueue} {s : Submission}
    (hn : Queue.next q s.action = some t) (hr : (s.result q).accepted = false) : t = q := by
  cases s with
  | enqueue id requests priority =>
    obtain rfl := Option.some.inj hn
    simp only [Submission.result, DeviceQueue.enqueue] at hr ⊢
    split_ifs at hr ⊢ with hacc
    · rfl
    · cases hr
  | patch id values priority =>
    obtain rfl := Option.some.inj hn
    obtain ⟨-, hq⟩ | ⟨-, -, -, hq⟩ := enqueueParameterPatch_cases q values priority
    · exact hq
    · simp [Submission.result, hq, accepted] at hr

theorem acceptedPatches_answer (id : String) (s : Submission) (result : SubmissionResult)
    (older : List (Submission × SubmissionResult)) (h : result.accepted = false) :
    acceptedPatches id ((s, result) :: older) = acceptedPatches id older := by
  cases s <;> simp [acceptedPatches, h]

theorem check_refuses {m : Impl} {s : Submission} {result : SubmissionResult}
    (h : m.check s = some result) : result.accepted = false := by
  unfold Impl.check at h
  split at h
  · exact Option.some.inj h ▸ rfl
  · split at h
    · exact Option.some.inj h ▸ rfl
    · split at h
      · split_ifs at h <;> exact Option.some.inj h ▸ rfl
      · split_ifs at h
        exact Option.some.inj h ▸ rfl

def Merged (initial : String → ParameterMap) (m : Impl) : Prop :=
  ∀ id, (m.devices id).queue.parameters = mergeAll (initial id) (acceptedPatches id m.answers)

theorem merged_push {initial : String → ParameterMap} {m : Impl} (h : Merged initial m)
    {s : Submission} {q : DeviceQueue}
    (hq : Queue.next (m.devices s.id).queue s.action = some q) :
    Merged initial ((m.setQueue s.id q).answer s (s.result (m.devices s.id).queue)) := by
  intro id
  have hid := h id
  by_cases hs : id = s.id
  · subst hs
    cases s with
    | enqueue id requests priority =>
      have hp := parameters_step hq (by simp [Submission.action])
      simpa [Impl.setQueue, acceptedPatches, Submission.id, hp] using hid
    | patch id values priority =>
      obtain rfl := Option.some.inj hq
      simp only [Submission.id] at hid ⊢
      simp only [Impl.setQueue, Impl.answer_devices, Impl.setDevice_devices, Function.update_self,
        Device.setQueue_queue, Impl.answer_answers, Impl.setDevice_answers, acceptedPatches,
        Submission.result, true_and, patch_parameters]
      split_ifs
      · rw [hid]
        rfl
      · exact hid
  · cases s with
    | enqueue id' requests priority =>
      simpa [Impl.setQueue, acceptedPatches, hs] using hid
    | patch id' values priority =>
      have hne : id' ≠ id := fun he => hs he.symm
      simpa [Impl.setQueue, acceptedPatches, hs, hne] using hid

theorem merged_internal {initial : String → ParameterMap} {m t : Impl} {action : ManagerAction}
    (h : Merged initial m) (hm : Move m action t) (hp : action ≠ .push)
    (ha : t.answers = m.answers) : Merged initial t := by
  intro id
  have hf : Follows internal (m.devices id).queue (t.devices id).queue := by
    simpa [hp] using follows_move hm id
  rw [parameters_follows hf, ha]
  exact h id

theorem merged_answer {initial : String → ParameterMap} {m : Impl} (h : Merged initial m)
    (s : Submission) {result : SubmissionResult} (hr : result.accepted = false) :
    Merged initial (m.answer s result) := by
  intro id
  rw [Impl.answer_answers, acceptedPatches_answer id s result m.answers hr]
  exact h id

theorem merged_step {initial : String → ParameterMap} {m t : Impl} {action : ManagerAction}
    (h : Merged initial m) (hn : m.next action = some t) : Merged initial t := by
  cases manager_move hn with
  | push s owner q hs hq => exact merged_push h hq
  | refuse s result hc => exact merged_answer h s (check_refuses hc)
  | tickRefuse index s result ticks hc => exact merged_answer h s (check_refuses hc)
  | _ => exact merged_internal h (manager_move hn) (by simp) (by simp [Impl.setQueue])

theorem merged_run {initial : String → ParameterMap} {m t : Impl} (h : Merged initial m)
    (hrun : Runs Impl.next anyOrder m t) : Merged initial t :=
  hrun.invariant h fun _ _ _ hs _ hn => merged_step hs hn

def entering : ManagerAction → Bool
  | .submit _ | .ticking _ _ => true
  | _ => false

theorem entering_unchanged {m t : Impl} {action : ManagerAction} (hn : m.next action = some t)
    (he : entering action = true) : t.devices = m.devices := by
  cases manager_move hn with
  | refuse | hold | ticking | tickRefuse | tickHold => rfl
  | _ => cases he

theorem rejected_unchanged {m t : Impl} {action : ManagerAction} (hn : m.next action = some t)
    {s : Submission} {result : SubmissionResult} (ha : t.answers = (s, result) :: m.answers)
    (hr : result.accepted = false) : t.devices = m.devices := by
  cases manager_move hn with
  | refuse | tickRefuse => rfl
  | push s' owner q hs hq =>
    simp only [Impl.release_answers, Impl.answer_answers, List.cons.injEq, Prod.mk.injEq] at ha
    obtain ⟨⟨rfl, rfl⟩, -⟩ := ha
    obtain rfl := refused_unchanged hq hr
    rw [setQueue_self]
    rfl
  | _ => simp [Impl.setQueue] at ha

theorem desired_map {ids : List String} {nodup : ids.Nodup}
    {definition : String → DeviceDefinition} {m : Impl}
    (hrun : Runs Impl.next anyOrder (Impl.create ids nodup definition) m) :
    (∀ id, (m.devices id).queue.parameters =
      mergeAll (definition id).parameters (acceptedPatches id m.answers)) ∧
    (∀ id, GateAgrees (definition id).enabled (definition id).parameters →
      GateAgrees (m.devices id).queue.enabled (m.devices id).queue.parameters) ∧
    ∀ action t, m.next action = some t →
      (entering action = true → t.devices = m.devices) ∧
      ∀ s result, t.answers = (s, result) :: m.answers → result.accepted = false →
        t.devices = m.devices := by
  refine ⟨?_, ?_, ?_⟩
  · have hstart : Merged (fun id => (definition id).parameters)
        (Impl.create ids nodup definition) := fun _ => rfl
    exact merged_run hstart hrun
  · intro id hgate
    exact gateAgrees_run hgate (queue_run hrun id)
  · intro action t hn
    exact ⟨entering_unchanged hn, fun s result ha hr => rejected_unchanged hn ha hr⟩

def fourPatches : List ManagerAction :=
  launch 7 ++
  [.submit (.patch "imu" (Finmap.singleton "gain" (.int 1)) .normal), .push,
    .submit (.patch "lidar" (Finmap.singleton "gain" (.int 2)) .normal),
    .submit (.patch "imu" (Finmap.singleton "device.enable" (.int 0)) .urgent), .push,
    .submit (.patch "imu" (Finmap.singleton "device.enable" (.bool false)) .normal), .push]

theorem desired_map_fourPatches :
    ∃ m, exec Impl.next anyOrder fourPatches
        (Impl.create ["imu"] (by decide) fun _ => ⟨true, Finmap.singleton "rate" (.int 9)⟩) =
          some m ∧
      m.answers.map (fun answer => answer.2.message) =
        ["accepted", "device.enable must be a boolean", "unknown device", "accepted"] ∧
      (m.devices "imu").queue.parameters =
        mergeAll (Finmap.singleton "rate" (.int 9))
          [Finmap.singleton "device.enable" (.bool false), Finmap.singleton "gain" (.int 1)] ∧
      GateAgrees (m.devices "imu").queue.enabled (m.devices "imu").queue.parameters := by
  have hexec : exec Impl.next anyOrder fourPatches (Impl.create ["imu"] (by decide)
      fun _ => ⟨true, Finmap.singleton "rate" (.int 9)⟩) = some _ := rfl
  obtain ⟨hmap, hgate, -⟩ := desired_map (exec_runs fourPatches hexec)
  exact ⟨_, hexec, rfl, hmap "imu", hgate "imu" (enabledFrom_agrees (by decide))⟩

end DeviceManager.DesiredMap
