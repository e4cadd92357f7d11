import DeviceManager.Tickets

namespace DeviceManager.Accounting

open Domain WorkerThread Queue QueueStep Log Transition History Ledger Delta Tickets

def steady (q : DeviceQueue) : Action → Prop
  | .patch patch _ => patch.lookup deviceEnable ≠ some (.bool false)
  | action => serving q action

instance (q : DeviceQueue) : ∀ action, Decidable (steady q action)
  | .patch patch _ => inferInstanceAs (Decidable (patch.lookup deviceEnable ≠ some (.bool false)))
  | .start | .stop | .join => inferInstanceAs (Decidable False)
  | .spawn | .enqueue _ _ | .work _ => inferInstanceAs (Decidable True)

theorem steady_serving {q : DeviceQueue} {action : Action} (h : steady q action) :
    serving q action := by
  cases action with
  | patch => trivial
  | _ => exact h

theorem steady_merge {q : DeviceQueue} {patch : ParameterMap} {priority : RequestPriority}
    (h : steady q (.patch patch priority)) (he : q.enabled = true) :
    (q.merge patch priority).enabled = true := by
  rw [DeviceQueue.merge_enabled]
  split
  · next value hv =>
    cases value with
    | true => rfl
    | false => exact (h hv).elim
  · exact he

structure Carried (q : DeviceQueue) : Prop where
  enabled : q.enabled = true
  pending : q.pendingParameterPatch = delta (opened (entries (sinceStart q.log)))
  aged : ∀ t ∈ tickets q, Aged (patches (sinceStart q.log)) t.1 q.parameterRevision
  carried : carriers q =
    if opened (entries (sinceStart q.log)) = [] then [] else [q.pendingParameterPatch]

theorem carried_started {q : DeviceQueue} (h : Started q) (he : q.enabled = true) : Carried q := by
  obtain ⟨older, hlog⟩ := h.log
  have hnone : tickets q = [] := by simp [tickets, h.worker, h.urgent, h.normal, held]
  constructor
  · exact he
  · simp [hlog, isStart, entries, opened, delta, h.pending]
  · simp [hnone]
  · simp [hlog, isStart, entries, opened, carriers, hnone]

theorem carried_same {q t : DeviceQueue} (h : Carried q) (he : t.enabled = q.enabled)
    (hp : t.pendingParameterPatch = q.pendingParameterPatch)
    (hr : t.parameterRevision = q.parameterRevision) (ht : tickets t = tickets q)
    (hl : entries (sinceStart t.log) = entries (sinceStart q.log))
    (hn : patches (sinceStart q.log) ≤ patches (sinceStart t.log)) : Carried t := by
  have hc : carriers t = carriers q := by rw [carriers, carriers, ht, hr]
  constructor
  · exact he.trans h.enabled
  · rw [hp, hl, h.pending]
  · rw [ht, hr]
    exact fun ticket hm => aged_mono (h.aged ticket hm) hn
  · rw [hc, hl, hp, h.carried]

theorem carried_queuePatch {q : DeviceQueue} (h : Carried q) {patch : ParameterMap}
    {priority : RequestPriority} (he : (q.merge patch priority).enabled = true)
    (hl : loneEnable patch = false) (hn : patches (sinceStart q.log) + 1 < 2 ^ 64) :
    Carried ((q.merge patch priority).queuePatch patch priority) := by
  have hopen : opened (entries (sinceStart
      ((q.merge patch priority).queuePatch patch priority).log)) =
      opened (entries (sinceStart q.log)) ++ [(patch, priority)] := by
    simp [DeviceQueue.queuePatch, isStart, entries, opened, hl]
  have hcount : patches (sinceStart ((q.merge patch priority).queuePatch patch priority).log) =
      patches (sinceStart q.log) + 1 := by
    simp [DeviceQueue.queuePatch, isStart, patches]
  have hpending : ((q.merge patch priority).queuePatch patch priority).pendingParameterPatch =
      insertOrAssign q.pendingParameterPatch patch := by
    simp [DeviceQueue.queuePatch]
  have hticket : tickets ((q.merge patch priority).accumulate patch) = tickets q :=
    tickets_lanes rfl fun p => by simp
  constructor
  · simpa [DeviceQueue.queuePatch] using he
  · rw [hopen, hpending, delta_snoc, h.pending]
  · rw [hcount]
    intro t ht
    obtain hb | ht := mem_tickets_push ht
    · simp only [ticket, Option.map_some, Option.some.injEq] at hb
      subst hb
      exact ⟨0, Nat.zero_le _, by simp [DeviceQueue.queuePatch]⟩
    · rw [hticket] at ht
      simpa [DeviceQueue.queuePatch] using aged_next (h.aged t ht)
  · rw [hopen, hpending, if_neg (by simp)]
    refine carriers_push priority _ rfl ?_
    intro t ht
    rw [hticket] at ht
    exact aged_fresh (h.aged t ht) hn

theorem tickets_examining {q : DeviceQueue} {revision : UInt64} {patch : ParameterMap}
    {worker : Worker} (hw : q.worker = .examining revision patch) (hn : held worker = none) :
    tickets q = (revision, patch) :: tickets (q.setWorker worker) := by
  have hheld : held q.worker = some (revision, patch) := congrArg held hw
  simp [tickets, hheld, hn, DeviceQueue.setWorker]

theorem carried_supersede {q : DeviceQueue} (h : Carried q) {revision : UInt64}
    {patch : ParameterMap} (hw : q.worker = .examining revision patch)
    (hr : revision ≠ q.parameterRevision) : Carried (q.setWorker .superseded) := by
  have ht : tickets q = (revision, patch) :: tickets (q.setWorker .superseded) :=
    tickets_examining hw rfl
  have hc : carriers (q.setWorker .superseded) = carriers q := by
    simp [carriers, ht, hr]
  constructor
  · exact h.enabled
  · exact h.pending
  · intro t hm
    exact h.aged t (by rw [ht]; exact List.mem_cons_of_mem _ hm)
  · rw [hc]
    exact h.carried

/-- What a take takes is the pending map, and it leaves no carrier. -/
theorem carried_take {q : DeviceQueue} (h : Carried q) {patch : ParameterMap}
    (hw : q.worker = .examining q.parameterRevision patch) :
    patch = q.pendingParameterPatch ∧ Carried (q.take patch) := by
  have ht : tickets q = (q.parameterRevision, patch) ::
      tickets (q.setWorker (.planning q.parameters patch)) := tickets_examining hw rfl
  have htake : tickets (q.take patch) = tickets (q.setWorker (.planning q.parameters patch)) :=
    tickets_lanes rfl fun p => by simp
  have hc : carriers q = patch :: carriers (q.take patch) := by
    simp [carriers, ht, htake]
  have hcar := h.carried
  rw [hc] at hcar
  split at hcar
  · cases hcar
  · obtain ⟨hp, hnil⟩ := List.cons.inj hcar
    refine ⟨hp, h.enabled, ?_, ?_, ?_⟩
    · simp [isStart, entries, opened, delta]
    · intro t hm
      rw [htake] at hm
      simpa [isStart, patches] using h.aged t (by rw [ht]; exact List.mem_cons_of_mem _ hm)
    · simpa [isStart, entries, opened] using hnil

theorem carried_step {q t : DeviceQueue} {action : Action} (h : Carried q)
    (hs : steady q action) (hn : next q action = some t)
    (hcount : patches (sinceStart t.log) < 2 ^ 64) : Carried t := by
  cases next_move hn with
  | start | startAgain | stop | stopAgain | join => exact (steady_serving hs).elim
  | refuse | refusePatch => exact h
  | spawn hw =>
    have ht := tickets_lanes (t := q.setWorker .waiting) (congrArg held hw).symm fun p => by simp
    exact carried_same h rfl rfl rfl ht rfl le_rfl
  | push requests priority =>
    refine carried_same h (by simp) (by simp) (by simp) (tickets_push_none rfl) ?_ ?_
    · simp [isStart, entries]
    · simp [isStart, patches]
  | drop patch priority hr hst he =>
    rw [steady_merge hs h.enabled] at he
    cases he
  | lone patch priority hr hst he hl =>
    refine carried_same h (he.trans h.enabled.symm) rfl rfl
      (tickets_lanes rfl fun p => by simp) ?_ ?_
    · simp [isStart, entries, hl]
    · simp [isStart, patches]
  | queuePatch patch priority hr hst he hl =>
    apply carried_queuePatch h he hl
    simpa [DeviceQueue.queuePatch, isStart, patches] using hcount
  | finalize hw =>
    have ht := tickets_lanes (t := q.setWorker .finalizing) (congrArg held hw).symm fun p => by simp
    exact carried_same h rfl rfl rfl ht rfl le_rfl
  | dequeue priority batch rest hw hst hl hu =>
    apply carried_same h (by simp) (by simp) (by simp) (tickets_dequeue hw hl hu)
    · simp [isStart, entries]
    · simp [isStart, patches]
  | supersede revision patch hw hr => exact carried_supersede h hw hr
  | take patch hw => exact (carried_take h hw).2
  | call request ret hw =>
    exact carried_same h rfl rfl rfl (tickets_lanes (congrArg held hw).symm fun p => by simp) rfl
      le_rfl
  | store record ret hw =>
    exact carried_same h rfl rfl rfl
      (tickets_lanes ((held_resume ret _).1.trans (congrArg held hw).symm) fun p => by simp) rfl
      le_rfl
  | read event reply hw =>
    obtain ⟨hl, hp, -⟩ := accounts_read (isRead_reads hw reply) (sinceStart q.log) ∅
    obtain ⟨hw₁, hw₂⟩ := held_reads hw reply
    refine carried_same h rfl rfl rfl (tickets_lanes (hw₂.trans hw₁.symm) fun p => by simp) ?_ ?_
    · simp [isStart_read hw, hl]
    · simp [isStart_read hw, hp]
  | reply request ret reply hw =>
    exact carried_same h rfl rfl rfl
      (tickets_lanes ((held_afterOutcome request ret reply).1.trans (congrArg held hw).symm)
        fun p => by simp) rfl le_rfl
  | plan state parameters patch reply hw =>
    exact carried_same h rfl rfl rfl
      (tickets_lanes ((held_afterPlan state parameters patch reply).1.trans (congrArg held hw).symm)
        fun p => by simp) rfl le_rfl

theorem patches_le {q t : DeviceQueue} {action : Action} (hs : steady q action)
    (hn : next q action = some t) :
    patches (sinceStart q.log) ≤ patches (sinceStart t.log) := by
  cases next_move hn with
  | start | startAgain | stop | stopAgain | join => exact (steady_serving hs).elim
  | read event reply hw =>
    obtain ⟨-, hp, -⟩ := accounts_read (isRead_reads hw reply) (sinceStart q.log) ∅
    simp [isStart_read hw, hp]
  | _ => simp [DeviceQueue.queuePatch, isStart, patches]

theorem carried_run {q₀ q : DeviceQueue} (h : Started q₀) (he : q₀.enabled = true)
    (hrun : Runs next steady q₀ q) (hcount : patches (sinceStart q.log) < 2 ^ 64) : Carried q := by
  refine hrun.invariant (I := fun q => patches (sinceStart q.log) < 2 ^ 64 → Carried q)
    (fun _ => carried_started h he) ?_ hcount
  intro s a t hc hs hn ht
  exact carried_step (hc ((patches_le hs hn).trans_lt ht)) hs hn ht

end DeviceManager.Accounting
