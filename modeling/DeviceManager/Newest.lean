import DeviceManager.Planning

namespace DeviceManager.Newest

open Domain WorkerThread Queue QueueStep Log Transition History Ledger Delta Tickets Accounting
  Planning

def Gated (log : List Event) : Prop :=
  ∀ patch priority, .patched patch priority ∈ log → deviceEnable ∈ patch →
    patch.lookup deviceEnable = some (.bool true)

theorem steady_gate {q : DeviceQueue} {patch : ParameterMap} {priority : RequestPriority}
    (hs : steady q (.patch patch priority)) (hg : GateValue patch) (hm : deviceEnable ∈ patch) :
    patch.lookup deviceEnable = some (.bool true) := by
  obtain hn | ⟨value, hv⟩ := hg
  · exact (Finmap.lookup_eq_none.mp hn hm).elim
  · cases value with
    | true => exact hv
    | false => exact (hs hv).elim

theorem gated_patched {log : List Event} (h : Gated log) {q : DeviceQueue} {patch : ParameterMap}
    {priority : RequestPriority} (hs : steady q (.patch patch priority)) (hg : GateValue patch) :
    Gated (.patched patch priority :: log) := by
  intro patch' priority' hm hk
  obtain he | hm := List.mem_cons.mp hm
  · obtain ⟨rfl, rfl⟩ := Event.patched.inj he
    exact steady_gate hs hg hk
  · exact h patch' priority' hm hk

theorem read_patched {event : Event} (h : event.isRead = true) (patch : ParameterMap)
    (priority : RequestPriority) : .patched patch priority ≠ event := by
  rintro rfl
  cases h

theorem gated_step {q t : DeviceQueue} {action : Action} (h : Gated (sinceStart q.log))
    (hs : steady q action) (hn : next q action = some t) : Gated (sinceStart t.log) := by
  cases next_move hn with
  | start | startAgain | stop | stopAgain | join => exact (steady_serving hs).elim
  | read event reply hw =>
    intro patch priority hm
    have hne := read_patched (isRead_reads hw reply) patch priority
    simp only [DeviceQueue.record_log, DeviceQueue.setWorker_log, sinceStart_cons, isStart_read hw,
      Bool.false_eq_true, if_false, List.mem_cons, hne, false_or] at hm
    exact h patch priority hm
  | drop patch priority hr hst he hg => simpa [isStart] using gated_patched h hs hg
  | lone patch priority hr hst he hl hg => simpa [isStart] using gated_patched h hs hg
  | queuePatch patch priority hr hst he hl hg =>
    have hp := gated_patched h hs hg
    simpa [DeviceQueue.queuePatch, isStart, Gated] using hp
  | _ => simpa [Gated, isStart] using h

theorem gated_run {q₀ q : DeviceQueue} (h : Started q₀) (hrun : Runs next steady q₀ q) :
    Gated (sinceStart q.log) := by
  refine hrun.invariant (I := fun q => Gated (sinceStart q.log)) ?_
    fun _ _ _ hg hs hn => gated_step hg hs hn
  obtain ⟨older, hlog⟩ := h.log
  simp [hlog, isStart, Gated]

theorem gated_older {event : Event} {log : List Event} (h : Gated (event :: log)) : Gated log :=
  fun patch priority hm => h patch priority (List.mem_cons_of_mem _ hm)

/-- While the gate stays open, a delta can only carry it open. -/
theorem delta_gate {log : List Event} (h : Gated log)
    (hm : deviceEnable ∈ delta (opened (entries log))) :
    (delta (opened (entries log))).lookup deviceEnable = some (.bool true) := by
  induction log with
  | nil => exact (Finmap.notMem_empty hm).elim
  | cons event log ih =>
    have htail := ih (gated_older h)
    cases event with
    | taken m p => exact (Finmap.notMem_empty hm).elim
    | patched patch priority =>
      cases hl : loneEnable patch with
      | true =>
        simp only [entries, hl, if_true] at hm ⊢
        exact htail hm
      | false =>
        simp only [entries, hl, Bool.false_eq_true, if_false, opened, delta_snoc] at hm ⊢
        by_cases hp : deviceEnable ∈ patch
        · rw [lookup_insertOrAssign_patch hp]
          exact h patch priority (List.mem_cons_self ..) hp
        · rw [lookup_insertOrAssign_map hp]
          exact htail (((mem_insertOrAssign _ _ _).mp hm).resolve_left hp)
    | _ => exact htail hm

/-- The open delta carries the newest desired value of each of its keys. -/
theorem delta_newest (parameters : ParameterMap) {log : List Event} (h : Gated log) {key : String}
    (hm : key ∈ delta (opened (entries log))) :
    (delta (opened (entries log))).lookup key = (desired parameters log).lookup key := by
  induction log with
  | nil => exact (Finmap.notMem_empty hm).elim
  | cons event log ih =>
    have htail := ih (gated_older h)
    cases event with
    | taken m p => exact (Finmap.notMem_empty hm).elim
    | patched patch priority =>
      have hgate := h patch priority (List.mem_cons_self ..)
      cases hl : loneEnable patch with
      | true =>
        simp only [entries, hl, if_true, desired] at hm ⊢
        by_cases hp : key ∈ patch
        · obtain rfl := loneEnable_key hl hp
          rw [lookup_insertOrAssign_patch hp, hgate hp]
          exact delta_gate (gated_older h) hm
        · rw [lookup_insertOrAssign_map hp]
          exact htail hm
      | false =>
        simp only [entries, hl, Bool.false_eq_true, if_false, opened, delta_snoc, desired] at hm ⊢
        by_cases hp : key ∈ patch
        · rw [lookup_insertOrAssign_patch hp, lookup_insertOrAssign_patch hp]
        · rw [lookup_insertOrAssign_map hp, lookup_insertOrAssign_map hp]
          exact htail (((mem_insertOrAssign _ _ _).mp hm).resolve_left hp)
    | _ => exact htail hm

theorem gated_suffix {log older : List Event} (h : Gated log) (hs : older <:+ log) : Gated older :=
  fun patch priority hm => h patch priority (hs.subset hm)

/-- Every call hands over the newest values: its patch agrees with its map. -/
theorem plan_newest {q₀ q : DeviceQueue} (h : Started q₀) (he : q₀.enabled = true)
    (hrun : Runs next steady q₀ q) (hcount : patches (sinceStart q.log) < 2 ^ 64) :
    Always (fun event _ => ∀ s m p r, event = .planned s m p r →
      ∀ key ∈ p, p.lookup key = m.lookup key) (sinceStart q.log) := by
  have hgated := gated_run h hrun
  have hplan := plan_window (planned_run h he hrun hcount)
  rw [always_iff] at hplan ⊢
  intro event older hs s m p r hevent key hkey
  obtain ⟨before, hb, rfl, rfl⟩ := hplan event older hs s m p r hevent
  have hsuf := ((beforeTake_suffix hb).trans (List.suffix_cons _ _)).trans hs
  exact delta_newest q₀.parameters (gated_suffix hgated hsuf) hkey

end DeviceManager.Newest
