import DeviceManager.Linearization
import DeviceManager.Newest

namespace DeviceManager.Overtaking

open Domain WorkerThread Queue QueueStep Log Transition History Lanes Ledger Delta Tickets Accounting
  Planning Newest Linearization

def owing : List Event → List (List Event)
  | [] => []
  | .taken _ _ :: _ => []
  | .patched patch .urgent :: h => if loneEnable patch then owing h else h :: owing h
  | _ :: h => owing h

/-- The NORMAL entries that were queued at the end of `before` and still are. -/
def stillQueued (before log : List Event) : List RequestBatch :=
  (pushed .normal (ops before)).drop (popped .normal (ops log)).length

def Overtaken (log : List Event) : Prop :=
  ∃ before ∈ owing log, ∃ batch ∈ stillQueued before log, batch.parameterRevision = none

instance (log : List Event) : Decidable (Overtaken log) :=
  inferInstanceAs (Decidable (∃ before ∈ owing log, ∃ batch ∈ stillQueued before log,
    batch.parameterRevision = none))

def HandedOver (patch : ParameterMap) (since : List Event) : Prop :=
  ∃ s m p r, .planned s m p r ∈ since ∧ ∀ key ∈ patch, key ∈ p ∧ p.lookup key = m.lookup key

/-- When the worker starts a NORMAL lifecycle batch, the values of each urgent
patch accepted while the batch was queued have been handed over. -/
def Precedes (event : Event) (older : List Event) : Prop :=
  ∀ batch, event = .dequeued .normal batch → batch.parameterRevision = none →
    ∀ since patch before, older = since ++ .patched patch .urgent :: before →
      loneEnable patch = false →
      (popped .normal (ops older)).length < (pushed .normal (ops before)).length →
      HandedOver patch since

/-- The answering steps in which no NORMAL patch takes over the delta of an
overtaking urgent one. -/
def keepsOrder (q : DeviceQueue) (action : Action) : Prop :=
  answering q action ∧
    match action with
    | .patch patch .normal => loneEnable patch = true ∨ ¬ Overtaken (sinceStart q.log)
    | _ => True

instance (q : DeviceQueue) : ∀ action, Decidable (keepsOrder q action)
  | .patch patch .normal => inferInstanceAs
    (Decidable (_ ∧ (loneEnable patch = true ∨ ¬ Overtaken (sinceStart q.log))))
  | .patch _ .urgent | .start | .stop | .join | .spawn | .enqueue _ _ | .work _ =>
    inferInstanceAs (Decidable (_ ∧ True))

def Ahead (q : DeviceQueue) : Prop :=
  (∃ patch, held q.worker = some (q.parameterRevision, patch)) ∨
    ∃ batch ∈ q.urgentQueue, batch.parameterRevision = some q.parameterRevision

theorem overtaken_mono {log log' : List Event} (h : Overtaken log')
    (ho : ∀ before ∈ owing log', before ∈ owing log)
    (hp : (popped .normal (ops log)).length ≤ (popped .normal (ops log')).length) :
    Overtaken log := by
  obtain ⟨before, hb, batch, hm, hnone⟩ := h
  exact ⟨before, ho before hb, batch, List.drop_subset_drop_left _ hp hm, hnone⟩

def ordering : Event → Bool
  | .patched _ _ | .taken _ _ | .dequeued .normal _ | .started _ => true
  | _ => false

theorem ordering_read {event : Event} (h : event.isRead = true) : ordering event = false := by
  cases event with
  | planRead | sourceRead | targetRead | safeRead | finalRead => rfl
  | _ => cases h

theorem overtaken_other {event : Event} {log : List Event} (h : ordering event = false) :
    Overtaken (event :: log) ↔ Overtaken log := by
  cases event with
  | dequeued p batch =>
    cases p with
    | normal => cases h
    | urgent => exact Iff.rfl
  | started | patched | taken => cases h
  | _ => exact Iff.rfl

/-- While a batch is overtaken, the delta is ahead of every NORMAL entry. -/
def Kept (q : DeviceQueue) : Prop := Overtaken (sinceStart q.log) → Ahead q

theorem ahead_same {q t : DeviceQueue} (h : Ahead q) (hw : held t.worker = held q.worker)
    (hr : t.parameterRevision = q.parameterRevision)
    (hu : ∀ batch ∈ q.urgentQueue, batch ∈ t.urgentQueue) : Ahead t := by
  obtain ⟨patch, hp⟩ | ⟨batch, hm, hb⟩ := h
  · exact Or.inl ⟨patch, by rw [hw, hr, hp]⟩
  · exact Or.inr ⟨batch, hu batch hm, by rw [hb, hr]⟩

theorem kept_same {q t : DeviceQueue} {e : Event} (h : Kept q) (hlog : t.log = e :: q.log)
    (he : ordering e = false) (hw : held t.worker = held q.worker)
    (hr : t.parameterRevision = q.parameterRevision)
    (hu : ∀ batch ∈ q.urgentQueue, batch ∈ t.urgentQueue) : Kept t := by
  intro ho
  refine ahead_same (h ?_) hw hr hu
  have hs : isStart e = false := by cases e <;> simp_all [ordering, isStart]
  rw [hlog, sinceStart_cons, hs, if_neg (by simp)] at ho
  exact (overtaken_other he).mp ho

theorem kept_silent {q t : DeviceQueue} (h : Kept q) (hlog : t.log = q.log)
    (hw : held t.worker = held q.worker) (hr : t.parameterRevision = q.parameterRevision)
    (hu : t.urgentQueue = q.urgentQueue) : Kept t := by
  intro ho
  rw [hlog] at ho
  exact ahead_same (h ho) hw hr fun batch hm => hu ▸ hm

theorem kept_push {q : DeviceQueue} (h : Kept q) (p : RequestPriority) (batch : RequestBatch) :
    Kept (q.push p batch) := by
  refine kept_same (e := .queued p batch) h (by simp) rfl (by simp) (by simp) ?_
  intro b hb
  cases p with
  | urgent => exact List.mem_append_left _ hb
  | normal => exact hb

theorem kept_patch {q : DeviceQueue} {patch : ParameterMap} {priority : RequestPriority}
    (hk : priority = .normal → ¬ Overtaken (sinceStart q.log)) :
    Kept ((q.merge patch priority).queuePatch patch priority) := by
  intro ho
  cases priority with
  | urgent => exact Or.inr ⟨_, List.mem_append_right _ (List.mem_singleton_self _), rfl⟩
  | normal =>
    refine (hk rfl ?_).elim
    have hlog : sinceStart ((q.merge patch .normal).queuePatch patch .normal).log =
        .queued .normal ⟨[], some (q.parameterRevision + 1),
          insertOrAssign q.pendingParameterPatch patch⟩ :: .patched patch .normal ::
            sinceStart q.log := by
      simp [DeviceQueue.queuePatch, isStart]
    rw [hlog, overtaken_other (by rfl)] at ho
    exact ho

theorem popped_dequeue (p : RequestPriority) (batch : RequestBatch) (log : List Event) :
    (popped .normal (ops log)).length ≤
      (popped .normal (ops (.dequeued p batch :: log))).length := by
  cases p <;> simp [ops, popped]

theorem kept_dequeue {q : DeviceQueue} (h : Kept q) {p : RequestPriority} {batch : RequestBatch}
    {rest : List RequestBatch} (hw : q.worker = .waiting) (hl : q.lane p = batch :: rest)
    (hu : p = .normal → q.urgentQueue = []) :
    Kept (q.pop p batch rest) ∧ (p = .normal → ¬ Overtaken (sinceStart q.log)) := by
  have hheld : held q.worker = none := congrArg held hw
  have hlog : sinceStart (q.pop p batch rest).log = .dequeued p batch :: sinceStart q.log := by
    simp [isStart]
  have hnormal : p = .normal → ¬ Overtaken (sinceStart q.log) := by
    intro hp ho
    obtain ⟨patch, hh⟩ | ⟨b, hm, -⟩ := h ho
    · rw [hheld] at hh
      cases hh
    · rw [hu hp] at hm
      cases hm
  refine ⟨?_, hnormal⟩
  intro ho
  rw [hlog] at ho
  have hold : Overtaken (sinceStart q.log) := overtaken_mono ho (fun _ hb => hb)
    (popped_dequeue p batch (sinceStart q.log))
  cases p with
  | normal => exact (hnormal rfl hold).elim
  | urgent =>
    have hl' : q.urgentQueue = batch :: rest := hl
    obtain ⟨patch, hh⟩ | ⟨b, hm, hb⟩ := h hold
    · rw [hheld] at hh
      cases hh
    · rw [hl'] at hm
      obtain rfl | hm := List.mem_cons.mp hm
      · left
        refine ⟨b.parameterPatch, ?_⟩
        rw [DeviceQueue.pop_worker, held_enter]
        simp [ticket, hb]
      · exact Or.inr ⟨b, hm, by simpa using hb⟩

theorem kept_supersede {q : DeviceQueue} (h : Kept q) {revision : UInt64} {patch : ParameterMap}
    (hw : q.worker = .examining revision patch) (hr : revision ≠ q.parameterRevision) :
    Kept (q.setWorker .superseded) := by
  intro ho
  obtain ⟨patch', hh⟩ | ha := h ho
  · rw [hw] at hh
    cases hh
    exact (hr rfl).elim
  · exact Or.inr ha

theorem kept_take (q : DeviceQueue) (patch : ParameterMap) : Kept (q.take patch) := by
  intro ho
  have hlog : sinceStart (q.take patch).log = .taken q.parameters patch :: sinceStart q.log := by
    simp [isStart]
  rw [hlog] at ho
  obtain ⟨before, hb, -⟩ := ho
  cases hb

theorem kept_step {q t : DeviceQueue} {action : Action} (h : Kept q) (hcar : Carried q)
    (hs : keepsOrder q action) (hn : next q action = some t) : Kept t := by
  cases next_move hn with
  | start | startAgain | stop | stopAgain | join => exact (steady_serving hs.1.1).elim
  | refuse | refusePatch => exact h
  | spawn hw => exact kept_silent h rfl (congrArg held hw).symm rfl rfl
  | finalize hw => exact kept_silent h rfl (congrArg held hw).symm rfl rfl
  | push requests priority => exact kept_push h priority _
  | drop patch priority hr hst he =>
    rw [steady_merge hs.1.1 hcar.enabled] at he
    cases he
  | lone patch priority hr hst he hl =>
    intro ho
    have hlog : sinceStart (q.merge patch priority).log =
        .patched patch priority :: sinceStart q.log := by simp [isStart]
    rw [hlog] at ho
    refine ahead_same (h (overtaken_mono ho ?_ le_rfl)) rfl rfl fun _ hm => hm
    intro before hb
    cases priority <;> simpa [owing, hl] using hb
  | queuePatch patch priority hr hst he hl =>
    apply kept_patch
    rintro rfl
    have hk := hs.2
    simpa [hl] using hk
  | dequeue priority batch rest hw hst hl hu => exact (kept_dequeue h hw hl hu).1
  | supersede revision patch hw hr => exact kept_supersede h hw hr
  | take patch hw => exact kept_take q patch
  | call request ret hw =>
    exact kept_same h rfl rfl (congrArg held hw).symm rfl fun _ hm => hm
  | store record ret hw =>
    exact kept_same h rfl rfl ((held_resume ret _).1.trans (congrArg held hw).symm) rfl
      fun _ hm => hm
  | read event reply hw =>
    obtain ⟨hw₁, hw₂⟩ := held_reads hw reply
    exact kept_same h rfl (ordering_read (isRead_reads hw reply)) (hw₂.trans hw₁.symm) rfl
      fun _ hm => hm
  | reply request ret reply hw =>
    exact kept_same h rfl rfl
      ((held_afterOutcome request ret reply).1.trans (congrArg held hw).symm) rfl fun _ hm => hm
  | plan state m p reply hw =>
    exact kept_same h rfl rfl
      ((held_afterPlan state m p reply).1.trans (congrArg held hw).symm) rfl fun _ hm => hm

def Answered (worker : Worker) (log : List Event) : Prop :=
  ∀ since m p before, log = since ++ .taken m p :: before →
    (∃ s r, .planned s m p r ∈ since) ∨ Delta.chosen worker = some (m, p)

theorem answered_cons {worker worker' : Worker} {log : List Event} {e : Event}
    (h : Answered worker log) (ht : ∀ m p, e ≠ .taken m p)
    (hw : ∀ m p, Delta.chosen worker = some (m, p) →
      Delta.chosen worker' = some (m, p) ∨ ∃ s r, e = .planned s m p r) :
    Answered worker' (e :: log) := by
  intro since m p before he
  cases since with
  | nil => exact (ht m p (List.cons.inj he).1).elim
  | cons e' since =>
    obtain ⟨rfl, htail⟩ := List.cons.inj he
    obtain ⟨s, r, hm⟩ | hc := h since m p before htail
    · exact Or.inl ⟨s, r, List.mem_cons_of_mem _ hm⟩
    · obtain hc | ⟨s, r, rfl⟩ := hw m p hc
      · exact Or.inr hc
      · exact Or.inl ⟨s, r, List.mem_cons_self ..⟩

theorem answered_take {worker : Worker} {log : List Event} (h : Answered worker log)
    (hn : Delta.chosen worker = none) (m p : ParameterMap) :
    Answered (.planning m p) (.taken m p :: log) := by
  intro since m' p' before he
  cases since with
  | nil =>
    obtain ⟨he, -⟩ := List.cons.inj he
    obtain ⟨rfl, rfl⟩ := Event.taken.inj he
    exact Or.inr rfl
  | cons e' since =>
    obtain ⟨rfl, htail⟩ := List.cons.inj he
    obtain ⟨s, r, hm⟩ | hc := h since m' p' before htail
    · exact Or.inl ⟨s, r, List.mem_cons_of_mem _ hm⟩
    · rw [hn] at hc
      cases hc

theorem answered_step {q t : DeviceQueue} {action : Action}
    (h : Answered q.worker (sinceStart q.log)) (hs : answering q action)
    (hn : next q action = some t) : Answered t.worker (sinceStart t.log) := by
  cases next_move hn with
  | start | startAgain | stop | stopAgain | join => exact (steady_serving hs.1).elim
  | refuse | refusePatch => exact h
  | spawn hw => simpa [Answered, hw, Delta.chosen] using h
  | finalize hw => simpa [Answered, hw, Delta.chosen] using h
  | supersede revision patch hw => simpa [Answered, hw, Delta.chosen] using h
  | push requests priority =>
    simpa [isStart] using answered_cons h (e := .queued priority _) (by simp) fun _ _ => Or.inl
  | drop patch priority =>
    simpa [isStart] using answered_cons h (e := .patched patch priority) (by simp) fun _ _ => Or.inl
  | lone patch priority =>
    simpa [isStart] using answered_cons h (e := .patched patch priority) (by simp) fun _ _ => Or.inl
  | queuePatch patch priority =>
    have hp := answered_cons h (e := .patched patch priority) (by simp) fun _ _ => Or.inl
    simpa [DeviceQueue.queuePatch, isStart] using
      answered_cons hp (e := .queued priority _) (by simp) fun _ _ => Or.inl
  | dequeue priority batch rest hw =>
    rw [hw] at h
    simpa [isStart] using answered_cons h (e := .dequeued priority batch) (by simp)
      fun _ _ hc => by cases hc
  | take patch hw =>
    simpa [isStart] using answered_take h (congrArg Delta.chosen hw) q.parameters patch
  | call request ret hw =>
    rw [hw] at h
    simpa [isStart] using answered_cons h (e := .requested request) (by simp)
      fun _ _ hc => by cases hc
  | store record ret hw =>
    rw [hw] at h
    simpa [isStart] using answered_cons h (e := .recorded record) (by simp) fun _ _ hc => by cases hc
  | read event reply hw =>
    have hne := neutral_read (isRead_reads hw reply)
    have hstart : sinceStart (event reply :: q.log) = event reply :: sinceStart q.log := by
      simp [isStart_read hw]
    simp only [DeviceQueue.record_log, DeviceQueue.setWorker_log, hstart]
    apply answered_cons h
    · intro m p he
      rw [he] at hne
      cases hne
    · intro m p hc
      obtain hch | ⟨⟨m', p', thrown, hplan, rfl⟩, -⟩ := chosen_reads hw reply
      · exact Or.inl (hch.trans hc)
      · have hthrow := hs.2
        simp [hplan, isPlanning, throws] at hthrow
  | reply request ret reply hw =>
    rw [hw] at h
    simpa [isStart] using answered_cons h (e := .replied reply) (by simp) fun _ _ hc => by cases hc
  | plan state m p reply hw =>
    rw [hw] at h
    simp only [DeviceQueue.record_log, DeviceQueue.setWorker_log, sinceStart_cons, isStart,
      Bool.false_eq_true, if_false]
    apply answered_cons h (by simp)
    intro m' p' hc
    obtain ⟨rfl, rfl⟩ := Prod.mk.inj (Option.some.inj hc)
    exact Or.inr ⟨state, reply, rfl⟩

theorem ops_append (since before : List Event) :
    ops (since ++ before) = ops since ++ ops before := by
  induction since with
  | nil => rfl
  | cons event since ih => cases event <;> simp [ops, ih]

theorem pushed_append (p : RequestPriority) (since before : List (Op RequestPriority RequestBatch)) :
    pushed p (since ++ before) = pushed p before ++ pushed p since := by
  induction since with
  | nil => simp [pushed]
  | cons op since ih =>
    cases op with
    | push p' a => by_cases hp : p' = p <;> simp [pushed, hp, ih]
    | pop p' a => simp [pushed, ih]

/-- The front of the NORMAL lane is still queued from every history that reaches it. -/
theorem front_stillQueued {q : DeviceQueue} (h : Lined sinceStart q) {batch : RequestBatch}
    {rest : List RequestBatch} (hl : q.lane .normal = batch :: rest) {since before : List Event}
    (hlog : sinceStart q.log = since ++ before)
    (hlt : (popped .normal (ops (sinceStart q.log))).length < (pushed .normal (ops before)).length) :
    batch ∈ stillQueued before (sinceStart q.log) := by
  have hpushed := pushed_eq h.orderly .normal
  rw [← h.lanes .normal, hl] at hpushed
  have hsplit : pushed .normal (ops (sinceStart q.log)) =
      pushed .normal (ops before) ++ pushed .normal (ops since) := by
    rw [hlog, ops_append, pushed_append]
  rw [hsplit] at hpushed
  have hdrop : stillQueued before (sinceStart q.log) ++ pushed .normal (ops since) =
      batch :: rest := by
    rw [stillQueued, ← List.drop_append_of_le_length hlt.le, hpushed, List.drop_left]
  cases hs : stillQueued before (sinceStart q.log) with
  | nil =>
    rw [stillQueued, List.drop_eq_nil_iff] at hs
    omega
  | cons b bs =>
    rw [hs, List.cons_append] at hdrop
    rw [(List.cons.inj hdrop).1]
    exact List.mem_cons_self ..

/-- An urgent patch is still open, or a take has closed its window. -/
theorem open_or_taken (patch : ParameterMap) (before since : List Event)
    (hl : loneEnable patch = false) :
    (before ∈ owing (since ++ .patched patch .urgent :: before) ∧
      (patch, .urgent) ∈ opened (entries (since ++ .patched patch .urgent :: before))) ∨
    ∃ since₂ m p since₁, since = since₂ ++ .taken m p :: since₁ ∧
      (patch, .urgent) ∈ opened (entries (since₁ ++ .patched patch .urgent :: before)) := by
  induction since with
  | nil => exact Or.inl (by simp [owing, entries, opened, hl])
  | cons event since ih =>
    obtain ⟨ho, hopen⟩ | ⟨since₂, m, p, since₁, rfl, hopen⟩ := ih
    · cases event with
      | taken m p => exact Or.inr ⟨[], m, p, since, rfl, hopen⟩
      | patched patch' priority =>
        refine Or.inl ⟨?_, ?_⟩
        · cases priority with
          | normal => exact ho
          | urgent =>
            cases hl' : loneEnable patch' with
            | true => simpa [owing, hl'] using ho
            | false => simp [owing, hl', ho]
        · cases hl' : loneEnable patch' <;> simp [entries, opened, hl', hopen]
      | dequeued p batch => exact Or.inl ⟨ho, hopen⟩
      | _ => exact Or.inl ⟨ho, hopen⟩
    · exact Or.inr ⟨event :: since₂, m, p, since₁, rfl, hopen⟩

theorem precedes_dequeue {parameters : ParameterMap} {q : DeviceQueue} (hk : Kept q)
    (ha : Answered q.worker (sinceStart q.log)) (hp : Planned parameters q)
    (hg : Gated (sinceStart q.log)) (hline : Lined sinceStart q) {p : RequestPriority}
    {batch : RequestBatch}
    {rest : List RequestBatch} (hw : q.worker = .waiting) (hl : q.lane p = batch :: rest)
    (hu : p = .normal → q.urgentQueue = []) :
    Precedes (.dequeued p batch) (sinceStart q.log) := by
  intro batch' he hlife since patch before hlog hlone hlt
  obtain ⟨rfl, rfl⟩ := Event.dequeued.inj he
  have hnot := (kept_dequeue hk hw hl hu).2 rfl
  have hlog' : sinceStart q.log = (since ++ [.patched patch .urgent]) ++ before := by simp [hlog]
  obtain ⟨ho, -⟩ | ⟨since₂, m, d, since₁, rfl, hopen⟩ := open_or_taken patch before since hlone
  · rw [← hlog] at ho
    exact (hnot ⟨before, ho, batch, front_stillQueued hline hl hlog' hlt, hlife⟩).elim
  · have htail : sinceStart q.log =
        since₂ ++ .taken m d :: (since₁ ++ .patched patch .urgent :: before) := by
      simp [hlog]
    have hsuf : .taken m d :: (since₁ ++ .patched patch .urgent :: before) <:+ sinceStart q.log :=
      ⟨since₂, htail.symm⟩
    obtain ⟨s, r, hm⟩ | hc := ha since₂ m d _ htail
    · refine ⟨s, m, d, r, List.mem_append_left _ hm, ?_⟩
      obtain ⟨rfl, rfl⟩ := (always_iff _ _).mp hp.takes _ _ hsuf m d rfl
      intro key hkey
      have hmem := (mem_delta _ key).mpr ⟨_, hopen, hkey⟩
      exact ⟨hmem, delta_newest parameters
        (gated_suffix hg ((List.suffix_cons _ _).trans hsuf)) hmem⟩
    · rw [hw] at hc
      cases hc

theorem precedes_other {e : Event} (older : List Event) (h : ∀ b, e ≠ .dequeued .normal b) :
    Precedes e older := fun batch he _ => (h batch he).elim

structure Ordered (parameters : ParameterMap) (q : DeviceQueue) : Prop where
  carried : Carried q
  planned : Planned parameters q
  gated : Gated (sinceStart q.log)
  lined : Lined sinceStart q
  kept : Kept q
  answered : Answered q.worker (sinceStart q.log)
  precedes : Always Precedes (sinceStart q.log)

theorem ordered_started {q : DeviceQueue} (h : Started q) (he : q.enabled = true) :
    Ordered q.parameters q := by
  obtain ⟨older, hlog⟩ := h.log
  have hnil : sinceStart q.log = [] := by simp [hlog, isStart]
  refine ⟨carried_started h he, planned_started h, ?_, lined_started h, ?_, ?_, ?_⟩
  · simp [hnil, Gated]
  · rintro ⟨before, hb, -⟩
    simp [hnil, owing] at hb
  · intro since m p before hs
    simp [hnil] at hs
  · simp [hnil]

theorem precedes_step {parameters : ParameterMap} {q t : DeviceQueue} {action : Action}
    (h : Ordered parameters q) (hs : keepsOrder q action) (hn : next q action = some t) :
    Always Precedes (sinceStart t.log) := by
  have hp := h.precedes
  cases next_move hn with
  | start | startAgain | stop | stopAgain | join => exact (steady_serving hs.1.1).elim
  | dequeue priority batch rest hw hst hl hu =>
    have hd := precedes_dequeue h.kept h.answered h.planned h.gated h.lined hw hl hu
    simpa [isStart, hp] using hd
  | read event reply hw =>
    have hne : ∀ b, event reply ≠ .dequeued .normal b := by
      intro b he
      have hread := isRead_reads hw reply
      rw [he] at hread
      cases hread
    simpa [isStart_read hw, hp] using precedes_other (sinceStart q.log) hne
  | queuePatch patch priority =>
    simp [DeviceQueue.queuePatch, isStart, hp, precedes_other]
  | _ => simp [isStart, hp, precedes_other]

theorem ordered_run {q₀ q : DeviceQueue} (h : Started q₀) (he : q₀.enabled = true)
    (hrun : Runs next keepsOrder q₀ q) (hcount : patches (sinceStart q.log) < 2 ^ 64) :
    Ordered q₀.parameters q := by
  refine hrun.invariant (I := fun q => patches (sinceStart q.log) < 2 ^ 64 →
    Ordered q₀.parameters q) (fun _ => ordered_started h he) ?_ hcount
  intro s a t ih hs hn ht
  have ho := ih ((patches_le hs.1.1 hn).trans_lt ht)
  exact ⟨carried_step ho.carried hs.1.1 hn ht, planned_step ho.planned ho.carried hs.1.1 hn,
    gated_step ho.gated hs.1.1 hn, lined_step window_sinceStart ho.lined (steady_serving hs.1.1) hn,
    kept_step ho.kept ho.carried hs hn, answered_step ho.answered hs.1 hn, precedes_step ho hs hn⟩

theorem urgent_precedes {q₀ q : DeviceQueue} (h : Started q₀) (he : q₀.enabled = true)
    (hrun : Runs next keepsOrder q₀ q) (hcount : patches (sinceStart q.log) < 2 ^ 64) :
    Always Precedes (sinceStart q.log) ∧ PatchesAnswered q :=
  ⟨(ordered_run h he hrun hcount).precedes, patches_answered q⟩

def shutDown : TransitionRequest := ⟨.active, .inactive, ∅⟩

def normalPatch : List Action :=
  [.enqueue [shutDown] .normal, .patch (Finmap.singleton "gain" (.int 1)) .urgent,
    .patch (Finmap.singleton "rate" (.int 2)) .normal, .spawn, .work .go, .work .go,
    .work (.state (.ok .active)), .work .go, .work .go]

theorem urgent_precedes_normalPatch :
    ∃ q, exec next answering normalPatch (fresh true ∅).start = some q ∧
      ¬ Always Precedes (sinceStart q.log) := by
  refine ⟨_, rfl, fun hall => ?_⟩
  obtain ⟨s, m, p, r, hm, -⟩ := hall.1 ⟨[shutDown], none, ∅⟩ rfl rfl
    [.recorded _, .safeRead _, .dequeued _ _, .queued _ _, .patched _ _, .queued _ _]
    (Finmap.singleton "gain" (.int 1)) _ rfl (by decide) (by decide)
  simp at hm

def urgentPatches : List Action :=
  [.enqueue [shutDown] .normal, .patch (Finmap.singleton "gain" (.int 1)) .urgent,
    .patch (Finmap.singleton "rate" (.int 2)) .urgent, .spawn, .work .go, .work .go,
    .work (.state (.ok .active)), .work .go, .work .go, .work .go, .work (.state (.ok .active)),
    .work (.plan (.ok [])), .work .go]

theorem urgent_precedes_urgentPatches :
    ∃ q, exec next keepsOrder urgentPatches (fresh true ∅).start = some q ∧
      Always Precedes (sinceStart q.log) := by
  have hexec : exec next keepsOrder urgentPatches (fresh true ∅).start = some _ := rfl
  exact ⟨_, hexec, (urgent_precedes (started_start true ∅) rfl (exec_runs urgentPatches hexec)
    (by decide)).1⟩

end DeviceManager.Overtaking
