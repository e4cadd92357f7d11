import DeviceManager.Delta

namespace DeviceManager.Tickets

open Domain WorkerThread Queue QueueStep Delta

/-- The revision is at most `n` increments old. -/
def Aged (n : Nat) (revision current : UInt64) : Prop :=
  ∃ d, d ≤ n ∧ current = revision + UInt64.ofNat d

theorem aged_mono {n m : Nat} {revision current : UInt64} (h : Aged n revision current)
    (hnm : n ≤ m) : Aged m revision current := by
  obtain ⟨d, hd, he⟩ := h
  exact ⟨d, hd.trans hnm, he⟩

theorem aged_next {n : Nat} {revision current : UInt64} (h : Aged n revision current) :
    Aged (n + 1) revision (current + 1) := by
  obtain ⟨d, hd, rfl⟩ := h
  refine ⟨d + 1, by omega, ?_⟩
  rw [UInt64.ofNat_add, UInt64.add_assoc]
  rfl

/-- Before the counter wraps around, no older revision equals the next one. -/
theorem aged_fresh {n : Nat} {revision current : UInt64} (h : Aged n revision current)
    (hn : n + 1 < 2 ^ 64) : revision ≠ current + 1 := by
  obtain ⟨d, hd, rfl⟩ := h
  intro he
  have hnat := congrArg UInt64.toNat he
  simp only [UInt64.toNat_add, UInt64.toNat_ofNat', UInt64.toNat_one] at hnat
  have hlt := revision.toNat_lt
  omega

def ticket (batch : RequestBatch) : Option (UInt64 × ParameterMap) :=
  batch.parameterRevision.map fun revision => (revision, batch.parameterPatch)

def tickets (q : DeviceQueue) : List (UInt64 × ParameterMap) :=
  (held q.worker).toList ++ (q.urgentQueue.filterMap ticket ++ q.normalQueue.filterMap ticket)

def carriers (q : DeviceQueue) : List ParameterMap :=
  ((tickets q).filter fun t => t.1 = q.parameterRevision).map Prod.snd

theorem held_enter (batch : RequestBatch) : held (enter batch) = ticket batch := by
  unfold enter ticket
  cases batch.parameterRevision with
  | some revision => rfl
  | none => exact (held_resume _ _).1

theorem tickets_lanes {q t : DeviceQueue} (hw : held t.worker = held q.worker)
    (hl : ∀ p, t.lane p = q.lane p) : tickets t = tickets q := by
  have hu : t.urgentQueue = q.urgentQueue := hl .urgent
  have hn : t.normalQueue = q.normalQueue := hl .normal
  rw [tickets, tickets, hw, hu, hn]

theorem tickets_dequeue {q : DeviceQueue} {p : RequestPriority} {batch : RequestBatch}
    {rest : List RequestBatch} (hw : q.worker = .waiting) (hl : q.lane p = batch :: rest)
    (hu : p = .normal → q.urgentQueue = []) : tickets (q.pop p batch rest) = tickets q := by
  have hheld : held q.worker = none := by rw [hw]; rfl
  cases p with
  | urgent =>
    have hl' : q.urgentQueue = batch :: rest := hl
    simp only [tickets, hheld, hl', DeviceQueue.pop_worker, held_enter]
    cases hb : ticket batch <;> simp [DeviceQueue.pop, DeviceQueue.setLane, hb]
  | normal =>
    have hl' : q.normalQueue = batch :: rest := hl
    simp only [tickets, hheld, hl', hu rfl, DeviceQueue.pop_worker, held_enter]
    cases hb : ticket batch <;> simp [DeviceQueue.pop, DeviceQueue.setLane, hb, hu rfl]

theorem tickets_push (q : DeviceQueue) (p : RequestPriority) (batch : RequestBatch) :
    (tickets (q.push p batch)).Perm ((ticket batch).toList ++ tickets q) := by
  have hone : [batch].filterMap ticket = (ticket batch).toList := by
    cases hb : ticket batch <;> simp [hb]
  have hheld : held (q.push p batch).worker = held q.worker := by simp
  rw [tickets, tickets, hheld, ← List.append_assoc, ← List.append_assoc, ← List.append_assoc]
  cases p with
  | urgent =>
    have hl : (q.push .urgent batch).urgentQueue = q.urgentQueue ++ [batch] := rfl
    have hn : (q.push .urgent batch).normalQueue = q.normalQueue := rfl
    rw [hl, hn, List.filterMap_append, hone, ← List.append_assoc,
      List.append_assoc (ticket batch).toList]
    exact List.Perm.append_right _ List.perm_append_comm
  | normal =>
    have hl : (q.push .normal batch).urgentQueue = q.urgentQueue := rfl
    have hn : (q.push .normal batch).normalQueue = q.normalQueue ++ [batch] := rfl
    rw [hl, hn, List.filterMap_append, hone, ← List.append_assoc,
      List.append_assoc (ticket batch).toList, List.append_assoc (ticket batch).toList]
    exact List.perm_append_comm

theorem mem_tickets_push {q : DeviceQueue} {p : RequestPriority} {batch : RequestBatch}
    {t : UInt64 × ParameterMap} (h : t ∈ tickets (q.push p batch)) :
    ticket batch = some t ∨ t ∈ tickets q := by
  simpa using (tickets_push q p batch).mem_iff.mp h

theorem carriers_push {q : DeviceQueue} (p : RequestPriority) (batch : RequestBatch)
    {patch : ParameterMap} (hb : ticket batch = some (q.parameterRevision, patch))
    (hold : ∀ t ∈ tickets q, t.1 ≠ q.parameterRevision) : carriers (q.push p batch) = [patch] := by
  have hnone : ((tickets q).filter fun t => t.1 = q.parameterRevision) = [] := by
    rw [List.filter_eq_nil_iff]
    intro t ht
    simpa using hold t ht
  have hperm := ((tickets_push q p batch).filter fun t => t.1 = q.parameterRevision).map Prod.snd
  rw [List.filter_append, hnone, hb] at hperm
  have hrev : (q.push p batch).parameterRevision = q.parameterRevision := by simp
  rw [carriers, hrev]
  exact List.perm_singleton.mp (by simpa using hperm)

theorem tickets_push_none {q : DeviceQueue} {p : RequestPriority} {batch : RequestBatch}
    (hb : ticket batch = none) : tickets (q.push p batch) = tickets q := by
  cases p <;> simp [tickets, DeviceQueue.push, DeviceQueue.record, DeviceQueue.setLane,
    DeviceQueue.lane, hb]

end DeviceManager.Tickets
