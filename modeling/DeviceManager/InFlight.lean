import DeviceManager.QueueStep

namespace DeviceManager.InFlight

open Domain WorkerThread Queue QueueStep

def remaining : Return → List TransitionRequest
  | .next rest => rest
  | .exit => []

def inHand : Worker → List TransitionRequest
  | .reading request ret | .calling request ret => request :: remaining ret
  | .awaiting _ ret | .checking _ _ ret | .recovering _ _ ret | .storing _ ret => remaining ret
  | _ => []

/-- Every request on its way to the runtime satisfies `P`. -/
structure AllInFlight (P : TransitionRequest → Prop) (q : DeviceQueue) : Prop where
  hand : ∀ request ∈ inHand q.worker, P request
  lanes : ∀ p, ∀ batch ∈ q.lane p, ∀ request ∈ batch.requests, P request

def brought : Action → List TransitionRequest
  | .enqueue requests _ | .work (.plan (.ok requests)) => requests
  | _ => []

variable {P : TransitionRequest → Prop}

theorem inHand_resume (ret : Return) (h : ∀ request ∈ remaining ret, P request) (ok : Bool) :
    ∀ request ∈ inHand (ret.resume ok), P request := by
  cases ret with
  | exit => simp [Return.resume, inHand]
  | next rest =>
    cases ok with
    | false => simp [inHand]
    | true =>
      cases rest with
      | nil => simp [inHand]
      | cons request rest => exact h

theorem inHand_enter {batch : RequestBatch} (h : ∀ request ∈ batch.requests, P request) :
    ∀ request ∈ inHand (enter batch), P request := by
  unfold enter
  cases batch.parameterRevision with
  | some revision => simp [inHand]
  | none => exact inHand_resume (.next batch.requests) h true

theorem inHand_afterState {worker : Worker} {event : Reply LifecycleState → Event}
    (hr : worker.reads = some event) (h : ∀ request ∈ inHand worker, P request)
    (hf : worker = .finalizing → ∀ state, P ⟨state, .finalized, ∅⟩) (reply : Reply LifecycleState) :
    ∀ request ∈ inHand (worker.afterState reply), P request := by
  cases worker with
  | reading request ret =>
    have hrest : ∀ r ∈ remaining ret, P r := fun r hm => h r (List.mem_cons_of_mem _ hm)
    obtain he | ⟨record, -, -, he⟩ := reading_next request ret reply <;> rw [he]
    · exact h
    · exact hrest
  | finalizing =>
    obtain he | ⟨state, he⟩ := finalizing_next reply <;> rw [he]
    · exact fun _ hm => nomatch hm
    · intro request hm
      obtain rfl := List.mem_singleton.mp hm
      exact hf rfl state
  | superseded => cases reply <;> exact fun _ hm => nomatch hm
  | planning => cases reply <;> exact fun _ hm => nomatch hm
  | checking | recovering => cases reply <;> exact h
  | _ => cases hr

theorem lanes_push {B : List TransitionRequest → Prop} {q : DeviceQueue}
    (h : ∀ p, ∀ batch ∈ q.lane p, B batch.requests) (p : RequestPriority) {batch : RequestBatch}
    (hb : B batch.requests) : ∀ p', ∀ b ∈ (q.push p batch).lane p', B b.requests := by
  intro p' b hm
  rw [lane_push] at hm
  split at hm
  · obtain hm | hm := List.mem_append.mp hm
    · exact h p' b hm
    · obtain rfl := List.mem_singleton.mp hm
      exact hb
  · exact h p' b hm

/-- What holds of every submitted batch and of an empty one holds of every
queued batch. -/
theorem lanes_step {B : List TransitionRequest → Prop} {q t : DeviceQueue} {action : Action}
    (h : ∀ p, ∀ batch ∈ q.lane p, B batch.requests) (hnil : B [])
    (hb : ∀ requests priority, action = .enqueue requests priority → B requests)
    (hn : next q action = some t) : ∀ p, ∀ batch ∈ t.lane p, B batch.requests := by
  cases next_move hn with
  | start =>
    intro p
    cases p with
    | urgent => exact h .urgent
    | normal => exact h .normal
  | stop => exact fun p b hm => by cases p <;> cases hm
  | push requests priority => exact lanes_push h priority (hb requests priority rfl)
  | queuePatch patch priority =>
    have hacc : ∀ p, ∀ b ∈ ((q.merge patch priority).accumulate patch).lane p, B b.requests := by
      simpa using h
    exact lanes_push hacc priority hnil
  | dequeue priority batch rest hw hs hl =>
    intro p b hm
    rw [lane_pop] at hm
    split at hm
    · exact h priority b (hl ▸ List.mem_cons_of_mem _ hm)
    · exact h p b hm
  | _ => simpa using h

theorem hand_step {q t : DeviceQueue} {action : Action} (h : AllInFlight P q)
    (hb : ∀ request ∈ brought action, P request)
    (hf : q.worker = .finalizing → ∀ state, P ⟨state, .finalized, ∅⟩)
    (hn : next q action = some t) : ∀ request ∈ inHand t.worker, P request := by
  have hhand := h.hand
  cases next_move hn with
  | spawn | join | finalize | supersede | take => exact fun _ hm => nomatch hm
  | dequeue priority batch rest hw hs hl =>
    rw [DeviceQueue.pop_worker]
    exact inHand_enter (h.lanes priority batch (hl ▸ List.mem_cons_self ..))
  | call request ret hw =>
    rw [hw] at hhand
    exact fun r hm => hhand r (List.mem_cons_of_mem _ hm)
  | store record ret hw =>
    rw [hw] at hhand
    exact inHand_resume ret hhand _
  | read event reply hw => exact inHand_afterState hw hhand hf reply
  | reply request ret reply hw =>
    rw [hw] at hhand
    cases reply <;> exact hhand
  | plan state m p reply hw =>
    cases reply with
    | ok requests => exact inHand_resume (.next requests) hb true
    | error thrown => exact fun _ hm => nomatch hm
  | _ => simpa [DeviceQueue.queuePatch] using hhand

/-- What every brought request satisfies, every request in flight satisfies. -/
theorem inFlight_step {q t : DeviceQueue} {action : Action} (h : AllInFlight P q)
    (hb : ∀ request ∈ brought action, P request)
    (hf : q.worker = .finalizing → ∀ state, P ⟨state, .finalized, ∅⟩)
    (hn : next q action = some t) : AllInFlight P t := by
  refine ⟨hand_step h hb hf hn, lanes_step (B := fun requests => ∀ r ∈ requests, P r) h.lanes
    (fun _ hm => nomatch hm) ?_ hn⟩
  rintro requests priority rfl
  exact hb

theorem inFlight_started {q : DeviceQueue} (h : Started q) : AllInFlight P q := by
  refine ⟨by simp [h.worker, inHand], fun p => ?_⟩
  cases p <;> simp [h.urgent, h.normal]

end DeviceManager.InFlight
