import DeviceManager.StateQuery
import DeviceManager.WorkerThread

namespace DeviceManager.ConfirmedRead

open Domain Transition WorkerThread LifecycleAdapter StateQuery

/-- The query with this number is the newest one, and no message has come behind it. -/
def heard (number : Nat) : List CacheEvent → Bool
  | .issued :: older => decide (number = issues older + 1)
  | .answered _ _ :: older => heard number older
  | _ => false

/-- The last message since the confirmation has this target, if there is one, or a query
sent behind it has been answered before a newer query was sent or another message came. -/
def settled (target : LifecycleState) : List CacheEvent → Bool
  | .confirmed _ :: _ | [] => true
  | .delivered goal :: _ => decide (lifecycleState goal = target)
  | .answered number (some _) :: older => heard number older || settled target older
  | _ :: older => settled target older

def confirmedSince (a : Adapter) (query : Query) : Bool :=
  (since a query).any fun | .confirmed _ => true | _ => false

/-- No other request is made, and the node answers the queries sent since the
confirmation with the target. -/
def resting (target : LifecycleState) (a : Adapter) : CacheAction → Bool
  | .confirm _ => false
  | .response index (some state) =>
    match a.outstanding[index]? with
    | some query => confirmedSince a query || decide (lifecycleState state = target)
    | none => true
  | _ => true

theorem heard_append {older : List CacheEvent} (newer : List CacheEvent) :
    heard (issues older + 1) (newer ++ .issued :: older) = true ↔
      .issued ∉ newer ∧ ∀ event ∈ newer, event.bumps = false := by
  induction newer with
  | nil => simp [heard]
  | cons event newer ih =>
    have hfalse : event.bumps = true → ¬ (.issued ∉ event :: newer ∧
        ∀ e ∈ event :: newer, e.bumps = false) := by
      rintro hb ⟨-, hall⟩
      rw [hall event List.mem_cons_self] at hb
      cases hb
    cases event with
    | answered number reply =>
      rw [List.cons_append, heard, ih]
      simp [CacheEvent.bumps]
    | issued =>
      have hcount : issues (newer ++ .issued :: older) = issues newer + (issues older + 1) := by
        rw [issues, List.countP_append, List.countP_cons_of_pos (by simp)]
        rfl
      rw [List.cons_append, heard, hcount, decide_eq_true_eq]
      refine iff_of_false (by omega) ?_
      rintro ⟨hnot, -⟩
      exact hnot List.mem_cons_self
    | delivered goal => exact iff_of_false Bool.false_ne_true (hfalse rfl)
    | confirmed state => exact iff_of_false Bool.false_ne_true (hfalse rfl)
    | expired => exact iff_of_false Bool.false_ne_true (hfalse rfl)

/-- The response of a recent query is written exactly when the query is still heard. -/
theorem heard_iff {a : Adapter} (h : Numbered a) {query : Query} (hq : query ∈ a.outstanding)
    (hr : recent a query) : heard query.number a.log = true ↔
      a.cache.activeQueryToken = query.token ∧ a.cache.generation = query.generation := by
  have happend := @heard_append query.older (since a query)
  rw [← log_since (h.query query hq).1] at happend
  rw [token_iff h hq hr, newest_iff h hq, generation_iff h hq hr]
  exact happend

theorem answer_heard {cache : StateCache} {query : Query}
    (h : cache.activeQueryToken = query.token ∧ cache.generation = query.generation)
    (state : UInt8) : (cache.answer query (some state)).value = lifecycleState state := by
  unfold StateCache.answer
  rw [if_pos h.1]
  exact if_pos h.2

theorem answer_unheard {cache : StateCache} {query : Query}
    (h : ¬ (cache.activeQueryToken = query.token ∧ cache.generation = query.generation))
    (reply : Option UInt8) : (cache.answer query reply).value = cache.value := by
  by_contra hv
  exact h (answer_value hv)

theorem answer_none (cache : StateCache) (query : Query) :
    (cache.answer query none).value = cache.value := by
  unfold StateCache.answer
  split <;> rfl

structure Confirmed (target : LifecycleState) (a : Adapter) : Prop where
  coherent : Coherent a
  value : a.cache.value = target ↔ settled target a.log = true

theorem settled_issue {target : LifecycleState} (a : Adapter) (now : ℤ) (sent : Option ℤ) :
    (a.issue now sent).cache.value = a.cache.value ∧
      settled target (a.issue now sent).log = settled target a.log := by
  cases sent <;> exact ⟨rfl, rfl⟩

theorem confirmed_response {target : LifecycleState} {a : Adapter} (h : Confirmed target a)
    {index : Nat} {query : Query} (hq : a.outstanding[index]? = some query) (hr : recent a query)
    {reply : Option UInt8} (ha : resting target a (.response index reply) = true) :
    (a.cache.answer query reply).value = target ↔
      settled target (.answered query.number reply :: a.log) = true := by
  have hm : query ∈ a.outstanding := List.mem_of_getElem? hq
  have hheard := heard_iff h.coherent.toNumbered hm hr
  cases reply with
  | none =>
    rw [answer_none]
    exact h.value
  | some state =>
    cases hh : heard query.number a.log with
    | false =>
      rw [answer_unheard (fun hb => Bool.false_ne_true (hh.symm.trans (hheard.mpr hb))), h.value]
      simp [settled, hh]
    | true =>
      have hboth := hheard.mp hh
      have hsince := (generation_iff h.coherent.toNumbered hm hr).mp hboth.2
      have hnone : confirmedSince a query = false := by
        rw [confirmedSince, List.any_eq_false]
        intro event he
        cases event with
        | confirmed state => cases hsince _ he
        | _ => simp
      have hstate : lifecycleState state = target := by
        simpa [resting, hq, hnone] using ha
      rw [answer_heard hboth]
      simp [settled, hh, hstate]

theorem confirmed_step {target : LifecycleState} {a b : Adapter} {action : CacheAction}
    (h : Confirmed target a) (ht : timely a action = true) (ha : resting target a action = true)
    (hn : a.next action = some b) : Confirmed target b := by
  refine ⟨coherent_step h.coherent ht hn, ?_⟩
  cases cache_move hn with
  | skip ready now sent => exact h.value
  | issue now sent hf =>
    obtain ⟨hv, hs⟩ := settled_issue a now sent
    rw [hv, hs]
    exact h.value
  | renew now sent hf hd =>
    obtain ⟨hv, hs⟩ := settled_issue a.expire now sent
    rw [hv, hs]
    exact h.value
  | response index query reply hq =>
    refine confirmed_response h hq ?_ ha
    simpa [timely, hq] using ht
  | deliver goal => exact (decide_eq_true_iff).symm
  | confirm state => cases ha

/-- The core records a confirmed transition as a success exactly when the messages delivered
since the confirmation leave the target standing. -/
theorem confirmed_recorded (serviceTimeoutNs : ℤ) {a s : Adapter} {services : Services}
    {request : TransitionRequest} {outcome : TransitionOutcome} {state : UInt8}
    (h : Runs Adapter.next (fun a action => timely a action = true)
      (Adapter.initial serviceTimeoutNs) a)
    (hcall : requestTransition services request = .ok (outcome, some state))
    (hsuccess : outcome.result = .success)
    (hrun : Runs Adapter.next
      (fun a action => timely a action = true ∧ resting request.targetState a action = true)
      (a.write state (.confirmed state)) s) :
    (s.cache.value = request.targetState ↔ settled request.targetState s.log = true) ∧
    ((outcomeRecord request outcome s.cache.value).result = .success ↔
      settled request.targetState s.log = true) := by
  obtain ⟨actual, he, hreached⟩ := requestTransition_success hcall hsuccess
  obtain rfl := Option.some.inj he
  have hstart : Confirmed request.targetState (a.write state (.confirmed state)) :=
    ⟨coherent_write (coherent_run h) state rfl, iff_of_true hreached rfl⟩
  have hs := hrun.invariant hstart fun _ _ _ hi ha hn => confirmed_step hi ha.1 ha.2 hn
  refine ⟨hs.value, ?_⟩
  rw [succeeded_iff_outcome, ← hs.value]
  exact and_iff_right hsuccess

def prompt : Services :=
  ⟨.ok true, fun _ => .ok (some []), .ok true, fun _ => .ok (some true), .ok true, .ok (some 2)⟩

def configure : TransitionRequest := ⟨.unconfigured, .inactive, ∅⟩

def configured : TransitionOutcome := ⟨.success, "lifecycle transition succeeded"⟩

theorem configures : requestTransition prompt configure = .ok (configured, some 2) := rfl

def informed : Adapter :=
  ((Adapter.initial 1000000000).refreshState true 0 (some 1)).respond 0 ⟨0, 1, []⟩ (some 1)

theorem exec_informed : exec Adapter.next (fun a action => timely a action = true)
    [.refresh true 0 (some 1), .response 0 (some 1)] (Adapter.initial 1000000000) =
      some informed := rfl

/-- Both messages arrive before the read. -/
theorem confirmed_recorded_bothMessages :
    ∃ s, exec Adapter.next
        (fun a action => timely a action = true ∧ resting .inactive a action = true)
        [.transitionEvent 10, .transitionEvent 2, .refresh true 1 (some 2)]
        (informed.write 2 (.confirmed 2)) = some s ∧
      (outcomeRecord configure configured s.cache.value).result = .success := by
  have hexec : exec Adapter.next
      (fun a action => timely a action = true ∧ resting .inactive a action = true)
      [.transitionEvent 10, .transitionEvent 2, .refresh true 1 (some 2)]
      (informed.write 2 (.confirmed 2)) = some _ := rfl
  refine ⟨_, hexec, ?_⟩
  exact (confirmed_recorded 1000000000 (exec_runs _ exec_informed) configures rfl
    (exec_runs _ hexec)).2.mpr rfl

/-- The goals of the messages that the managed node publishes for a transition: the
transitional state and the final one. -/
def published (id : UInt8) : List UInt8 :=
  match id with
  | 1 => [10, 2]
  | 2 => [11, 1]
  | 3 => [13, 3]
  | 4 => [14, 2]
  | 5 | 6 | 7 => [12, 4]
  | _ => []

def delivered : List CacheEvent → List UInt8
  | .delivered goal :: older => delivered older ++ [goal]
  | .confirmed _ :: _ | [] => []
  | _ :: older => delivered older

/-- The first of the two messages arrives between the reply of the services and the read. -/
theorem confirmed_unseen :
    Runs Adapter.next (fun a action => timely a action = true) (Adapter.initial 1000000000)
      informed ∧
    requestTransition prompt configure = .ok (configured, some 2) ∧
    ∃ s, exec Adapter.next
        (fun a action => timely a action = true ∧ resting .inactive a action = true)
        [.transitionEvent 10, .refresh true 1 (some 2)] (informed.write 2 (.confirmed 2)) = some s ∧
      delivered s.log <+: published 1 ∧ s.cache.value = .configuring ∧
      outcomeRecord configure configured s.cache.value = ⟨configure, .failure, false, .configuring,
        "runtime reported success without reaching the target state"⟩ :=
  ⟨exec_runs _ exec_informed, configures, _, rfl, ⟨[2], rfl⟩, rfl, rfl⟩

end DeviceManager.ConfirmedRead
