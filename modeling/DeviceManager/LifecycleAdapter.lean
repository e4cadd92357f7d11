import DeviceManager.Domain
import DeviceManager.Fallible
import DeviceManager.Transition

namespace DeviceManager.LifecycleAdapter

open Domain Transition Fallible

/-- `lifecycle_state`, over the constants of `lifecycle_msgs::msg::State`. -/
def lifecycleState (state : UInt8) : LifecycleState :=
  match state with
  | 1 => .unconfigured
  | 2 => .inactive
  | 3 => .active
  | 4 => .finalized
  | 10 => .configuring
  | 11 => .cleaningUp
  | 12 => .shuttingDown
  | 13 => .activating
  | 14 => .deactivating
  | 15 => .errorProcessing
  | _ => .unknown

/-- `transition_id`, over the constants of `lifecycle_msgs::msg::Transition`. -/
def transitionId (source target : LifecycleState) : Option UInt8 :=
  match source, target with
  | .unconfigured, .inactive => some 1
  | .inactive, .unconfigured => some 2
  | .inactive, .active => some 3
  | .active, .inactive => some 4
  | .unconfigured, .finalized => some 5
  | .inactive, .finalized => some 6
  | .active, .finalized => some 7
  | _, _ => none

/-- What the services of the managed node do in one request. A `none` is a future that
is not ready when the timeout passes. -/
structure Services where
  setParametersReady : Reply Bool
  setParameters : ParameterMap → Reply (Option (List (Bool × String)))
  changeStateReady : Reply Bool
  changeState : UInt8 → Reply (Option Bool)
  getStateReady : Reply Bool
  getState : Reply (Option UInt8)

/-- The block on `request.parameters`, with the outcome it returns early. -/
def Services.sendParameters (services : Services) (request : TransitionRequest) :
    Reply (Option TransitionOutcome) :=
  if request.parameters = ∅ then .ok none
  else if request.fromState ≠ .unconfigured ∨ request.targetState ≠ .inactive then
    .ok (some ⟨.failure, "parameters are only valid for configure"⟩)
  else do
    if !(← services.setParametersReady) then
      return some ⟨.error, "set_parameters service unavailable"⟩
    match ← services.setParameters request.parameters with
    | none => return some ⟨.error, "set_parameters request timed out"⟩
    | some results =>
      return (results.find? fun result => !result.1).map fun result => ⟨.failure, result.2⟩

/-- The rest of `request_transition`, with the state it writes to the cache. -/
def Services.changeTo (services : Services) (id : UInt8) (target : LifecycleState) :
    Reply (TransitionOutcome × Option UInt8) := do
  if !(← services.changeStateReady) then
    return (⟨.error, "change_state service unavailable"⟩, none)
  match ← services.changeState id with
  | none => return (⟨.error, "change_state request timed out"⟩, none)
  | some false => return (⟨.failure, "lifecycle transition rejected"⟩, none)
  | some true =>
    if !(← services.getStateReady) then
      return (⟨.error, "get_state service unavailable after transition"⟩, none)
    match ← services.getState with
    | none => return (⟨.error, "get_state request timed out after transition"⟩, none)
    | some actual =>
      if lifecycleState actual ≠ target then
        return (⟨.failure, "lifecycle target state was not reached"⟩, some actual)
      else return (⟨.success, "lifecycle transition succeeded"⟩, some actual)

def requestTransition (services : Services) (request : TransitionRequest) :
    Reply (TransitionOutcome × Option UInt8) :=
  match transitionId request.fromState request.targetState with
  | none => .ok (⟨.failure, "unsupported lifecycle transition"⟩, none)
  | some id => do
    match ← services.sendParameters request with
    | some outcome => return (outcome, none)
    | none => services.changeTo id request.targetState

/-- `StateCache`. -/
structure StateCache where
  value : LifecycleState
  generation : UInt64
  queryInFlight : Bool
  queryToken : UInt64
  activeQueryToken : UInt64
  queryDeadlineNs : ℤ
  queryRequestId : ℤ

/-- The history of the cache, kept newest first. No function of the source reads it. -/
inductive CacheEvent where
  | delivered (goal : UInt8)
  | confirmed (state : UInt8)
  | expired
  | issued
  | answered (number : Nat) (reply : Option UInt8)
  deriving DecidableEq

/-- The steps that increment the generation. -/
def CacheEvent.bumps : CacheEvent → Bool
  | .delivered _ | .confirmed _ | .expired => true
  | .issued | .answered _ _ => false

/-- A `get_state` request that has not been answered, with the values its callback
captures. `older` is the history before it was issued. -/
structure Query where
  generation : UInt64
  token : UInt64
  older : List CacheEvent

/-- Queries are numbered in the order in which they are issued. -/
def issues (log : List CacheEvent) : Nat := log.countP (· = .issued)

def bumped (log : List CacheEvent) : Nat := log.countP CacheEvent.bumps

def Query.number (query : Query) : Nat := issues query.older + 1

/-- A `Ros2LifecycleDriverAdapter`: its cache, with the queries in flight, oldest first. -/
structure Adapter where
  serviceTimeoutNs : ℤ
  cache : StateCache
  outstanding : List Query
  log : List CacheEvent

def Adapter.initial (serviceTimeoutNs : ℤ) : Adapter :=
  ⟨serviceTimeoutNs, ⟨.unknown, 0, false, 0, 0, 0, -1⟩, [], []⟩

/-- The branch of `refresh_state` behind the deadline. A removed request may have been
answered already, so that its callback still runs. -/
def Adapter.expire (a : Adapter) : Adapter :=
  { a with
    cache := { a.cache with
      queryRequestId := -1
      generation := a.cache.generation + 1
      queryInFlight := false }
    log := .expired :: a.log }

/-- The end of `refresh_state`, where the request is sent under this id or sending throws. -/
def Adapter.issue (a : Adapter) (now : ℤ) (sent : Option ℤ) : Adapter :=
  let token := a.cache.queryToken + 1
  let cache := { a.cache with
    queryToken := token
    activeQueryToken := token
    queryDeadlineNs := now + a.serviceTimeoutNs }
  match sent with
  | some requestId => { a with
      cache := { cache with queryInFlight := true, queryRequestId := requestId }
      outstanding := a.outstanding ++ [⟨a.cache.generation, token, a.log⟩]
      log := .issued :: a.log }
  | none => { a with
      cache := { cache with queryInFlight := false, queryRequestId := -1 }
      log := .issued :: a.log }

/-- `refresh_state`, where `ready` is `service_is_ready()`. -/
def Adapter.refreshState (a : Adapter) (ready : Bool) (now : ℤ) (sent : Option ℤ) : Adapter :=
  if !ready then a
  else if a.cache.queryInFlight then
    if now < a.cache.queryDeadlineNs then a else a.expire.issue now sent
  else a.issue now sent

/-- The callback of a query; `none` is a `future.get()` that throws. -/
def StateCache.answer (cache : StateCache) (query : Query) (reply : Option UInt8) : StateCache :=
  if cache.activeQueryToken = query.token then
    { cache with
      value := match reply with
        | some state =>
          if cache.generation = query.generation then lifecycleState state else cache.value
        | none => cache.value
      queryRequestId := -1
      queryInFlight := false }
  else cache

def Adapter.respond (a : Adapter) (index : Nat) (query : Query) (reply : Option UInt8) : Adapter :=
  { a with
    cache := a.cache.answer query reply
    outstanding := a.outstanding.eraseIdx index
    log := .answered query.number reply :: a.log }

/-- `++generation` and the write of a state that does not come from a query. -/
def Adapter.write (a : Adapter) (state : UInt8) (event : CacheEvent) : Adapter :=
  { a with
    cache := { a.cache with
      generation := a.cache.generation + 1
      value := lifecycleState state }
    log := event :: a.log }

inductive CacheAction where
  | refresh (ready : Bool) (now : ℤ) (sent : Option ℤ)
  | response (index : Nat) (reply : Option UInt8)
  | transitionEvent (goal : UInt8)
  | confirm (state : UInt8)

def Adapter.next (a : Adapter) : CacheAction → Option Adapter
  | .refresh ready now sent => some (a.refreshState ready now sent)
  | .response index reply => a.outstanding[index]?.map fun query => a.respond index query reply
  | .transitionEvent goal => some (a.write goal (.delivered goal))
  | .confirm state => some (a.write state (.confirmed state))

/-- A cache step, or `refresh_state` before the deadline. -/
inductive CacheMove (a : Adapter) : CacheAction → Adapter → Prop
  | skip (ready : Bool) (now : ℤ) (sent : Option ℤ) : CacheMove a (.refresh ready now sent) a
  | issue (now : ℤ) (sent : Option ℤ) (hf : a.cache.queryInFlight = false) :
    CacheMove a (.refresh true now sent) (a.issue now sent)
  | renew (now : ℤ) (sent : Option ℤ) (hf : a.cache.queryInFlight = true)
      (hd : a.cache.queryDeadlineNs ≤ now) :
    CacheMove a (.refresh true now sent) (a.expire.issue now sent)
  | response (index : Nat) (query : Query) (reply : Option UInt8)
      (hq : a.outstanding[index]? = some query) :
    CacheMove a (.response index reply) (a.respond index query reply)
  | deliver (goal : UInt8) : CacheMove a (.transitionEvent goal) (a.write goal (.delivered goal))
  | confirm (state : UInt8) : CacheMove a (.confirm state) (a.write state (.confirmed state))

theorem cache_move {a b : Adapter} {action : CacheAction} (h : a.next action = some b) :
    CacheMove a action b := by
  cases action with
  | refresh ready now sent =>
    obtain rfl := Option.some.inj h
    unfold Adapter.refreshState
    split
    · exact CacheMove.skip ready now sent
    · next hr =>
      have hready : ready = true := by simpa using hr
      rw [hready]
      split
      · next hf =>
        split
        · exact CacheMove.skip true now sent
        · next hd => exact CacheMove.renew now sent hf (not_lt.mp hd)
      · next hf => exact CacheMove.issue now sent (by simpa using hf)
  | response index reply =>
    obtain ⟨query, hq, rfl⟩ := Option.map_eq_some_iff.mp h
    exact CacheMove.response index query reply hq
  | transitionEvent goal => exact Option.some.inj h ▸ CacheMove.deliver goal
  | confirm state => exact Option.some.inj h ▸ CacheMove.confirm state

theorem changeTo_success {services : Services} {id : UInt8} {target : LifecycleState}
    {outcome : TransitionOutcome} {written : Option UInt8}
    (h : services.changeTo id target = .ok (outcome, written)) (hs : outcome.result = .success) :
    ∃ actual, written = some actual ∧ lifecycleState actual = target := by
  obtain ⟨ready, -, h⟩ := bind_ok h
  cases ready with
  | false =>
    cases h
    cases hs
  | true =>
    obtain ⟨change, -, h⟩ := bind_ok h
    cases change with
    | none =>
      cases h
      cases hs
    | some success =>
      cases success with
      | false =>
        cases h
        cases hs
      | true =>
        obtain ⟨ready, -, h⟩ := bind_ok h
        cases ready with
        | false =>
          cases h
          cases hs
        | true =>
          obtain ⟨state, -, h⟩ := bind_ok h
          cases state with
          | none =>
            cases h
            cases hs
          | some actual =>
            simp only [] at h
            split at h
            · cases h
              cases hs
            · next hreached =>
              cases h
              exact ⟨actual, rfl, not_not.mp hreached⟩

theorem sendParameters_result {services : Services} {request : TransitionRequest}
    {outcome : TransitionOutcome} (h : services.sendParameters request = .ok (some outcome)) :
    outcome.result ≠ .success := by
  unfold Services.sendParameters at h
  split at h
  · cases h
  · split at h
    · cases h
      exact nofun
    · obtain ⟨ready, -, h⟩ := bind_ok h
      cases ready with
      | false =>
        cases h
        exact nofun
      | true =>
        obtain ⟨results, -, h⟩ := bind_ok h
        cases results with
        | none =>
          cases h
          exact nofun
        | some results =>
          obtain ⟨result, -, rfl⟩ := Option.map_eq_some_iff.mp (Except.ok.inj h)
          exact nofun

theorem requestTransition_success {services : Services} {request : TransitionRequest}
    {outcome : TransitionOutcome} {written : Option UInt8}
    (h : requestTransition services request = .ok (outcome, written))
    (hs : outcome.result = .success) :
    ∃ actual, written = some actual ∧ lifecycleState actual = request.targetState := by
  unfold requestTransition at h
  split at h
  · cases h
    cases hs
  · obtain ⟨early, he, h⟩ := bind_ok h
    cases early with
    | none => exact changeTo_success h hs
    | some early =>
      cases h
      exact (sendParameters_result he hs).elim

end DeviceManager.LifecycleAdapter
