import DeviceManager.BatteryDriver

namespace DeviceManager.TwsBatteryDriver

open Lockstep

def isOnlineRecord (record : BatteryStatusLogRecord) : Bool :=
  "电池上线: ".toList.isPrefixOf record.message.toList

def isOfflineRecord (record : BatteryStatusLogRecord) : Bool :=
  "电池掉线: ".toList.isPrefixOf record.message.toList

def logged (results : List BatteryPollResult) : List BatteryStatusLogRecord :=
  results.flatMap BatteryPollResult.logRecords

def onlineRecords (results : List BatteryPollResult) : ℕ := (logged results).countP isOnlineRecord

def offlineRecords (results : List BatteryPollResult) : ℕ := (logged results).countP isOfflineRecord

def Consistent (d : TwsBatteryDriver) : Prop :=
  d.statusTransitionTracker.online = d.lastSnapshot.connected

/-- The results of a call report the change of `connected`, and no other. -/
structure Matched (was : Bool) (d : TwsBatteryDriver) (results : List BatteryPollResult) : Prop where
  shown : ∀ result ∈ results, result.snapshot.connected = d.lastSnapshot.connected
  online : onlineRecords results = (!was && d.lastSnapshot.connected).toNat
  offline : offlineRecords results = (was && !d.lastSnapshot.connected).toNat
  reported : was = true → d.lastSnapshot.connected = false →
    ∃ result ∈ results, result.reportFailureEvent = true

structure Bookkept (config : BatteryDriverConfig) (calls : List Call) : Prop where
  consistent : ∀ done, done <+: calls → (after config done).Consistent
  matched : ∀ done call, done ++ [call] <+: calls →
    Matched (after config done).lastSnapshot.connected (step (after config done) call).2
      (step (after config done) call).1

/-- A `configure` that gets no connection: there is no transport, or it does not connect. -/
def Call.unconnected : Call → Bool
  | .configure _ t => !t.available
  | _ => false

theorem isOnlineRecord_status (event : BatteryStatusTransitionEvent) :
    isOnlineRecord (makeBatteryStatusLogRecord event) = (event.type = .online : Bool) := by
  unfold makeBatteryStatusLogRecord isOnlineRecord
  cases event.type <;> simp [String.toList_append, List.isPrefixOf]

theorem isOfflineRecord_status (event : BatteryStatusTransitionEvent) :
    isOfflineRecord (makeBatteryStatusLogRecord event) = (event.type = .offline : Bool) := by
  unfold makeBatteryStatusLogRecord isOfflineRecord
  cases event.type <;> simp [String.toList_append, List.isPrefixOf]

def Silent (record : BatteryStatusLogRecord) : Prop :=
  isOnlineRecord record = false ∧ isOfflineRecord record = false

theorem silent_soc (event : BatterySocTransitionEvent) : Silent (makeBatterySocLogRecord event) := by
  constructor <;>
    simp [makeBatterySocLogRecord, isOnlineRecord, isOfflineRecord, String.toList_append,
      List.isPrefixOf]

theorem silent_pollWarning (errorMessage : String) :
    Silent ⟨.warn, "电池轮询失败，暂不判定掉线: " ++ errorMessage⟩ := by
  constructor <;>
    simp [isOnlineRecord, isOfflineRecord, String.toList_append, List.isPrefixOf]

theorem silent_identity (d : TwsBatteryDriver) (t : BatteryTransport) (snapshot : BatterySnapshot) :
    ∀ record ∈ (d.readIdentitySnapshot t snapshot).1, Silent record := by
  intro record h
  unfold readIdentitySnapshot at h
  split at h
  · rw [List.mem_singleton] at h
    subst h
    constructor <;> simp [isOnlineRecord, isOfflineRecord, String.toList_append, List.isPrefixOf]
  · split at h
    · rw [List.mem_singleton] at h
      subst h
      constructor <;> simp [isOnlineRecord, isOfflineRecord, String.toList_append, List.isPrefixOf]
    · simp at h

theorem count_silent {records : List BatteryStatusLogRecord} (h : ∀ record ∈ records, Silent record) :
    records.countP isOnlineRecord = 0 ∧ records.countP isOfflineRecord = 0 := by
  constructor
  · rw [List.countP_eq_zero]
    intro record hr
    simp [(h record hr).1]
  · rw [List.countP_eq_zero]
    intro record hr
    simp [(h record hr).2]

structure Books (was : Bool) (d : TwsBatteryDriver) (results : List BatteryPollResult) : Prop where
  consistent : d.Consistent
  matched : Matched was d results

theorem logged_singleton (result : BatteryPollResult) : logged [result] = result.logRecords :=
  List.append_nil _

theorem makePollFailureResult_books {was : Bool} {d : TwsBatteryDriver} (errorMessage : String)
    (honline : d.statusTransitionTracker.online = was)
    (hshown : d.lastSnapshot.connected = true → was = true) :
    Books was (d.makePollFailureResult errorMessage).2 [(d.makePollFailureResult errorMessage).1] := by
  unfold makePollFailureResult
  dsimp only
  split_ifs with hdebounced
  · have hconnected : d.lastSnapshot.connected = true := hdebounced.1
    obtain rfl := hshown hconnected
    obtain ⟨hon, hoff⟩ := count_silent (List.forall_mem_singleton.mpr (silent_pollWarning errorMessage))
    refine ⟨honline.trans hconnected.symm, by simp, ?_, ?_, ?_⟩
    · rw [onlineRecords, logged_singleton, hon]
      rfl
    · rw [offlineRecords, logged_singleton, hoff, hconnected]
      rfl
    · intro _ hlost
      rw [hconnected] at hlost
      cases hlost
  · unfold BatteryStatusTransitionTracker.observeOffline
    rw [honline]
    cases was with
    | false =>
      refine ⟨honline, by simp, by simp [onlineRecords, logged], by simp [offlineRecords, logged], ?_⟩
      intro h
      cases h
    | true =>
      refine ⟨rfl, by simp, ?_, ?_, ?_⟩
      · simp [onlineRecords, logged, isOnlineRecord_status]
      · simp [offlineRecords, logged, isOfflineRecord_status]
      · simp

theorem observeOnline_online (tracker : BatteryStatusTransitionTracker) (workState : UInt16) :
    (tracker.observeOnline workState).2.online = true := by
  unfold BatteryStatusTransitionTracker.observeOnline
  by_cases h : tracker.online = true
  · simp only [h, Bool.not_true, Bool.false_eq_true, if_false]
    split_ifs
    · exact h
    · rfl
  · simp [h]

/-- An online event comes exactly when the battery was not online. -/
theorem observeOnline_events (tracker : BatteryStatusTransitionTracker) (workState : UInt16) :
    (tracker.observeOnline workState).1.toList.countP
        (fun event : BatteryStatusTransitionEvent => event.type = .online) =
        (!tracker.online).toNat ∧
      (tracker.observeOnline workState).1.toList.countP
        (fun event : BatteryStatusTransitionEvent => event.type = .offline) = 0 := by
  unfold BatteryStatusTransitionTracker.observeOnline
  by_cases h : tracker.online = true
  · simp only [h, Bool.not_true, Bool.false_eq_true, if_false]
    split_ifs <;> exact ⟨rfl, rfl⟩
  · simp [h]

theorem makePollResult_records (d : TwsBatteryDriver) (t : BatteryTransport)
    (snapshot : BatterySnapshot) : ∃ workState,
    onlineRecords [(d.makePollResult t snapshot).1] =
        (d.statusTransitionTracker.observeOnline workState).1.toList.countP
          (fun event : BatteryStatusTransitionEvent => event.type = .online) ∧
      offlineRecords [(d.makePollResult t snapshot).1] =
        (d.statusTransitionTracker.observeOnline workState).1.toList.countP
          (fun event : BatteryStatusTransitionEvent => event.type = .offline) := by
  have hidentity : ∀ record ∈
      (if d.identityDue then d.readIdentitySnapshot t snapshot else ([], snapshot)).1,
      Silent record := by
    split_ifs
    · exact silent_identity d t snapshot
    · simp
  have hsoc : ∀ soc, ∀ record ∈ (d.socTransitionTracker.observe soc).1.toList.map
      makeBatterySocLogRecord, Silent record := by
    intro soc record h
    obtain ⟨event, -, rfl⟩ := List.mem_map.mp h
    exact silent_soc event
  have hon : isOnlineRecord ∘ makeBatteryStatusLogRecord =
      fun event : BatteryStatusTransitionEvent => event.type = .online :=
    funext isOnlineRecord_status
  have hoff : isOfflineRecord ∘ makeBatteryStatusLogRecord =
      fun event : BatteryStatusTransitionEvent => event.type = .offline :=
    funext isOfflineRecord_status
  unfold onlineRecords offlineRecords makePollResult
  simp only [logged_singleton, List.countP_append, (count_silent hidentity).1,
    (count_silent hidentity).2, (count_silent (hsoc _)).1, (count_silent (hsoc _)).2, Nat.zero_add,
    Nat.add_zero, List.countP_map, hon, hoff]
  exact ⟨_, rfl, rfl⟩

theorem makePollResult_books {was : Bool} {d : TwsBatteryDriver} (t : BatteryTransport)
    (snapshot : BatterySnapshot) (honline : d.statusTransitionTracker.online = was) :
    Books was (d.makePollResult t snapshot).2 [(d.makePollResult t snapshot).1] := by
  obtain ⟨workState, hon, hoff⟩ := makePollResult_records d t snapshot
  obtain ⟨hon', hoff'⟩ := observeOnline_events d.statusTransitionTracker workState
  have hconnected : (d.makePollResult t snapshot).2.lastSnapshot.connected = true := rfl
  refine ⟨observeOnline_online _ _, List.forall_mem_singleton.mpr rfl, ?_, ?_, ?_⟩
  · rw [hon, hon', honline, hconnected, Bool.and_true]
  · rw [hoff, hoff', hconnected, Bool.not_true, Bool.and_false]
    rfl
  · intro _ hlost
    cases hconnected.symm.trans hlost

theorem pollOnce_books {d : TwsBatteryDriver} (t : BatteryTransport) (h : d.Consistent) :
    Books d.lastSnapshot.connected (d.pollOnce t).2 [(d.pollOnce t).1] := by
  obtain ⟨-, errorMessage, e, he, hpoll⟩ | ⟨-, errorMessage, -, hpoll⟩ | ⟨-, values, -, hpoll⟩ :=
    pollOnce_cases d t
  · obtain rfl | rfl := he
    all_goals
      rw [hpoll]
      exact makePollFailureResult_books errorMessage h (fun hshown => by cases hshown)
  · rw [hpoll]
    exact makePollFailureResult_books errorMessage h id
  · rw [hpoll]
    exact makePollResult_books t _ h

theorem matched_nil {was : Bool} {d : TwsBatteryDriver} :
    Matched was d [] ↔ was = d.lastSnapshot.connected := by
  constructor
  · intro h
    have hon := h.online
    have hoff := h.offline
    revert hon hoff
    cases was <;> cases d.lastSnapshot.connected <;> simp [onlineRecords, offlineRecords, logged]
  · rintro rfl
    refine ⟨by simp, ?_, ?_, ?_⟩
    · rw [Bool.not_and_self]
      rfl
    · rw [Bool.and_not_self]
      rfl
    · intro hup hdown
      rw [hup] at hdown
      cases hdown

/-- `configure` does not tell the tracker. -/
theorem configure_tracker (d : TwsBatteryDriver) (config : BatteryDriverConfig)
    (t : BatteryTransport) :
    (d.configure config t).2.statusTransitionTracker = d.statusTransitionTracker := by
  obtain ⟨lastError, h⟩ := configure_spec d config t
  rw [h]
  rfl

theorem configure_connected (d : TwsBatteryDriver) (config : BatteryDriverConfig)
    (t : BatteryTransport) :
    (d.configure config t).2.lastSnapshot.connected =
      (d.lastSnapshot.connected && !(Call.configure config t).unconnected) := by
  obtain ⟨lastError, h⟩ := configure_spec d config t
  rw [h, Call.unconnected, Bool.not_not]

theorem step_books {d : TwsBatteryDriver} {call : Call} (h : d.Consistent)
    (hcall : call.unconnected = true → d.lastSnapshot.connected = false) :
    Books d.lastSnapshot.connected (step d call).2 (step d call).1 := by
  cases call with
  | configure config t =>
    have hkept : (d.configure config t).2.lastSnapshot.connected = d.lastSnapshot.connected := by
      rw [configure_connected]
      cases hu : (Call.configure config t).unconnected with
      | false => rw [Bool.not_false, Bool.and_true]
      | true => rw [hcall hu, Bool.false_and]
    refine ⟨?_, matched_nil.mpr hkept.symm⟩
    dsimp only [step, Consistent]
    rw [configure_tracker, hkept]
    exact h
  | cleanup => exact ⟨h, matched_nil.mpr rfl⟩
  | poll t => exact pollOnce_books t h

/-- The snapshot loses its battery without a record in a `configure` that gets no connection. -/
theorem step_unmatched {d : TwsBatteryDriver} {call : Call}
    (h : Matched d.lastSnapshot.connected (step d call).2 (step d call).1)
    (hcall : call.unconnected = true) : d.lastSnapshot.connected = false := by
  cases call with
  | configure config t =>
    have hkept : d.lastSnapshot.connected = (d.configure config t).2.lastSnapshot.connected :=
      matched_nil.mp h
    rwa [configure_connected, hcall, Bool.not_true, Bool.and_false] at hkept
  | cleanup => cases hcall
  | poll t => cases hcall

/-- The books are kept exactly in the runs where no `configure` that gets no connection meets a
snapshot that is connected. -/
theorem bookkept_iff (config : BatteryDriverConfig) (calls : List Call) :
    Bookkept config calls ↔ ∀ done call, done ++ [call] <+: calls → call.unconnected = true →
      (after config done).lastSnapshot.connected = false := by
  constructor
  · intro h done call hdone
    exact step_unmatched (h.matched done call hdone)
  · intro h
    have hconsistent : ∀ done, done <+: calls → (after config done).Consistent := by
      apply along
      · rfl
      · intro done call hdone ih
        rw [after_snoc]
        exact (step_books ih (h done call hdone)).consistent
    refine ⟨hconsistent, ?_⟩
    intro done call hdone
    have hbefore := hconsistent done ((List.prefix_append done [call]).trans hdone)
    exact (step_books hbefore (h done call hdone)).matched

def quiet : BatteryTransport where
  created := true
  isConnected := true
  connect := .ok ()
  readHoldingRegisters _ _ count := .ok (List.replicate (2 * count.toNat) 0)

/-- A configured driver polls, and its new configuration finds the port gone. -/
def reconfigured : List Call := [.configure {} quiet, .poll quiet,
  .configure {} { quiet with isConnected := false, connect := .error "no such device" }]

/-- The tracker still has the battery online, the snapshot does not. -/
theorem reconfigured_inconsistent : ¬ Bookkept {} reconfigured := by
  intro h
  have hend : true = false := h.consistent reconfigured (List.prefix_refl _)
  cases hend

end DeviceManager.TwsBatteryDriver
