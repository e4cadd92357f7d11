import DeviceManager.BatteryBookkeeping
import DeviceManager.Trailing

namespace DeviceManager

def BatterySnapshot.data (s : BatterySnapshot) : BatterySnapshot :=
  { s with connected := false, lastError := "" }

namespace TwsBatteryDriver

open Lockstep Trailing

def answered (config : BatteryDriverConfig) (polls : List BatteryTransport) : Bool :=
  polls.any (answers config)

def failures (config : BatteryDriverConfig) (polls : List BatteryTransport) : ℕ :=
  trailing (fun t => !answers config t) polls

def polled (config config' : BatteryDriverConfig) (t : BatteryTransport)
    (polls : List BatteryTransport) : TwsBatteryDriver :=
  after config (.configure config' t :: polls.map .poll)

/-- What one more poll does. -/
structure Debounced (config : BatteryDriverConfig) (polls : List BatteryTransport)
    (t : BatteryTransport) (polled : List BatteryTransport → TwsBatteryDriver)
    (result : BatteryPollResult) : Prop where
  ok : result.ok = answers config t
  up : answers config t = true → (polled (polls ++ [t])).lastSnapshot.connected = true
  down : (polled polls).lastSnapshot.connected = true ∧
      (polled (polls ++ [t])).lastSnapshot.connected = false ↔
    answered config polls = true ∧ failures config (polls ++ [t]) = 3
  reported : result.reportFailureEvent = true ↔
    answered config polls = true ∧ failures config (polls ++ [t]) = 3 ∨
      answered config polls = false ∧ answers config t = false
  kept : ∀ good last bad, polls ++ [t] = good ++ last :: bad → answers config last = true →
    (∀ u ∈ bad, answers config u = false) →
      (polled (polls ++ [t])).lastSnapshot.data = (polled (good ++ [last])).lastSnapshot.data

theorem failures_snoc (config : BatteryDriverConfig) (polls : List BatteryTransport)
    (t : BatteryTransport) : failures config (polls ++ [t]) =
      if answers config t then 0 else failures config polls + 1 := by
  rw [failures, trailing_snoc]
  cases answers config t <;> rfl

theorem answered_snoc (config : BatteryDriverConfig) (polls : List BatteryTransport)
    (t : BatteryTransport) :
    answered config (polls ++ [t]) = (answered config polls || answers config t) := by
  simp [answered]

theorem polled_snoc (config config' : BatteryDriverConfig) (t : BatteryTransport)
    (polls : List BatteryTransport) (u : BatteryTransport) :
    polled config config' t (polls ++ [u]) = ((polled config config' t polls).pollOnce u).2 := by
  unfold polled
  rw [List.map_append, ← List.cons_append]
  exact after_snoc config _ (.poll u)

theorem pollOnce_failed {d : TwsBatteryDriver} {t : BatteryTransport} (hup : d.connects t = true)
    (h : answers d.config t = false) :
    ∃ errorMessage, d.pollOnce t =
      { d with transport := true }.makePollFailureResult errorMessage := by
  obtain ⟨hlost, -⟩ | ⟨-, errorMessage, -, hpoll⟩ | ⟨-, values, hread, -⟩ := pollOnce_cases d t
  · rw [hup] at hlost
    cases hlost
  · exact ⟨errorMessage, hpoll⟩
  · rw [answers, hread] at h
    cases h

theorem pollOnce_answered {d : TwsBatteryDriver} {t : BatteryTransport} (hup : d.connects t = true)
    (h : answers d.config t = true) :
    ∃ filter snapshot, snapshot.deviceAddress = d.config.deviceAddress.toUInt16 ∧
      d.pollOnce t =
        { d with transport := true, socFilter := filter }.makePollResult t snapshot := by
  obtain ⟨hlost, -⟩ | ⟨-, errorMessage, hread, -⟩ | ⟨-, values, -, hpoll⟩ := pollOnce_cases d t
  · rw [hup] at hlost
    cases hlost
  · rw [answers, hread] at h
    cases h
  · exact ⟨_, _, rfl, hpoll⟩

theorem readIdentitySnapshot_address (d : TwsBatteryDriver) (t : BatteryTransport)
    (snapshot : BatterySnapshot) :
    (d.readIdentitySnapshot t snapshot).2.deviceAddress = snapshot.deviceAddress := by
  unfold readIdentitySnapshot
  split
  · rfl
  · split <;> rfl

theorem makePollResult_address (d : TwsBatteryDriver) (t : BatteryTransport)
    (snapshot : BatterySnapshot) :
    (d.makePollResult t snapshot).2.lastSnapshot.deviceAddress = snapshot.deviceAddress := by
  unfold makePollResult
  dsimp only
  split_ifs
  · exact readIdentitySnapshot_address d t snapshot
  · rfl

structure Polled (config : BatteryDriverConfig) (polls : List BatteryTransport)
    (d : TwsBatteryDriver) : Prop where
  configured : d.config = config
  transport : d.transport = true
  consistent : d.Consistent
  successful : d.hasSuccessfulPoll = answered config polls
  connected : d.lastSnapshot.connected = true ↔
    answered config polls = true ∧ failures config polls < 3
  counted : d.lastSnapshot.connected = true →
    d.consecutivePollFailures.toNat = failures config polls
  addressed : d.lastSnapshot.deviceAddress = config.deviceAddress.toUInt16

theorem connects_held {d : TwsBatteryDriver} {t : BatteryTransport} (hd : d.transport = true)
    (ht : t.isConnected = true) : d.connects t = true := by
  rw [connects, hd, ht]
  rfl

theorem makePollFailureResult_debounced {d : TwsBatteryDriver} (errorMessage : String)
    (h : d.lastSnapshot.connected = true ∧
      d.consecutivePollFailures + 1 < kConsecutivePollFailuresToOffline) :
    (d.makePollFailureResult errorMessage).1.reportFailureEvent = false ∧
      (d.makePollFailureResult errorMessage).2 =
        { d with consecutivePollFailures := d.consecutivePollFailures + 1 } := by
  unfold makePollFailureResult
  dsimp only
  rw [if_pos h]
  exact ⟨rfl, rfl⟩

theorem makePollFailureResult_lost {d : TwsBatteryDriver} (errorMessage : String)
    (h : ¬ (d.lastSnapshot.connected = true ∧
      d.consecutivePollFailures + 1 < kConsecutivePollFailuresToOffline)) :
    (d.makePollFailureResult errorMessage).1.reportFailureEvent =
        (d.statusTransitionTracker.online || !d.hasSuccessfulPoll) ∧
      ∃ tracker counter, (d.makePollFailureResult errorMessage).2 =
        { d with
          statusTransitionTracker := tracker
          consecutivePollFailures := counter
          lastSnapshot := { d.fresh with connected := false, lastError := errorMessage } } := by
  have hevent : ((d.statusTransitionTracker.observeOffline errorMessage).1).isSome =
      d.statusTransitionTracker.online := by
    unfold BatteryStatusTransitionTracker.observeOffline
    cases ho : d.statusTransitionTracker.online <;> rfl
  unfold makePollFailureResult
  dsimp only
  rw [if_neg h, hevent]
  exact ⟨rfl, _, _, rfl⟩

/-- The counter is below three, and the comparison is one of small numbers. -/
theorem debounced_iff {config : BatteryDriverConfig} {polls : List BatteryTransport}
    {d : TwsBatteryDriver} (h : Polled config polls d) :
    (d.lastSnapshot.connected = true ∧
        d.consecutivePollFailures + 1 < kConsecutivePollFailuresToOffline) ↔
      answered config polls = true ∧ failures config polls < 2 := by
  rw [h.connected]
  constructor
  · rintro ⟨hc, hlt⟩
    have hcount := h.counted (h.connected.mpr hc)
    have hsum : (d.consecutivePollFailures + 1).toNat = failures config polls + 1 := by
      rw [UInt64.toNat_add, hcount]
      simp
      omega
    have : (d.consecutivePollFailures + 1).toNat < 3 := UInt64.lt_iff_toNat_lt.mp hlt
    exact ⟨hc.1, by omega⟩
  · rintro ⟨ha, hlt⟩
    have hc : answered config polls = true ∧ failures config polls < 3 := ⟨ha, by omega⟩
    have hcount := h.counted (h.connected.mpr hc)
    have hsum : (d.consecutivePollFailures + 1).toNat = failures config polls + 1 := by
      rw [UInt64.toNat_add, hcount]
      simp
      omega
    refine ⟨hc, UInt64.lt_iff_toNat_lt.mpr ?_⟩
    rw [hsum]
    show failures config polls + 1 < 3
    omega

theorem Polled.failed {config : BatteryDriverConfig} {polls : List BatteryTransport}
    {d : TwsBatteryDriver} {t : BatteryTransport} (h : Polled config polls d)
    (ht : t.isConnected = true) (hfail : answers config t = false) :
    Polled config (polls ++ [t]) (d.pollOnce t).2 ∧
      (d.pollOnce t).2.lastSnapshot.data = d.lastSnapshot.data ∧
      (d.pollOnce t).1.reportFailureEvent =
        (d.lastSnapshot.connected && !(d.pollOnce t).2.lastSnapshot.connected ||
          !d.hasSuccessfulPoll) := by
  have hbooks := (pollOnce_books t h.consistent).consistent
  have hheld : { d with transport := true } = d := by
    rw [← h.transport]
  obtain ⟨errorMessage, hpoll⟩ := pollOnce_failed (connects_held h.transport ht)
    (h.configured.symm ▸ hfail)
  rw [hheld] at hpoll
  have hf := failures_snoc config polls t
  rw [hfail, if_neg Bool.false_ne_true] at hf
  have ha := answered_snoc config polls t
  rw [hfail, Bool.or_false] at ha
  by_cases hdebounced : d.lastSnapshot.connected = true ∧
      d.consecutivePollFailures + 1 < kConsecutivePollFailuresToOffline
  · obtain ⟨hreport, hnext⟩ := makePollFailureResult_debounced errorMessage hdebounced
    obtain ⟨hany, hfew⟩ := (debounced_iff h).mp hdebounced
    rw [← hpoll] at hreport hnext
    rw [hnext] at hbooks ⊢
    refine ⟨⟨h.configured, h.transport, hbooks, ha ▸ h.successful, ?_, ?_, h.addressed⟩, rfl, ?_⟩
    · rw [ha, hf]
      exact ⟨fun _ => ⟨hany, by omega⟩, fun _ => hdebounced.1⟩
    · intro _
      rw [hf, ← h.counted hdebounced.1, UInt64.toNat_add, h.counted hdebounced.1]
      simp
      omega
    · rw [hreport, hdebounced.1, h.successful, hany]
      rfl
  · obtain ⟨hreport, tracker, counter, hnext⟩ := makePollFailureResult_lost errorMessage hdebounced
    have hmany := mt (debounced_iff h).mpr hdebounced
    rw [← hpoll] at hreport hnext
    rw [hnext] at hbooks ⊢
    refine ⟨⟨h.configured, h.transport, hbooks, ha ▸ h.successful, ?_, ?_, ?_⟩, ?_, ?_⟩
    · rw [ha, hf]
      constructor
      · intro hc
        cases hc
      · rintro ⟨hany, hfew⟩
        exact absurd ⟨hany, by omega⟩ hmany
    · intro hc
      cases hc
    · dsimp only [fresh]
      rw [h.configured]
    · dsimp only [BatterySnapshot.data, fresh]
      rw [h.configured, ← h.addressed]
    · rw [hreport, h.consistent]
      simp

theorem Polled.answered {config : BatteryDriverConfig} {polls : List BatteryTransport}
    {d : TwsBatteryDriver} {t : BatteryTransport} (h : Polled config polls d)
    (ht : t.isConnected = true) (hread : answers config t = true) :
    Polled config (polls ++ [t]) (d.pollOnce t).2 ∧
      (d.pollOnce t).2.lastSnapshot.connected = true ∧
      (d.pollOnce t).1.reportFailureEvent = false := by
  have hbooks := (pollOnce_books t h.consistent).consistent
  obtain ⟨filter, snapshot, haddress, hpoll⟩ := pollOnce_answered (connects_held h.transport ht)
    (h.configured.symm ▸ hread)
  have hf := failures_snoc config polls t
  rw [if_pos hread] at hf
  have ha := answered_snoc config polls t
  rw [hread, Bool.or_true] at ha
  rw [h.configured] at haddress
  rw [hpoll] at hbooks ⊢
  refine ⟨⟨h.configured, rfl, hbooks, ha.symm, ?_, ?_, ?_⟩, rfl, rfl⟩
  · rw [ha, hf]
    exact ⟨fun _ => ⟨rfl, by omega⟩, fun _ => rfl⟩
  · intro _
    rw [hf]
    rfl
  · rw [makePollResult_address, haddress]

theorem configure_polled (d : TwsBatteryDriver) (config : BatteryDriverConfig)
    {t : BatteryTransport} (ht : t.created = true) (hd : d.Consistent)
    (hdown : d.lastSnapshot.connected = false) : Polled config [] (d.configure config t).2 := by
  have hconsistent : (d.configure config t).2.Consistent := by
    rw [Consistent, configure_tracker, configure_connected, hd, hdown, Bool.false_and]
  obtain ⟨lastError, h⟩ := configure_spec d config t
  rw [h] at hconsistent ⊢
  refine ⟨rfl, ht, hconsistent, rfl, ?_, ?_, rfl⟩
  · rw [hdown]
    simp [TwsBatteryDriver.answered]
  · intro hc
    rw [hdown] at hc
    cases hc

theorem polled_polled (config config' : BatteryDriverConfig) {t : BatteryTransport}
    {polls : List BatteryTransport} (ht : t.created = true)
    (hup : ∀ u ∈ polls, u.isConnected = true) :
    Polled config' polls (polled config config' t polls) := by
  induction polls using List.reverseRecOn with
  | nil => exact configure_polled (create config) config' ht rfl rfl
  | append_singleton polls u ih =>
    obtain ⟨hpolls, hu⟩ := List.forall_mem_append.mp hup
    have hlast := hu u List.mem_cons_self
    rw [polled_snoc]
    cases hread : answers config' u with
    | false => exact ((ih hpolls).failed hlast hread).1
    | true => exact ((ih hpolls).answered hlast hread).1

theorem data_kept (config config' : BatteryDriverConfig) {t : BatteryTransport}
    {good bad : List BatteryTransport} (ht : t.created = true)
    (hup : ∀ u ∈ good ++ bad, u.isConnected = true)
    (hbad : ∀ u ∈ bad, answers config' u = false) :
    (polled config config' t (good ++ bad)).lastSnapshot.data =
      (polled config config' t good).lastSnapshot.data := by
  induction bad using List.reverseRecOn with
  | nil => rw [List.append_nil]
  | append_singleton bad u ih =>
    rw [← List.append_assoc] at hup ⊢
    obtain ⟨hbefore, hu⟩ := List.forall_mem_append.mp hup
    obtain ⟨hfailed, hlast⟩ := List.forall_mem_append.mp hbad
    have hstep := (polled_polled config config' ht hbefore).failed (hu u List.mem_cons_self)
      (hlast u List.mem_cons_self)
    rw [polled_snoc, hstep.2.1]
    exact ih hbefore hfailed

/-- Three failures in a row lose a battery that was there, and no fewer. -/
theorem polled_debounced (config config' : BatteryDriverConfig) (t u : BatteryTransport)
    (polls : List BatteryTransport) (ht : t.created = true)
    (hup : ∀ v ∈ polls ++ [u], v.isConnected = true) :
    Debounced config' polls u (polled config config' t)
      ((polled config config' t polls).pollOnce u).1 := by
  obtain ⟨hpolls, hu⟩ := List.forall_mem_append.mp hup
  have hlast := hu u List.mem_cons_self
  have h := polled_polled config config' ht hpolls
  have hnext := polled_polled config config' ht hup
  have hkept : ∀ good last bad, polls ++ [u] = good ++ last :: bad → answers config' last = true →
      (∀ v ∈ bad, answers config' v = false) →
        (polled config config' t (polls ++ [u])).lastSnapshot.data =
          (polled config config' t (good ++ [last])).lastSnapshot.data := by
    intro good last bad hsplit _ hbad
    rw [List.append_cons good last bad] at hsplit
    rw [hsplit] at hup ⊢
    exact data_kept config config' ht hup hbad
  have hok : ((polled config config' t polls).pollOnce u).1.ok = answers config' u := by
    rw [pollOnce_ok, connects_held h.transport hlast, h.configured, Bool.true_and]
  have hf := failures_snoc config' polls u
  have ha := answered_snoc config' polls u
  cases hread : answers config' u with
  | true =>
    obtain ⟨-, hback, hquiet⟩ := h.answered hlast hread
    rw [hread, if_pos rfl] at hf
    rw [← polled_snoc] at hback
    refine ⟨hok, fun _ => hback, ?_, ?_, hkept⟩
    · rw [hback, hf]
      simp
    · rw [hquiet, hf]
      simp [hread]
  | false =>
    obtain ⟨-, -, hreport⟩ := h.failed hlast hread
    rw [hread, if_neg Bool.false_ne_true] at hf
    rw [hread, Bool.or_false] at ha
    have hlost : (polled config config' t polls).lastSnapshot.connected = true ∧
        (polled config config' t (polls ++ [u])).lastSnapshot.connected = false ↔
          answered config' polls = true ∧ failures config' (polls ++ [u]) = 3 := by
      rw [h.connected, ← Bool.not_eq_true, hnext.connected, ha, hf]
      constructor
      · rintro ⟨⟨hany, hfew⟩, hmore⟩
        refine ⟨hany, ?_⟩
        by_contra hne
        exact hmore ⟨hany, by omega⟩
      · rintro ⟨hany, heq⟩
        exact ⟨⟨hany, by omega⟩, fun hmore => by omega⟩
    refine ⟨hok, fun hup => Bool.noConfusion (hread.symm.trans hup), hlost, ?_, hkept⟩
    rw [← polled_snoc] at hreport
    rw [hreport, ← hlost, h.successful, hread]
    simp

def broken : BatteryTransport where
  created := true
  isConnected := true
  connect := .ok ()
  readHoldingRegisters _ _ _ := .error "timeout"

/-- One good poll and two failures, then the third. -/
theorem broken_debounced :
    Debounced {} [quiet, broken, broken] broken (polled {} {} quiet)
      ((polled {} {} quiet [quiet, broken, broken]).pollOnce broken).1 :=
  polled_debounced {} {} quiet broken [quiet, broken, broken] rfl (by simp [quiet, broken])

end TwsBatteryDriver

end DeviceManager
