import DeviceManager.DriverRuntimes

namespace DeviceManager.DriverRuntimes

open Domain Fallible RuntimeBase InProcess
open ReliableRuntime (stable)

variable {Config : Type}

def releases (calls : Outside Config) (driver : Driver Config) : Bool :=
  !driver.transport || returns calls.release

def serialConnects (calls : Outside Config) (config : Config) (driver : Driver Config) : Bool :=
  releases calls driver && returns (calls.create config) && returns calls.connect

def twsConnects (calls : Outside Config) (config : Config) (driver : Driver Config) : Bool :=
  releases calls driver &&
    match calls.create config, calls.isConnected with
    | .error _, _ => false
    | .ok false, _ => true
    | .ok true, .error _ => false
    | .ok true, .ok connected => connected || returns calls.connect

/-- `connects` says which answers of the transport a configure takes without an exception. -/
structure Lawful (kind : Kind Config)
    (connects : Outside Config → Config → Driver Config → Bool) : Prop where
  configure : ∀ calls config driver,
    returns (exit (kind.configure calls config) driver).2 = connects calls config driver
  dematerialize : kind.dematerialize = dematerialize ∨ kind.dematerialize = twsDematerialize

theorem returns_cleanupDriver (calls : Outside Config) (driver : Driver Config) :
    returns (exit (cleanupDriver calls) driver).2 = releases calls driver := by
  unfold cleanupDriver releases
  rw [exit_get]
  cases driver.transport with
  | false => rfl
  | true =>
    rw [if_pos rfl, exit_bind, exit_outside]
    cases calls.release <;> rfl

theorem returns_afterCleanup {α : Type} (calls : Outside Config) (driver : Driver Config)
    (rest : Unit → EStateM Thrown (Driver Config) α) {connects : Bool}
    (h : ∀ d, returns (exit (rest ()) d).2 = connects) :
    returns (exit (cleanupDriver calls >>= rest) driver).2 = (releases calls driver && connects) := by
  rw [exit_bind, ← returns_cleanupDriver]
  cases (exit (cleanupDriver calls) driver).2 with
  | ok u => exact h _
  | error thrown => rfl

theorem returns_serialConfigure (calls : Outside Config) (config : Config)
    (driver : Driver Config) :
    returns (exit (serialConfigure calls config) driver).2 = serialConnects calls config driver := by
  unfold serialConnects
  rw [Bool.and_assoc]
  refine returns_afterCleanup calls driver _ fun d => ?_
  rw [exit_modify, exit_bind, exit_outside]
  cases calls.create config with
  | error thrown => rfl
  | ok made =>
    show returns (exit (modify _ >>= _) _).2 = _
    rw [exit_modify, exit_bind, exit_outside]
    cases calls.connect with
    | error thrown => rfl
    | ok message => cases message <;> rfl

theorem returns_pagerConfigure (calls : Outside Config) (config : Config)
    (driver : Driver Config) :
    returns (exit (pagerConfigure calls config) driver).2 = serialConnects calls config driver := by
  unfold serialConnects
  rw [Bool.and_assoc]
  refine returns_afterCleanup calls driver _ fun d => ?_
  rw [exit_modify, exit_bind, exit_outside]
  cases calls.create config with
  | error thrown => rfl
  | ok made =>
    show returns (exit (outside calls.connect >>= _) _).2 = _
    rw [exit_bind, exit_outside]
    cases calls.connect with
    | error thrown => rfl
    | ok message => cases message <;> rfl

theorem returns_twsConfigure (calls : Outside Config) (config : Config) (driver : Driver Config) :
    returns (exit (twsConfigure calls config) driver).2 = twsConnects calls config driver := by
  refine returns_afterCleanup calls driver _ fun d => ?_
  rw [exit_modify, exit_bind, exit_outside]
  cases calls.create config with
  | error thrown => rfl
  | ok made =>
    cases made with
    | false => rfl
    | true =>
      show returns (exit (outside calls.isConnected >>= _) _).2 = _
      rw [exit_bind, exit_outside]
      cases calls.isConnected with
      | error thrown => rfl
      | ok connected =>
        cases connected with
        | true => rfl
        | false =>
          show returns (exit (outside calls.connect) _).2 = _
          rw [exit_outside]
          rfl

theorem lawful_tws (configFrom : Config → ParameterMap → Config × String) :
    Lawful (twsBattery configFrom) twsConnects := ⟨returns_twsConfigure, Or.inr rfl⟩

theorem lawful_ch020 (configFrom : Config → ParameterMap → Config × String) :
    Lawful (ch020Imu configFrom) serialConnects := ⟨returns_serialConfigure, Or.inl rfl⟩

theorem lawful_smit (configFrom : Config → ParameterMap → Config × String) :
    Lawful (smitLidar configFrom) serialConnects := ⟨returns_serialConfigure, Or.inl rfl⟩

theorem lawful_pager (configFrom : Config → ParameterMap → Config × String) :
    Lawful (pager100Lora configFrom) serialConnects := ⟨returns_pagerConfigure, Or.inl rfl⟩

def calm (kind : Kind Config) (connects : Outside Config → Config → Driver Config → Bool)
    (calls : Outside Config) (operation : Operation) (r : Runtime Config) : Bool :=
  match operation, r.driver with
  | .configure parameters, some driver =>
    decide (r.state ≠ .unconfigured) ||
      decide ((kind.configFrom driver.config parameters).2 ≠ "") ||
      connects calls (kind.configFrom driver.config parameters).1 driver
  | .cleanup _, some driver => decide (r.state ≠ .inactive) || releases calls driver
  | .dematerialize, some driver => decide (r.state = .finalized) || releases calls driver
  | _, _ => true

theorem unwedged_materialize {r : Runtime Config} (hs : stable r.state = true)
    (parameters : ParameterMap) :
    Unwedged (.materialize parameters) r.state (exit materialize r).1.state
      (exit materialize r).2 := by
  unfold materialize
  rw [exit_get]
  split
  · exact unwedged_refused _ hs nofun
  · exact unwedged_done (.materialize parameters) r.state

theorem unwedged_configure {kind : Kind Config}
    {connects : Outside Config → Config → Driver Config → Bool} (h : Lawful kind connects)
    (calls : Outside Config) (parameters : ParameterMap) {r : Runtime Config}
    (hs : stable r.state = true) :
    Unwedged (.configure parameters) r.state (exit (configure kind calls parameters) r).1.state
        (exit (configure kind calls parameters) r).2 ↔
      calm kind connects calls (.configure parameters) r = true := by
  unfold configure calm
  rw [exit_get]
  cases hd : r.driver with
  | none => exact iff_of_true (unwedged_refused _ hs nofun) rfl
  | some driver =>
    simp only []
    by_cases hu : r.state = .unconfigured
    · rw [if_neg (not_not.mpr hu)]
      by_cases hm : (kind.configFrom driver.config parameters).2 = ""
      · rw [if_neg (not_not.mpr hm), exit_modify, exit_bind, exit_within]
        have hreturns := h.configure calls (kind.configFrom driver.config parameters).1 driver
        cases hr : (exit (kind.configure calls (kind.configFrom driver.config parameters).1)
            driver).2 with
        | error thrown =>
          rw [hr] at hreturns
          refine iff_of_false (not_unwedged rfl) ?_
          simp [hu, hm, ← hreturns]
        | ok message =>
          rw [hr] at hreturns
          have hcalm : (decide (r.state ≠ .unconfigured) ||
              decide ((kind.configFrom driver.config parameters).2 ≠ "") ||
              connects calls (kind.configFrom driver.config parameters).1 driver) = true := by
            simp [← hreturns]
          cases message with
          | none => exact iff_of_true (unwedged_done (.configure parameters) r.state) hcalm
          | some message =>
            refine iff_of_true ?_ hcalm
            rw [hu]
            exact unwedged_refused _ rfl nofun
      · rw [if_pos hm]
        exact iff_of_true (unwedged_refused _ hs nofun) (by simp [hm])
    · rw [if_pos hu]
      exact iff_of_true (unwedged_refused _ hs nofun) (by simp [hu])

theorem unwedged_activate (kind : Kind Config) (calls : Outside Config) {r : Runtime Config}
    (hs : stable r.state = true) :
    Unwedged .activate r.state (exit (activate kind calls) r).1.state
      (exit (activate kind calls) r).2 := by
  unfold activate
  rw [exit_get]
  cases r.driver with
  | none => exact unwedged_refused _ hs nofun
  | some driver =>
    simp only []
    split
    · exact unwedged_refused _ hs nofun
    · split
      · exact unwedged_refused _ hs nofun
      · rw [exit_modify, exit_bind, exit_outside]
        cases calls.startThread with
        | ok u => exact unwedged_done .activate r.state
        | error thrown => exact unwedged_thrown r.state rfl rfl thrown

theorem unwedged_deactivate {r : Runtime Config} (hs : stable r.state = true) :
    Unwedged .deactivate r.state (exit deactivate r).1.state (exit deactivate r).2 := by
  unfold deactivate
  rw [exit_get]
  split
  · exact unwedged_refused _ hs nofun
  · exact unwedged_done .deactivate r.state

theorem unwedged_cleanup (kind : Kind Config)
    (connects : Outside Config → Config → Driver Config → Bool) (calls : Outside Config)
    (parameters : ParameterMap) {r : Runtime Config} (hs : stable r.state = true) :
    Unwedged (.cleanup parameters) r.state (exit (cleanup calls) r).1.state
        (exit (cleanup calls) r).2 ↔
      calm kind connects calls (.cleanup parameters) r = true := by
  unfold cleanup calm
  rw [exit_get]
  cases r.driver with
  | none => exact iff_of_true (unwedged_refused _ hs nofun) rfl
  | some driver =>
    simp only []
    by_cases hi : r.state = .inactive
    · rw [if_neg (not_not.mpr hi), exit_modify, exit_bind, exit_within, ← returns_cleanupDriver]
      cases (exit (cleanupDriver calls) driver).2 with
      | error thrown => exact iff_of_false (not_unwedged rfl) (by simp [hi])
      | ok u => exact iff_of_true (unwedged_done (.cleanup parameters) r.state) (by simp)
    · rw [if_pos hi]
      exact iff_of_true (unwedged_refused _ hs nofun) (by simp [hi])

theorem unwedged_dematerialize {kind : Kind Config}
    {connects : Outside Config → Config → Driver Config → Bool} (h : Lawful kind connects)
    (calls : Outside Config) {r : Runtime Config} (hs : stable r.state = true) :
    Unwedged .dematerialize r.state (exit (kind.dematerialize calls) r).1.state
        (exit (kind.dematerialize calls) r).2 ↔
      calm kind connects calls .dematerialize r = true := by
  unfold calm
  obtain hd | hd := h.dematerialize <;> rw [hd] <;>
    first | unfold dematerialize | unfold twsDematerialize
  all_goals rw [exit_get]
  all_goals cases r.driver with
  | none => exact iff_of_true (unwedged_refused _ hs nofun) rfl
  | some driver =>
    simp only []
    by_cases hf : r.state = .finalized
    · rw [if_pos hf]
      exact iff_of_true (unwedged_refused _ hs nofun) (by simp [hf])
    · rw [if_neg hf, exit_modify, exit_bind, exit_within, ← returns_cleanupDriver]
      cases (exit (cleanupDriver calls) driver).2 with
      | error thrown => exact iff_of_false (not_unwedged rfl) (by simp [hf])
      | ok u => exact iff_of_true (unwedged_done .dematerialize r.state) (by simp)

theorem unwedged_perform {kind : Kind Config}
    {connects : Outside Config → Config → Driver Config → Bool} (h : Lawful kind connects)
    (calls : Outside Config) (operation : Operation) (r : Runtime Config)
    (hs : stable r.state = true) :
    Unwedged operation r.state (exit (perform kind calls operation) r).1.state
        (exit (perform kind calls operation) r).2 ↔
      calm kind connects calls operation r = true := by
  cases operation with
  | materialize parameters => exact iff_of_true (unwedged_materialize hs parameters) rfl
  | configure parameters => exact unwedged_configure h calls parameters hs
  | activate => exact iff_of_true (unwedged_activate kind calls hs) rfl
  | deactivate => exact iff_of_true (unwedged_deactivate hs) rfl
  | cleanup parameters => exact unwedged_cleanup kind connects calls parameters hs
  | dematerialize => exact unwedged_dematerialize h calls hs

theorem dematerialize_none (calls : Outside Config) {r : Runtime Config} (h : r.driver = none) :
    exit (dematerialize calls) r = (r, .ok notMaterialized) := by
  unfold dematerialize
  rw [exit_get, h]
  rfl

theorem dematerialize_thrown {calls : Outside Config} {r : Runtime Config} {thrown : Thrown}
    (h : (exit (dematerialize calls) r).2 = .error thrown) :
    (exit (dematerialize calls) r).1.driver = none := by
  unfold dematerialize at h ⊢
  rw [exit_get] at h ⊢
  cases hd : r.driver with
  | none =>
    rw [hd] at h
    cases h
  | some driver =>
    rw [hd] at h
    simp only [] at h ⊢
    split at h
    · cases h
    · next hf =>
      rw [if_neg hf]
      rw [exit_modify, exit_bind, exit_within] at h ⊢
      cases hr : (exit (cleanupDriver calls) driver).2 with
      | ok u =>
        rw [hr] at h
        cases h
      | error thrown => rfl

/-- The driver has been moved out: a dematerialize that has thrown cannot be made again. -/
theorem dematerialize_stuck (calls calls' : Outside Config) {r : Runtime Config} {thrown : Thrown}
    (h : (exit (dematerialize calls) r).2 = .error thrown) :
    exit (dematerialize calls') (exit (dematerialize calls) r).1 =
      ((exit (dematerialize calls) r).1, .ok notMaterialized) :=
  dematerialize_none calls' (dematerialize_thrown h)

theorem twsDematerialize_thrown {calls : Outside Config} {r : Runtime Config} {thrown : Thrown}
    (h : (exit (twsDematerialize calls) r).2 = .error thrown) :
    ∃ driver, (exit (twsDematerialize calls) r).1.driver = some driver ∧
      (exit (twsDematerialize calls) r).1.state = .shuttingDown := by
  unfold twsDematerialize at h ⊢
  rw [exit_get] at h ⊢
  cases hd : r.driver with
  | none =>
    rw [hd] at h
    cases h
  | some driver =>
    rw [hd] at h
    simp only [] at h ⊢
    split at h
    · cases h
    · next hf =>
      rw [if_neg hf]
      rw [exit_modify, exit_bind, exit_within] at h ⊢
      cases hr : (exit (cleanupDriver calls) driver).2 with
      | ok u =>
        rw [hr] at h
        cases h
      | error thrown => exact ⟨_, rfl, rfl⟩

theorem twsDematerialize_releases {calls : Outside Config} {r : Runtime Config}
    {driver : Driver Config} (hd : r.driver = some driver) (hf : r.state ≠ .finalized)
    (hr : releases calls driver = true) :
    (exit (twsDematerialize calls) r).1.state = .finalized := by
  unfold twsDematerialize
  rw [exit_get, hd]
  simp only []
  rw [if_neg hf, exit_modify, exit_bind, exit_within]
  rw [← returns_cleanupDriver] at hr
  cases hc : (exit (cleanupDriver calls) driver).2 with
  | ok u => rfl
  | error thrown =>
    rw [hc] at hr
    cases hr

/-- The battery runtime keeps its driver until then, and its transport. -/
theorem twsDematerialize_again (calls calls' : Outside Config) {r : Runtime Config}
    {thrown : Thrown} (h : (exit (twsDematerialize calls) r).2 = .error thrown)
    (hr : returns calls'.release = true) :
    (exit (twsDematerialize calls') (exit (twsDematerialize calls) r).1).1.state = .finalized := by
  obtain ⟨driver, hdriver, hstate⟩ := twsDematerialize_thrown h
  refine twsDematerialize_releases hdriver ?_ ?_
  · rw [hstate]
    exact nofun
  · rw [releases, hr, Bool.or_true]

end DeviceManager.DriverRuntimes
