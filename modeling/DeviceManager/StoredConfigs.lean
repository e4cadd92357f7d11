import DeviceManager.DriverWedging

namespace DeviceManager.StoredConfigs

open Domain Fallible RuntimeBase InProcess DriverRuntimes

variable {C : Type}

/-- Whether `configure` gets as far as `config_ = config` of the driver. -/
def stores (kind : Kind C) (calls : Outside C) (parameters : ParameterMap) (r : Runtime C) : Bool :=
  match r.driver with
  | none => false
  | some driver =>
    decide (r.state = .unconfigured) &&
      decide ((kind.configFrom driver.config parameters).2 = "") && releases calls driver

/-- A runtime, with the maps that `config_` of its driver has been read from, newest first. -/
structure Tracked (C : Type) where
  runtime : Runtime C
  maps : List ParameterMap

/-- `materialize` makes a driver with the configuration of the runtime. -/
def Tracked.request (kind : Kind C) (s : Tracked C) (calls : Outside C) (op : Operation) :
    Tracked C where
  runtime := (exit (perform kind calls op) s.runtime).1
  maps :=
    match op with
    | .materialize _ =>
      if s.runtime.state ≠ .finalized ∨ s.runtime.driver.isSome then s.maps else []
    | .configure parameters =>
      if stores kind calls parameters s.runtime then parameters :: s.maps else s.maps
    | _ => s.maps

theorem request_configure_maps (kind : Kind C) (s : Tracked C) (calls : Outside C)
    (parameters : ParameterMap) : (s.request kind calls (.configure parameters)).maps =
      if stores kind calls parameters s.runtime then parameters :: s.maps else s.maps := rfl

/-- Any requests, with what the transport does in each, after the constructor with `base`. -/
def run (kind : Kind C) (base : C) (requests : List (Outside C × Operation)) : Tracked C :=
  requests.foldl (fun s request => s.request kind request.1 request.2)
    ⟨⟨.finalized, base, none, []⟩, []⟩

inductive ReadFrom (configFrom : C → ParameterMap → C × String) (base : C) :
    List ParameterMap → C → Prop where
  | base : ReadFrom configFrom base [] base
  | next {maps : List ParameterMap} {config : C} {parameters : ParameterMap}
      (h : ReadFrom configFrom base maps config) (hquiet : (configFrom config parameters).2 = "") :
      ReadFrom configFrom base (parameters :: maps) (configFrom config parameters).1

theorem cleanupDriver_config (calls : Outside C) (driver : Driver C) :
    (exit (cleanupDriver calls) driver).1.config = driver.config := by
  unfold cleanupDriver
  rw [exit_get]
  split
  · rw [exit_bind, exit_outside]
    cases calls.release <;> rfl
  · rfl

def Stores (kind : Kind C) : Prop := ∀ calls config driver,
  (exit (kind.configure calls config) driver).1.config =
    if releases calls driver then config else driver.config

theorem stores_afterCleanup {α : Type} (calls : Outside C) (driver : Driver C) {config : C}
    (rest : Unit → EStateM Thrown (Driver C) α) (h : ∀ d, (exit (rest ()) d).1.config = config) :
    (exit (cleanupDriver calls >>= rest) driver).1.config =
      if releases calls driver then config else driver.config := by
  rw [exit_bind, ← returns_cleanupDriver]
  cases (exit (cleanupDriver calls) driver).2 with
  | ok u => exact h _
  | error thrown => exact cleanupDriver_config calls driver

theorem stores_tws (configFrom : C → ParameterMap → C × String) :
    Stores (twsBattery configFrom) := by
  intro calls config driver
  refine stores_afterCleanup calls driver _ fun d => ?_
  rw [exit_modify, exit_bind, exit_outside]
  cases calls.create config with
  | error thrown => rfl
  | ok made =>
    cases made with
    | false => rfl
    | true =>
      show Driver.config (exit (outside calls.isConnected >>= _) _).1 = _
      rw [exit_bind, exit_outside]
      cases calls.isConnected with
      | error thrown => rfl
      | ok connected =>
        cases connected with
        | true => rfl
        | false =>
          show Driver.config (exit (outside calls.connect) _).1 = _
          rw [exit_outside]

theorem stores_serial (calls : Outside C) (config : C) (driver : Driver C) :
    (exit (serialConfigure calls config) driver).1.config =
      if releases calls driver then config else driver.config := by
  refine stores_afterCleanup calls driver _ fun d => ?_
  rw [exit_modify, exit_bind, exit_outside]
  cases calls.create config with
  | error thrown => rfl
  | ok made =>
    show Driver.config (exit (modify _ >>= _) _).1 = _
    rw [exit_modify, exit_bind, exit_outside]
    cases calls.connect with
    | error thrown => rfl
    | ok message => cases message <;> rfl

theorem stores_ch020 (configFrom : C → ParameterMap → C × String) :
    Stores (ch020Imu configFrom) := stores_serial

theorem stores_smit (configFrom : C → ParameterMap → C × String) :
    Stores (smitLidar configFrom) := stores_serial

theorem stores_pager (configFrom : C → ParameterMap → C × String) :
    Stores (pager100Lora configFrom) := by
  intro calls config driver
  refine stores_afterCleanup calls driver _ fun d => ?_
  rw [exit_modify, exit_bind, exit_outside]
  cases calls.create config with
  | error thrown => rfl
  | ok made =>
    show Driver.config (exit (outside calls.connect >>= _) _).1 = _
    rw [exit_bind, exit_outside]
    cases calls.connect with
    | error thrown => rfl
    | ok message => cases message <;> rfl

structure Keeps (before after : Runtime C) : Prop where
  config : after.config = before.config
  driver : ∀ driver, after.driver = some driver →
    ∃ old, before.driver = some old ∧ driver.config = old.config

theorem keeps_refl (r : Runtime C) : Keeps r r := ⟨rfl, fun driver h => ⟨driver, h, rfl⟩⟩

theorem keeps_activate (kind : Kind C) (calls : Outside C) (r : Runtime C) :
    Keeps r (exit (activate kind calls) r).1 := by
  unfold activate
  rw [exit_get]
  cases hdriver : r.driver with
  | none => exact keeps_refl r
  | some driver =>
    dsimp only
    split_ifs
    · exact keeps_refl r
    · exact keeps_refl r
    · rw [exit_modify, exit_bind, exit_outside]
      cases calls.startThread <;> exact ⟨rfl, fun d h => ⟨d, h, rfl⟩⟩

theorem keeps_deactivate (r : Runtime C) :
    Keeps r (exit (deactivate : EStateM Thrown (Runtime C) TransitionOutcome) r).1 := by
  unfold deactivate
  rw [exit_get]
  split_ifs
  · exact keeps_refl r
  · exact ⟨rfl, fun d h => ⟨d, h, rfl⟩⟩

theorem keeps_cleanup (calls : Outside C) (r : Runtime C) :
    Keeps r (exit (cleanup calls) r).1 := by
  unfold cleanup
  rw [exit_get]
  cases hdriver : r.driver with
  | none => exact keeps_refl r
  | some driver =>
    dsimp only
    split_ifs
    · exact keeps_refl r
    · have hconfig := cleanupDriver_config calls driver
      rw [exit_modify, exit_bind, exit_within]
      cases (exit (cleanupDriver calls) driver).2 with
      | ok u => exact ⟨rfl, fun d h => ⟨driver, hdriver, Option.some.inj h ▸ hconfig⟩⟩
      | error thrown => exact ⟨rfl, fun d h => ⟨driver, hdriver, Option.some.inj h ▸ hconfig⟩⟩

theorem keeps_dematerialize (calls : Outside C) (r : Runtime C) :
    Keeps r (exit (dematerialize calls) r).1 := by
  unfold dematerialize
  rw [exit_get]
  cases hdriver : r.driver with
  | none => exact keeps_refl r
  | some driver =>
    dsimp only
    split_ifs
    · exact keeps_refl r
    · rw [exit_modify, exit_bind, exit_within]
      cases (exit (cleanupDriver calls) driver).2 with
      | ok u => exact ⟨rfl, fun d h => by cases h⟩
      | error thrown => exact ⟨rfl, fun d h => by cases h⟩

theorem keeps_twsDematerialize (calls : Outside C) (r : Runtime C) :
    Keeps r (exit (twsDematerialize calls) r).1 := by
  unfold twsDematerialize
  rw [exit_get]
  cases hdriver : r.driver with
  | none => exact keeps_refl r
  | some driver =>
    dsimp only
    split_ifs
    · exact keeps_refl r
    · have hconfig := cleanupDriver_config calls driver
      rw [exit_modify, exit_bind, exit_within]
      cases (exit (cleanupDriver calls) driver).2 with
      | ok u => exact ⟨rfl, fun d h => by cases h⟩
      | error thrown => exact ⟨rfl, fun d h => ⟨driver, hdriver, Option.some.inj h ▸ hconfig⟩⟩

structure Regular (kind : Kind C) : Prop where
  stores : Stores kind
  releases : ∀ calls config driver, returns (exit (kind.configure calls config) driver).2 = true →
    releases calls driver = true
  dematerialize : kind.dematerialize = dematerialize ∨ kind.dematerialize = twsDematerialize

theorem regular_of_lawful {kind : Kind C} {connects : Outside C → C → Driver C → Bool}
    (hlawful : Lawful kind connects) (hstores : Stores kind)
    (hreleases : ∀ calls config driver, connects calls config driver = true →
      releases calls driver = true) : Regular kind :=
  ⟨hstores, fun calls config driver h => hreleases calls config driver
    (hlawful.configure calls config driver ▸ h), hlawful.dematerialize⟩

theorem twsConnects_releases (calls : Outside C) (config : C) (driver : Driver C)
    (h : twsConnects calls config driver = true) : releases calls driver = true := by
  rw [twsConnects, Bool.and_eq_true] at h
  exact h.1

theorem serialConnects_releases (calls : Outside C) (config : C) (driver : Driver C)
    (h : serialConnects calls config driver = true) : releases calls driver = true := by
  rw [serialConnects, Bool.and_assoc, Bool.and_eq_true] at h
  exact h.1

theorem regular_tws (configFrom : C → ParameterMap → C × String) :
    Regular (twsBattery configFrom) :=
  regular_of_lawful (lawful_tws configFrom) (stores_tws configFrom) twsConnects_releases

theorem regular_ch020 (configFrom : C → ParameterMap → C × String) :
    Regular (ch020Imu configFrom) :=
  regular_of_lawful (lawful_ch020 configFrom) (stores_ch020 configFrom) serialConnects_releases

theorem regular_smit (configFrom : C → ParameterMap → C × String) :
    Regular (smitLidar configFrom) :=
  regular_of_lawful (lawful_smit configFrom) (stores_smit configFrom) serialConnects_releases

theorem regular_pager (configFrom : C → ParameterMap → C × String) :
    Regular (pager100Lora configFrom) :=
  regular_of_lawful (lawful_pager configFrom) (stores_pager configFrom) serialConnects_releases

def Configures (kind : Kind C) (parameters : ParameterMap) (r : Runtime C) (old : Driver C) : Prop :=
  r.driver = some old ∧ r.state = .unconfigured ∧ (kind.configFrom old.config parameters).2 = ""

theorem configure_idle {kind : Kind C} (calls : Outside C) {parameters : ParameterMap}
    {r : Runtime C} (h : ∀ old, ¬Configures kind parameters r old) :
    (exit (configure kind calls parameters) r).1 = r ∧ stores kind calls parameters r = false := by
  unfold configure stores
  rw [exit_get]
  cases hdriver : r.driver with
  | none => exact ⟨rfl, rfl⟩
  | some old =>
    by_cases hstate : r.state = .unconfigured
    · have hmessage : (kind.configFrom old.config parameters).2 ≠ "" :=
        fun hquiet => h old ⟨hdriver, hstate, hquiet⟩
      refine ⟨?_, by simp [hmessage]⟩
      simp only [hstate, ne_eq, not_true_eq_false, if_false, hmessage, not_false_eq_true, if_true]
      rfl
    · refine ⟨?_, by simp [hstate]⟩
      simp only [ne_eq, hstate, not_false_eq_true, if_true]
      rfl

theorem configure_driver {kind : Kind C} (calls : Outside C) {parameters : ParameterMap}
    {r : Runtime C} {old : Driver C} (h : Configures kind parameters r old) :
    (exit (configure kind calls parameters) r).1.config = r.config ∧
      (exit (configure kind calls parameters) r).1.driver =
        some (exit (kind.configure calls (kind.configFrom old.config parameters).1) old).1 ∧
      stores kind calls parameters r = releases calls old := by
  obtain ⟨hdriver, hstate, hquiet⟩ := h
  unfold configure stores
  rw [exit_get, hdriver]
  simp only [hstate, hquiet, ne_eq, not_true_eq_false, if_false]
  rw [exit_modify, exit_bind, exit_within]
  cases (exit (kind.configure calls (kind.configFrom old.config parameters).1) old).2 with
  | error thrown => exact ⟨rfl, rfl, rfl⟩
  | ok message => cases message <;> exact ⟨rfl, rfl, rfl⟩

structure Stored (kind : Kind C) (base : C) (s : Tracked C) : Prop where
  config : s.runtime.config = base
  read : ∀ driver, s.runtime.driver = some driver →
    ReadFrom kind.configFrom base s.maps driver.config

theorem stored_keeps {kind : Kind C} {base : C} {s : Tracked C} (h : Stored kind base s)
    {after : Runtime C} (hkeeps : Keeps s.runtime after) : Stored kind base ⟨after, s.maps⟩ := by
  refine ⟨hkeeps.config.trans h.config, fun driver hdriver => ?_⟩
  obtain ⟨old, hold, hconfig⟩ := hkeeps.driver driver hdriver
  show ReadFrom kind.configFrom base s.maps driver.config
  rw [hconfig]
  exact h.read old hold

theorem stored_materialize {kind : Kind C} {base : C} {s : Tracked C} (h : Stored kind base s)
    (calls : Outside C) (parameters : ParameterMap) :
    Stored kind base (s.request kind calls (.materialize parameters)) := by
  unfold Tracked.request perform materialize
  rw [exit_get]
  by_cases hmade : s.runtime.state ≠ .finalized ∨ s.runtime.driver.isSome = true
  · simp only [if_pos hmade]
    exact h
  · simp only [if_neg hmade]
    refine ⟨h.config, fun driver hdriver => ?_⟩
    obtain rfl := Option.some.inj hdriver
    show ReadFrom kind.configFrom base [] s.runtime.config
    rw [h.config]
    exact .base

theorem stored_configure {kind : Kind C} (hkind : Stores kind) {base : C} {s : Tracked C}
    (h : Stored kind base s) (calls : Outside C) (parameters : ParameterMap) :
    Stored kind base (s.request kind calls (.configure parameters)) := by
  by_cases hconfigures : ∃ old, Configures kind parameters s.runtime old
  · obtain ⟨old, hold⟩ := hconfigures
    obtain ⟨hconfig, hdriver, hstores⟩ := configure_driver calls hold
    have hread := h.read old hold.1
    have hwritten := hkind calls (kind.configFrom old.config parameters).1 old
    refine ⟨hconfig.trans h.config, fun driver hd => ?_⟩
    obtain rfl := Option.some.inj (hdriver.symm.trans hd)
    show ReadFrom kind.configFrom base
      (if stores kind calls parameters s.runtime then parameters :: s.maps else s.maps) _
    rw [hwritten, hstores]
    cases releases calls old with
    | true => exact hread.next hold.2.2
    | false => exact hread
  · obtain ⟨hruntime, hstores⟩ := configure_idle calls (not_exists.mp hconfigures)
    have hsame : s.request kind calls (.configure parameters) = s := by
      unfold Tracked.request perform
      rw [hruntime]
      simp only [hstores, Bool.false_eq_true, if_false]
    rw [hsame]
    exact h

theorem stored_request {kind : Kind C} (hkind : Regular kind) {base : C} {s : Tracked C}
    (h : Stored kind base s) (calls : Outside C) (op : Operation) :
    Stored kind base (s.request kind calls op) := by
  cases op with
  | materialize parameters => exact stored_materialize h calls parameters
  | configure parameters => exact stored_configure hkind.stores h calls parameters
  | activate => exact stored_keeps h (keeps_activate kind calls s.runtime)
  | deactivate => exact stored_keeps h (keeps_deactivate s.runtime)
  | cleanup parameters => exact stored_keeps h (keeps_cleanup calls s.runtime)
  | dematerialize =>
    refine stored_keeps h ?_
    show Keeps s.runtime (exit (kind.dematerialize calls) s.runtime).1
    obtain hdrop | hdrop := hkind.dematerialize
    · rw [hdrop]
      exact keeps_dematerialize calls s.runtime
    · rw [hdrop]
      exact keeps_twsDematerialize calls s.runtime

theorem stored_run {kind : Kind C} (hkind : Regular kind) (base : C)
    (requests : List (Outside C × Operation)) : Stored kind base (run kind base requests) := by
  induction requests using List.reverseRecOn with
  | nil => exact ⟨rfl, fun driver h => by cases h⟩
  | append_singleton requests request ih =>
    rw [run, List.foldl_append]
    exact stored_request hkind ih request.1 request.2

theorem configure_succeeded {kind : Kind C} (hkind : Regular kind) {calls : Outside C}
    {parameters : ParameterMap} {r : Runtime C}
    (h : succeeded (exit (configure kind calls parameters) r).2 = true) :
    stores kind calls parameters r = true := by
  by_cases hconfigures : ∃ old, Configures kind parameters r old
  · obtain ⟨old, hold⟩ := hconfigures
    obtain ⟨-, -, hstores⟩ := configure_driver calls hold
    obtain ⟨hdriver, hstate, hquiet⟩ := hold
    rw [hstores]
    refine hkind.releases calls (kind.configFrom old.config parameters).1 old ?_
    unfold configure at h
    rw [exit_get, hdriver] at h
    simp only [hstate, hquiet, ne_eq, not_true_eq_false, if_false] at h
    rw [exit_modify, exit_bind, exit_within] at h
    cases hreply : (exit (kind.configure calls (kind.configFrom old.config parameters).1) old).2 with
    | ok message => rfl
    | error thrown =>
      rw [hreply] at h
      cases h
  · unfold configure at h
    rw [exit_get] at h
    cases hdriver : r.driver with
    | none =>
      rw [hdriver] at h
      cases h
    | some old =>
      rw [hdriver] at h
      by_cases hstate : r.state = .unconfigured
      · by_cases hquiet : (kind.configFrom old.config parameters).2 = ""
        · exact absurd ⟨old, hdriver, hstate, hquiet⟩ hconfigures
        · simp only [hstate, ne_eq, not_true_eq_false, if_false, hquiet, not_false_eq_true,
            if_true] at h
          cases h
      · simp only [ne_eq, hstate, not_false_eq_true, if_true] at h
        cases h

end DeviceManager.StoredConfigs
