import DeviceManager.OradarRuntime

namespace DeviceManager.OradarRuntime

open Domain Fallible RuntimeBase InProcess
open ReliableRuntime (stable)

/-- The exceptions of the `try` block are caught but for those that are no `std::exception`;
no call behind it throws. -/
def connects (calls : Outside) (config : OradarLidarConfig) : Bool :=
  match calls.create config, calls.setTimeout config.timeoutMs with
  | .error (.exception _), _ => true
  | .error .unknown, _ => false
  | .ok _, .error (.exception _) => true
  | .ok _, .error .unknown => false
  | .ok _, .ok _ => returns (connectAndApply calls true config)

def calm (configFrom : ParameterMap → OradarLidarConfig × String) (calls : Outside)
    (operation : Operation) (r : OradarLidarRuntime) : Bool :=
  match operation with
  | .configure parameters =>
    decide (r.state ≠ .unconfigured) || decide ((configFrom parameters).2 ≠ "") ||
      connects calls (configFrom parameters).1
  | .cleanup _ => decide (r.state ≠ .inactive) || returns (closeClient calls r.client)
  | .dematerialize => decide (r.state = .finalized) || returns (closeClient calls r.client)
  | _ => true

theorem exit_createClient (calls : Outside) (config : OradarLidarConfig) (r : OradarLidarRuntime) :
    exit (createClient calls config) r =
      match calls.create config, calls.setTimeout config.timeoutMs with
      | .error (.exception what), _ => (r.become .unconfigured, .ok (some what))
      | .error .unknown, _ => (r, .error .unknown)
      | .ok _, .error (.exception what) =>
        ({ r with client := true }.become .unconfigured, .ok (some what))
      | .ok _, .error .unknown => ({ r with client := true }, .error .unknown)
      | .ok _, .ok _ => ({ r with client := true }, .ok none) := by
  cases hc : calls.create config with
  | error thrown => cases thrown <;> simp [createClient, exit, hc] <;> rfl
  | ok u =>
    cases ht : calls.setTimeout config.timeoutMs with
    | error thrown => cases thrown <;> simp [createClient, exit, hc, ht] <;> rfl
    | ok u =>
      simp [createClient, exit, hc, ht]
      rfl

theorem unwedged_materialize {r : OradarLidarRuntime} (hs : stable r.state = true)
    (parameters : ParameterMap) :
    Unwedged (.materialize parameters) r.state (exit materialize r).1.state
      (exit materialize r).2 := by
  unfold materialize
  rw [exit_get]
  split
  · exact unwedged_refused _ hs nofun
  · exact unwedged_done (.materialize parameters) r.state

theorem unwedged_configure (configFrom : ParameterMap → OradarLidarConfig × String)
    (calls : Outside) (parameters : ParameterMap) {r : OradarLidarRuntime}
    (hs : stable r.state = true) :
    Unwedged (.configure parameters) r.state
        (exit (configure configFrom calls parameters) r).1.state
        (exit (configure configFrom calls parameters) r).2 ↔
      calm configFrom calls (.configure parameters) r = true := by
  unfold configure calm
  rw [exit_get]
  by_cases hu : r.state = .unconfigured
  · rw [if_neg (not_not.mpr hu)]
    simp only [exit_modify]
    by_cases hm : (configFrom parameters).2 = ""
    · rw [if_neg (not_not.mpr hm), exit_modify, exit_bind, exit_createClient]
      have hcalm : ∀ connected : Bool, (decide (r.state ≠ .unconfigured) ||
          decide ((configFrom parameters).2 ≠ "") || connected) = connected := by
        intro connected
        simp [hu, hm]
      simp only [hcalm]
      unfold connects
      cases calls.create (configFrom parameters).1 with
      | error thrown =>
        cases thrown with
        | exception what =>
          refine iff_of_true ?_ rfl
          rw [hu]
          exact unwedged_refused _ rfl nofun
        | unknown => exact iff_of_false (not_unwedged rfl) (by simp)
      | ok u =>
        cases calls.setTimeout (configFrom parameters).1.timeoutMs with
        | error thrown =>
          cases thrown with
          | exception what =>
            refine iff_of_true ?_ rfl
            rw [hu]
            exact unwedged_refused _ rfl nofun
          | unknown => exact iff_of_false (not_unwedged rfl) (by simp)
        | ok u =>
          simp only []
          rw [exit_bind, exit_outside]
          cases connectAndApply calls true (configFrom parameters).1 with
          | error thrown => exact iff_of_false (not_unwedged rfl) (by simp)
          | ok message =>
            cases message with
            | none => exact iff_of_true (unwedged_done (.configure parameters) r.state) rfl
            | some message =>
              refine iff_of_true ?_ rfl
              rw [hu]
              exact unwedged_refused _ rfl nofun
    · rw [if_pos hm]
      exact iff_of_true (unwedged_refused _ hs nofun) (by simp [hm])
  · rw [if_pos hu]
    exact iff_of_true (unwedged_refused _ hs nofun) (by simp [hu])

theorem unwedged_activate (calls : Outside) {r : OradarLidarRuntime} (hs : stable r.state = true) :
    Unwedged .activate r.state (exit (activate calls) r).1.state (exit (activate calls) r).2 := by
  unfold activate
  rw [exit_get]
  split
  · exact unwedged_refused _ hs nofun
  · rw [exit_bind, exit_outside]
    cases calls.enableMeasure with
    | error thrown => exact unwedged_thrown r.state hs rfl thrown
    | ok measure =>
      simp only []
      split
      · exact unwedged_refused _ hs nofun
      · rw [exit_bind, exit_outside]
        cases calls.enableDataStream with
        | error thrown => exact unwedged_thrown r.state hs rfl thrown
        | ok stream =>
          simp only []
          split
          · exact unwedged_refused _ hs nofun
          · rw [exit_modify, exit_bind, exit_outside]
            cases calls.startThread with
            | error thrown => exact unwedged_thrown r.state rfl rfl thrown
            | ok u => exact unwedged_done .activate r.state

theorem unwedged_deactivate (calls : Outside) {r : OradarLidarRuntime}
    (hs : stable r.state = true) :
    Unwedged .deactivate r.state (exit (deactivate calls) r).1.state
      (exit (deactivate calls) r).2 := by
  unfold deactivate
  rw [exit_get]
  split
  · exact unwedged_refused _ hs nofun
  · rw [exit_modify, exit_bind, exit_outside]
    cases calls.disableDataStream with
    | error thrown => exact unwedged_thrown r.state rfl rfl thrown
    | ok code =>
      simp only []
      rw [exit_bind, exit_outside]
      cases calls.disableMeasure with
      | error thrown => exact unwedged_thrown r.state rfl rfl thrown
      | ok code => exact unwedged_done .deactivate r.state

theorem unwedged_cleanup (configFrom : ParameterMap → OradarLidarConfig × String)
    (calls : Outside) (parameters : ParameterMap) {r : OradarLidarRuntime}
    (hs : stable r.state = true) :
    Unwedged (.cleanup parameters) r.state (exit (cleanup calls) r).1.state
        (exit (cleanup calls) r).2 ↔
      calm configFrom calls (.cleanup parameters) r = true := by
  unfold cleanup calm
  rw [exit_get]
  by_cases hi : r.state = .inactive
  · rw [if_neg (not_not.mpr hi), exit_modify, exit_bind, exit_outside]
    cases closeClient calls r.client with
    | error thrown => exact iff_of_false (not_unwedged rfl) (by simp [hi])
    | ok u => exact iff_of_true (unwedged_done (.cleanup parameters) r.state) (by simp)
  · rw [if_pos hi]
    exact iff_of_true (unwedged_refused _ hs nofun) (by simp [hi])

theorem unwedged_dematerialize (configFrom : ParameterMap → OradarLidarConfig × String)
    (calls : Outside) {r : OradarLidarRuntime} (hs : stable r.state = true) :
    Unwedged .dematerialize r.state (exit (dematerialize calls) r).1.state
        (exit (dematerialize calls) r).2 ↔
      calm configFrom calls .dematerialize r = true := by
  unfold dematerialize calm
  rw [exit_get]
  by_cases hf : r.state = .finalized
  · rw [if_pos hf]
    exact iff_of_true (unwedged_refused _ hs nofun) (by simp [hf])
  · rw [if_neg hf, exit_modify, exit_bind, exit_outside]
    cases closeClient calls r.client with
    | error thrown => exact iff_of_false (not_unwedged rfl) (by simp [hf])
    | ok u => exact iff_of_true (unwedged_done .dematerialize r.state) (by simp)

theorem unwedged_perform (configFrom : ParameterMap → OradarLidarConfig × String)
    (calls : Outside) (operation : Operation) (r : OradarLidarRuntime)
    (hs : stable r.state = true) :
    Unwedged operation r.state (exit (perform configFrom calls operation) r).1.state
        (exit (perform configFrom calls operation) r).2 ↔
      calm configFrom calls operation r = true := by
  cases operation with
  | materialize parameters => exact iff_of_true (unwedged_materialize hs parameters) rfl
  | configure parameters => exact unwedged_configure configFrom calls parameters hs
  | activate => exact iff_of_true (unwedged_activate calls hs) rfl
  | deactivate => exact iff_of_true (unwedged_deactivate calls hs) rfl
  | cleanup parameters => exact unwedged_cleanup configFrom calls parameters hs
  | dematerialize => exact unwedged_dematerialize configFrom calls hs

end DeviceManager.OradarRuntime
