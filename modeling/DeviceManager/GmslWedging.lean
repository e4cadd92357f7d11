import DeviceManager.GmslRuntime

namespace DeviceManager.GmslRuntime

open Domain Fallible RuntimeBase InProcess
open ReliableRuntime (stable)

variable {Calibration : Type}

def connects (decoders : Decoders Calibration) (calls : Outside Calibration)
    (config : GmslV4l2CameraConfig Calibration) : Bool :=
  match createOutput calls config, calls.configureCapture config with
  | .error _, _ => false
  | .ok _, .error _ => false
  | .ok _, .ok (some _) => true
  | .ok _, .ok none => returns (applyOtpCalibration decoders.decode calls config)

/-- No call throws that the operation makes in a transitional state, or in a configure. -/
def calm (decoders : Decoders Calibration) (calls : Outside Calibration) (operation : Operation)
    (r : GmslV4l2CameraRuntime Calibration) : Bool :=
  match operation with
  | .configure parameters =>
    decide (r.state ≠ .unconfigured) || !r.capture ||
      decide ((decoders.configFrom r.deviceId parameters).2 ≠ "") ||
      connects decoders calls (decoders.configFrom r.deviceId parameters).1
  | .cleanup _ => decide (r.state ≠ .inactive) || !r.capture || returns calls.close
  | .dematerialize => decide (r.state = .finalized) || !r.capture || returns calls.close
  | _ => true

theorem unwedged_materialize (calls : Outside Calibration)
    {r : GmslV4l2CameraRuntime Calibration} (hs : stable r.state = true)
    (parameters : ParameterMap) :
    Unwedged (.materialize parameters) r.state (exit (materialize calls) r).1.state
      (exit (materialize calls) r).2 := by
  unfold materialize
  rw [exit_get]
  split
  · exact unwedged_refused _ hs nofun
  · rw [exit_bind, exit_outside]
    cases calls.createCapture with
    | error thrown => exact unwedged_thrown r.state hs rfl thrown
    | ok capture => exact unwedged_done (.materialize parameters) r.state

theorem emitConnectionEvent_state (r : GmslV4l2CameraRuntime Calibration) (connected : Bool)
    (code message : String) (targetState : LifecycleState) :
    (r.emitConnectionEvent connected code message targetState).state = r.state := by
  unfold GmslV4l2CameraRuntime.emitConnectionEvent
  split <;> rfl

theorem unwedged_configure (decoders : Decoders Calibration) (calls : Outside Calibration)
    (parameters : ParameterMap) {r : GmslV4l2CameraRuntime Calibration}
    (hs : stable r.state = true) :
    Unwedged (.configure parameters) r.state
        (exit (configure decoders calls parameters) r).1.state
        (exit (configure decoders calls parameters) r).2 ↔
      calm decoders calls (.configure parameters) r = true := by
  unfold configure calm
  rw [exit_get]
  simp only []
  by_cases hm : (decoders.configFrom r.deviceId parameters).2 = ""
  · rw [if_neg (not_not.mpr hm)]
    by_cases hu : r.state ≠ .unconfigured ∨ !r.capture
    · rw [if_pos hu]
      refine iff_of_true (unwedged_refused _ hs nofun) ?_
      obtain hu | hu := hu <;> simp [hu]
    · rw [if_neg hu, exit_modify, exit_bind, exit_outside]
      obtain ⟨hst, hcapture⟩ := not_or.mp hu
      have hstate : r.state = .unconfigured := not_not.mp hst
      have hcalm : ∀ connected : Bool, (decide (r.state ≠ .unconfigured) || !r.capture ||
          decide ((decoders.configFrom r.deviceId parameters).2 ≠ "") || connected) =
            connected := by
        intro connected
        simp [hstate, hm, hcapture]
      rw [hcalm, connects]
      cases createOutput calls (decoders.configFrom r.deviceId parameters).1 with
      | error thrown => exact iff_of_false (not_unwedged rfl) (by simp)
      | ok u =>
        simp only []
        rw [exit_bind, exit_outside]
        cases calls.configureCapture (decoders.configFrom r.deviceId parameters).1 with
        | error thrown => exact iff_of_false (not_unwedged rfl) (by simp)
        | ok message =>
          cases message with
          | some message =>
            refine iff_of_true ?_ rfl
            simp only [exit_modify, exit_pure, emitConnectionEvent_state]
            rw [hstate]
            exact unwedged_refused _ rfl nofun
          | none =>
            simp only []
            rw [exit_modify, exit_bind, exit_outside]
            cases applyOtpCalibration decoders.decode calls
              (decoders.configFrom r.deviceId parameters).1 with
            | ok calibrated => exact iff_of_true (unwedged_done (.configure parameters) r.state) rfl
            | error thrown =>
              -- The runtime is INACTIVE, and its configure has failed.
              refine iff_of_false ?_ (by simp)
              rintro ⟨-, -, hback⟩
              have hinactive : LifecycleState.inactive = r.state := hback rfl rfl
              rw [hstate] at hinactive
              cases hinactive
  · rw [if_pos hm]
    exact iff_of_true (unwedged_refused _ hs nofun) (by simp [hm])

theorem unwedged_activate (calls : Outside Calibration) {r : GmslV4l2CameraRuntime Calibration}
    (hs : stable r.state = true) :
    Unwedged .activate r.state (exit (activate calls) r).1.state (exit (activate calls) r).2 := by
  unfold activate
  rw [exit_get]
  split
  · exact unwedged_refused _ hs nofun
  · rw [exit_modify, exit_bind, exit_outside]
    cases calls.startThread with
    | error thrown => exact unwedged_thrown r.state rfl rfl thrown
    | ok u => exact unwedged_done .activate r.state

theorem unwedged_deactivate {r : GmslV4l2CameraRuntime Calibration} (hs : stable r.state = true) :
    Unwedged .deactivate r.state (exit deactivate r).1.state (exit deactivate r).2 := by
  unfold deactivate
  rw [exit_get]
  split
  · exact unwedged_refused _ hs nofun
  · exact unwedged_done .deactivate r.state

theorem unwedged_cleanup (decoders : Decoders Calibration) (calls : Outside Calibration)
    (parameters : ParameterMap) {r : GmslV4l2CameraRuntime Calibration}
    (hs : stable r.state = true) :
    Unwedged (.cleanup parameters) r.state (exit (cleanup calls) r).1.state
        (exit (cleanup calls) r).2 ↔
      calm decoders calls (.cleanup parameters) r = true := by
  unfold cleanup calm
  rw [exit_get]
  by_cases hi : r.state ≠ .inactive ∨ !r.capture
  · rw [if_pos hi]
    refine iff_of_true (unwedged_refused _ hs nofun) ?_
    obtain hi | hi := hi <;> simp [hi]
  · rw [if_neg hi, exit_modify, exit_bind, exit_outside]
    obtain ⟨hst, hcapture⟩ := not_or.mp hi
    cases calls.close with
    | error thrown => exact iff_of_false (not_unwedged rfl) (by simp [not_not.mp hst, hcapture])
    | ok u => exact iff_of_true (unwedged_done (.cleanup parameters) r.state) (by simp)

theorem unwedged_dematerialize (decoders : Decoders Calibration) (calls : Outside Calibration)
    {r : GmslV4l2CameraRuntime Calibration} (hs : stable r.state = true) :
    Unwedged .dematerialize r.state (exit (dematerialize calls) r).1.state
        (exit (dematerialize calls) r).2 ↔
      calm decoders calls .dematerialize r = true := by
  unfold dematerialize calm
  rw [exit_get]
  by_cases hf : !r.capture ∨ r.state = .finalized
  · rw [if_pos hf]
    refine iff_of_true (unwedged_refused _ hs nofun) ?_
    obtain hf | hf := hf <;> simp [hf]
  · rw [if_neg hf, exit_modify, exit_bind, exit_outside]
    obtain ⟨hcapture, hst⟩ := not_or.mp hf
    cases calls.close with
    | error thrown => exact iff_of_false (not_unwedged rfl) (by simp [hst, hcapture])
    | ok u => exact iff_of_true (unwedged_done .dematerialize r.state) (by simp)

theorem unwedged_perform (decoders : Decoders Calibration) (calls : Outside Calibration)
    (operation : Operation) (r : GmslV4l2CameraRuntime Calibration) (hs : stable r.state = true) :
    Unwedged operation r.state (exit (perform decoders calls operation) r).1.state
        (exit (perform decoders calls operation) r).2 ↔
      calm decoders calls operation r = true := by
  cases operation with
  | materialize parameters => exact iff_of_true (unwedged_materialize calls hs parameters) rfl
  | configure parameters => exact unwedged_configure decoders calls parameters hs
  | activate => exact iff_of_true (unwedged_activate calls hs) rfl
  | deactivate => exact iff_of_true (unwedged_deactivate hs) rfl
  | cleanup parameters => exact unwedged_cleanup decoders calls parameters hs
  | dematerialize => exact unwedged_dematerialize decoders calls hs

end DeviceManager.GmslRuntime
