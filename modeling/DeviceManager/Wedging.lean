import DeviceManager.DriverWedging
import DeviceManager.GmslWedging
import DeviceManager.OradarWedging
import DeviceManager.RuntimeHooks

namespace DeviceManager.Wedging

open Domain Transition Fallible RuntimeBase InProcess RuntimeHooks
open ReliableRuntime (stable)

/-- The `config_from` of a driver runtime, with the configuration it is constructed with. -/
structure ConfigSource where
  Config : Type
  initial : Config
  configFrom : Config → ParameterMap → Config × String

/-- What the runtimes read their configurations with. -/
structure Sources where
  twsBattery : ConfigSource
  ch020Imu : ConfigSource
  smitLidar : ConfigSource
  pager100Lora : ConfigSource
  oradarLidar : ParameterMap → OradarRuntime.OradarLidarConfig × String
  Calibration : Type
  gmslV4l2Camera : GmslRuntime.Decoders Calibration
  deviceId : String

def Sources.model (sources : Sources) : InProcessRuntime → Model
  | .twsBattery => DriverRuntimes.model
    (DriverRuntimes.twsBattery sources.twsBattery.configFrom) sources.twsBattery.initial
  | .ch020Imu => DriverRuntimes.model
    (DriverRuntimes.ch020Imu sources.ch020Imu.configFrom) sources.ch020Imu.initial
  | .smitLidar => DriverRuntimes.model
    (DriverRuntimes.smitLidar sources.smitLidar.configFrom) sources.smitLidar.initial
  | .pager100Lora => DriverRuntimes.model
    (DriverRuntimes.pager100Lora sources.pager100Lora.configFrom) sources.pager100Lora.initial
  | .oradarLidar => OradarRuntime.model sources.oradarLidar
  | .gmslV4l2Camera => GmslRuntime.model sources.gmslV4l2Camera sources.deviceId

/-- No call throws that the runtime makes in a transitional state, or, for the camera,
behind the one in a configure. -/
def Sources.calm (sources : Sources) : (runtime : InProcessRuntime) →
    (sources.model runtime).Outside → Operation → (sources.model runtime).State → Bool
  | .twsBattery => DriverRuntimes.calm
    (DriverRuntimes.twsBattery sources.twsBattery.configFrom) DriverRuntimes.twsConnects
  | .ch020Imu => DriverRuntimes.calm
    (DriverRuntimes.ch020Imu sources.ch020Imu.configFrom) DriverRuntimes.serialConnects
  | .smitLidar => DriverRuntimes.calm
    (DriverRuntimes.smitLidar sources.smitLidar.configFrom) DriverRuntimes.serialConnects
  | .pager100Lora => DriverRuntimes.calm
    (DriverRuntimes.pager100Lora sources.pager100Lora.configFrom) DriverRuntimes.serialConnects
  | .oradarLidar => OradarRuntime.calm sources.oradarLidar
  | .gmslV4l2Camera => GmslRuntime.calm sources.gmslV4l2Camera

theorem stable_initial (sources : Sources) (runtime : InProcessRuntime) :
    stable ((sources.model runtime).state (sources.model runtime).initial) = true := by
  cases runtime <;> rfl

theorem unwedged_iff (sources : Sources) (runtime : InProcessRuntime)
    (calls : (sources.model runtime).Outside) (operation : Operation)
    (s : (sources.model runtime).State) (hs : stable ((sources.model runtime).state s) = true) :
    Unwedged operation ((sources.model runtime).state s)
        ((sources.model runtime).state
          (exit ((sources.model runtime).perform calls operation) s).1)
        (exit ((sources.model runtime).perform calls operation) s).2 ↔
      sources.calm runtime calls operation s = true := by
  cases runtime with
  | twsBattery =>
    exact DriverRuntimes.unwedged_perform (DriverRuntimes.lawful_tws _) calls operation s hs
  | ch020Imu =>
    exact DriverRuntimes.unwedged_perform (DriverRuntimes.lawful_ch020 _) calls operation s hs
  | smitLidar =>
    exact DriverRuntimes.unwedged_perform (DriverRuntimes.lawful_smit _) calls operation s hs
  | pager100Lora =>
    exact DriverRuntimes.unwedged_perform (DriverRuntimes.lawful_pager _) calls operation s hs
  | oradarLidar => exact OradarRuntime.unwedged_perform _ calls operation s hs
  | gmslV4l2Camera => exact GmslRuntime.unwedged_perform _ calls operation s hs

/-- While no call throws in a transitional state, a runtime is never left in one; from there
a request settles exactly when it is calm itself. -/
theorem never_wedged (sources : Sources) (runtime : InProcessRuntime)
    {s : (sources.model runtime).State}
    (hrun : Runs (sources.model runtime).next
      (fun s action => (sources.model runtime).calmly (sources.calm runtime) s action = true)
      (sources.model runtime).initial s) :
    stable ((sources.model runtime).state s) = true ∧
    ∀ action, (sources.model runtime).Settles s action ↔
      (sources.model runtime).calmly (sources.calm runtime) s action = true := by
  have hs := stable_run (unwedged_iff sources runtime) (stable_initial sources runtime) hrun
  exact ⟨hs, settles_iff (unwedged_iff sources runtime) hs⟩

theorem recovery_transitional (runtime : InProcessRuntime) {state : LifecycleState}
    (h : stable state = false) : runtime.recoveryRequests state .finalized = [] := by
  cases runtime <;> cases state <;> first | rfl | cases h

theorem hook_transitional (runtime : InProcessRuntime) (handled : UInt64) {context : HookContext}
    (h : stable context.state = false) : (runtime.hook handled context).2 = [] := by
  obtain ⟨state, enabled, parameters, event, revision⟩ := context
  cases enabled with
  | false => exact recovery_transitional runtime h
  | true =>
    cases state with
    | finalized | unconfigured | inactive | active => cases h
    | _ => rfl

/-- What `rclcpp` takes as the name of a node. -/
def validName (name : List Char) : Bool :=
  match name with
  | [] => false
  | c :: _ => !c.isDigit && name.all fun c => c.isAlphanum || c = '_'

/-- The camera name comes from the parameter or is the device id. -/
def named (deviceId : String) (parameters : ParameterMap) :
    GmslRuntime.GmslV4l2CameraConfig Unit × String :=
  match parameters.lookup "camera.basic.camera_name" with
  | some (.string name) => ({ GmslRuntime.defaultConfig with cameraName := name }, "")
  | _ => ({ GmslRuntime.defaultConfig with cameraName := deviceId }, "")

def unread : ConfigSource := ⟨Unit, (), fun _ _ => ((), "")⟩

/-- One camera `front_camera`, and runtimes with their initial configurations. -/
def sources : Sources where
  twsBattery := unread
  ch020Imu := unread
  smitLidar := unread
  pager100Lora := unread
  oradarLidar := fun _ => (OradarRuntime.defaultConfig, "")
  Calibration := Unit
  gmslV4l2Camera := ⟨named, fun _ => .error "no OTP data"⟩
  deviceId := "front_camera"

/-- The camera works; `rclcpp` throws on an invalid name. -/
def working : GmslRuntime.Outside Unit where
  createCapture := .ok true
  configureCapture := fun _ => .ok none
  close := .ok ()
  node := fun name _ =>
    if validName name.toList then .ok () else .error (.exception "Invalid node name")
  publisher := fun _ => .ok ()
  createOtpReader := .ok true
  readOtp := fun _ => .ok ⟨false, [], -1, "no readable OX01F10 OTP data"⟩
  startThread := .ok ()

def materialized : TransitionRequest × GmslRuntime.Outside Unit :=
  (⟨.finalized, .unconfigured, ∅⟩, working)

def configured (parameters : ParameterMap) : TransitionRequest × GmslRuntime.Outside Unit :=
  (⟨.unconfigured, .inactive, parameters⟩, working)

theorem never_wedged_frontCamera :
    ∃ s, exec (sources.model .gmslV4l2Camera).next
        (fun s action => (sources.model .gmslV4l2Camera).calmly
          (sources.calm .gmslV4l2Camera) s action = true)
        [materialized, configured ∅] (sources.model .gmslV4l2Camera).initial = some s ∧
      s.state = .inactive ∧ stable s.state = true := by
  have hexec : exec (sources.model .gmslV4l2Camera).next
      (fun s action => (sources.model .gmslV4l2Camera).calmly
        (sources.calm .gmslV4l2Camera) s action = true)
      [materialized, configured ∅] (sources.model .gmslV4l2Camera).initial = some _ := rfl
  exact ⟨_, hexec, rfl, (never_wedged sources .gmslV4l2Camera (exec_runs _ hexec)).1⟩

def spaced : ParameterMap :=
  Finmap.singleton "camera.basic.camera_name" (.string "front camera")

/-- With a blank in the camera name the node cannot be constructed, and nothing is planned
from there. -/
theorem wedged_frontCamera :
    ∃ s, exec (sources.model .gmslV4l2Camera).next (fun _ _ => True)
        [materialized, configured spaced] (sources.model .gmslV4l2Camera).initial = some s ∧
      s.state = .configuring ∧ stable s.state = false ∧
      (∀ parameters, standardParameterTransitions s.state parameters = []) ∧
      ∀ (handled : UInt64) (context : HookContext), context.state = s.state →
        (InProcessRuntime.gmslV4l2Camera.hook handled context).2 = [] := by
  refine ⟨_, rfl, rfl, rfl, fun _ => rfl, fun handled context hc => ?_⟩
  exact hook_transitional _ handled (by rw [hc]; rfl)

end DeviceManager.Wedging
