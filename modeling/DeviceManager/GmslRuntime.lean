import DeviceManager.InProcess

namespace DeviceManager.GmslRuntime

open Domain Fallible RuntimeBase InProcess

variable {Calibration : Type}

/-- The fields of `GmslV4l2CameraConfig` that a configure reads or writes. -/
structure GmslV4l2CameraConfig (Calibration : Type) where
  cameraName : String
  serialNumber : String
  videoDevice : String
  imageTopic : String
  distortedImageTopic : String
  cameraInfoTopic : String
  serialNumberTopic : String
  publishDistortedImage : Bool
  readOtpOnStart : Bool
  otpI2cBus : Int32
  otpStatus : String
  otpResultI2cBus : Int32
  otpErrorMessage : String
  calibration : Option Calibration

structure OtpReadResult where
  ok : Bool
  data : List UInt8
  i2cBus : Int32
  errorMessage : String

/-- `config_from` of a device id and a parameter map, with the error message that it leaves,
and `decode_ox01f10_otp`. -/
structure Decoders (Calibration : Type) where
  configFrom : String → ParameterMap → GmslV4l2CameraConfig Calibration × String
  decode : List UInt8 → Except String (String × Calibration)

/-- What the capture backend, the OTP reader, `rclcpp` and `std::thread` do in one request.
A `false` of the two factories is a null pointer. -/
structure Outside (Calibration : Type) where
  createCapture : Reply Bool
  configureCapture : GmslV4l2CameraConfig Calibration → Reply (Option String)
  close : Reply Unit
  node : String → String → Reply Unit
  publisher : String → Reply Unit
  createOtpReader : Reply Bool
  readOtp : GmslV4l2CameraConfig Calibration → Reply OtpReadResult
  startThread : Reply Unit

/-- The node and the publishers are left out: nothing is published by a request. -/
structure GmslV4l2CameraRuntime (Calibration : Type) where
  deviceId : String
  state : LifecycleState
  config : GmslV4l2CameraConfig Calibration
  capture : Bool
  lastConnected : Option Bool
  emitted : List DeviceEvent

def GmslV4l2CameraRuntime.become (r : GmslV4l2CameraRuntime Calibration)
    (state : LifecycleState) : GmslV4l2CameraRuntime Calibration := { r with state := state }

/-- `event.values` of `emit_connection_event`. -/
def connectionValues (config : GmslV4l2CameraConfig Calibration) :
    Finmap (fun _ : String => String) :=
  let always := (((Finmap.singleton "video_device" config.videoDevice).insert
    "otp_read_on_start" (if config.readOtpOnStart then "true" else "false")).insert
    "otp_status" config.otpStatus).insert "otp_i2c_bus" (toString config.otpResultI2cBus.toInt)
  let withError := if config.otpErrorMessage = "" then always
    else always.insert "otp_error_message" config.otpErrorMessage
  if config.serialNumber = "" then withError
  else withError.insert "serial_number" config.serialNumber

def connectionEvent (config : GmslV4l2CameraConfig Calibration) (connected : Bool)
    (code message : String) (targetState : LifecycleState) : DeviceEvent where
  level := if connected then .ok else .error
  code := code
  message := message
  source := "gmsl_v4l2_camera_driver"
  targetState := targetState
  values := connectionValues config

/-- `emit_connection_event`. -/
def GmslV4l2CameraRuntime.emitConnectionEvent (r : GmslV4l2CameraRuntime Calibration)
    (connected : Bool) (code message : String) (targetState : LifecycleState) :
    GmslV4l2CameraRuntime Calibration :=
  if r.lastConnected = some connected then r
  else { r with
    lastConnected := some connected
    emitted := connectionEvent r.config connected code message targetState :: r.emitted }

def GmslV4l2CameraConfig.otpFailed (config : GmslV4l2CameraConfig Calibration) (message : String) :
    GmslV4l2CameraConfig Calibration :=
  { config with otpStatus := "failed", otpErrorMessage := message }

/-- `apply_otp_calibration`. The constructor of the runtime sets the reader factory. -/
def applyOtpCalibration (decode : List UInt8 → Except String (String × Calibration))
    (calls : Outside Calibration) (config : GmslV4l2CameraConfig Calibration) :
    Reply (GmslV4l2CameraConfig Calibration) := do
  if !config.readOtpOnStart then
    return config
  if config.otpI2cBus < 0 then
    return { config with otpResultI2cBus := config.otpI2cBus }.otpFailed
      "camera.driver.otp_i2c_bus must be configured to read GMSL OTP"
  let attempted := { config with otpStatus := "attempted" }
  if !(← calls.createOtpReader) then
    return attempted.otpFailed "otp reader is unavailable"
  let result ← calls.readOtp attempted
  let read := { attempted with
    otpResultI2cBus := if 0 ≤ result.i2cBus then result.i2cBus else config.otpI2cBus }
  if !result.ok then
    return read.otpFailed result.errorMessage
  match decode result.data with
  | .error message => return read.otpFailed message
  | .ok (serialNumber, calibration) => return { read with
      serialNumber := serialNumber
      calibration := some calibration
      otpStatus := "success"
      otpErrorMessage := "" }

/-- The `rclcpp` calls of `configure`. -/
def createOutput (calls : Outside Calibration) (config : GmslV4l2CameraConfig Calibration) :
    Reply Unit := do
  calls.node config.cameraName ("/" ++ config.cameraName)
  calls.publisher config.imageTopic
  if config.publishDistortedImage then
    calls.publisher config.distortedImageTopic
  calls.publisher config.cameraInfoTopic
  calls.publisher config.serialNumberTopic
  calls.publisher "~/device_event"

def materialize (calls : Outside Calibration) :
    EStateM Thrown (GmslV4l2CameraRuntime Calibration) TransitionOutcome := do
  let r ← get
  if r.state ≠ .finalized ∨ r.capture then
    return alreadyMaterialized
  let capture ← outside calls.createCapture
  modify fun r => { r with capture := capture, state := .unconfigured }
  return done

def dematerialize (calls : Outside Calibration) :
    EStateM Thrown (GmslV4l2CameraRuntime Calibration) TransitionOutcome := do
  let r ← get
  if !r.capture ∨ r.state = .finalized then
    return notMaterialized
  modify fun r => { r with state := .shuttingDown, capture := false, lastConnected := none }
  outside calls.close
  modify fun r => r.become .finalized
  return done

def configure (decoders : Decoders Calibration) (calls : Outside Calibration)
    (parameters : ParameterMap) :
    EStateM Thrown (GmslV4l2CameraRuntime Calibration) TransitionOutcome := do
  let r ← get
  let (config, message) := decoders.configFrom r.deviceId parameters
  if message ≠ "" then
    return ⟨.failure, message⟩
  if r.state ≠ .unconfigured ∨ !r.capture then
    return sourceMismatch
  modify fun r => { r with config := config, state := .configuring }
  outside (createOutput calls config)
  match ← outside (calls.configureCapture config) with
  | some message =>
    modify fun r => { r with state := .unconfigured, lastConnected := none }
    modify fun r => r.emitConnectionEvent false "gmsl_v4l2.open_failed" message .unconfigured
    return ⟨.error, message⟩
  | none =>
    modify fun r => r.become .inactive
    let calibrated ← outside (applyOtpCalibration decoders.decode calls config)
    modify fun r => { r with config := calibrated }
    return done

def activate (calls : Outside Calibration) :
    EStateM Thrown (GmslV4l2CameraRuntime Calibration) TransitionOutcome := do
  let r ← get
  if r.state ≠ .inactive ∨ !r.capture then
    return sourceMismatch
  modify fun r => r.become .active
  outside calls.startThread
  return done

def deactivate : EStateM Thrown (GmslV4l2CameraRuntime Calibration) TransitionOutcome := do
  let r ← get
  if r.state ≠ .active ∨ !r.capture then
    return sourceMismatch
  modify fun r => r.become .inactive
  return done

def cleanup (calls : Outside Calibration) :
    EStateM Thrown (GmslV4l2CameraRuntime Calibration) TransitionOutcome := do
  let r ← get
  if r.state ≠ .inactive ∨ !r.capture then
    return sourceMismatch
  modify fun r => { r with state := .cleaningUp, lastConnected := none }
  outside calls.close
  modify fun r => r.become .unconfigured
  return done

def perform (decoders : Decoders Calibration) (calls : Outside Calibration) :
    Operation → EStateM Thrown (GmslV4l2CameraRuntime Calibration) TransitionOutcome
  | .materialize _ => materialize calls
  | .configure parameters => configure decoders calls parameters
  | .activate => activate calls
  | .deactivate => deactivate
  | .cleanup _ => cleanup calls
  | .dematerialize => dematerialize calls

/-- A `GmslV4l2CameraConfig` as it is constructed. -/
def defaultConfig : GmslV4l2CameraConfig Calibration where
  cameraName := "gmsl_camera"
  serialNumber := ""
  videoDevice := "/dev/video0"
  imageTopic := "image_raw"
  distortedImageTopic := "image_raw_distorted"
  cameraInfoTopic := "camera_info"
  serialNumberTopic := "serial_number"
  publishDistortedImage := false
  readOtpOnStart := true
  otpI2cBus := -1
  otpStatus := "disabled"
  otpResultI2cBus := -1
  otpErrorMessage := ""
  calibration := none

/-- A runtime behind `initialize` with this device id. -/
def model (decoders : Decoders Calibration) (deviceId : String) : Model :=
  ⟨GmslV4l2CameraRuntime Calibration, Outside Calibration,
    ⟨deviceId, .finalized, defaultConfig, false, none, []⟩, GmslV4l2CameraRuntime.state,
    perform decoders⟩

end DeviceManager.GmslRuntime
