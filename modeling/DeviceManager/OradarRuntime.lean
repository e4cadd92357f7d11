import DeviceManager.InProcess

namespace DeviceManager.OradarRuntime

open Domain Fallible RuntimeBase InProcess

/-- `ord_sdk::error_t`. -/
inductive ErrorCode where
  | noError | operationFailure | timedOut | addressInUse
  deriving DecidableEq

def errorName : ErrorCode → String
  | .noError => "no_error"
  | .operationFailure => "operation_failure"
  | .timedOut => "timed_out"
  | .addressInUse => "address_in_use"

/-- The fields of `OradarLidarConfig` that the client factory and a configure read. -/
structure OradarLidarConfig where
  ipAddress : String
  networkInterface : String
  udpPort : Int32
  motorSpeed : Int32
  filterSize : Int32
  motorDir : Int32
  timeoutMs : Int32
  deriving DecidableEq

/-- What `OradarLidarClientFactory`, its client and `std::thread` do in one request. -/
structure Outside where
  create : OradarLidarConfig → Reply Unit
  setTimeout : Int32 → Reply Unit
  isOpen : Reply Bool
  openClient : Reply ErrorCode
  trackConnect : Reply ErrorCode
  getScanSpeed : Reply (ErrorCode × UInt32)
  setScanSpeed : UInt32 → Reply ErrorCode
  getTailFilterLevel : Reply (ErrorCode × UInt32)
  setTailFilterLevel : UInt32 → Reply ErrorCode
  getScanDirection : Reply (ErrorCode × UInt32)
  setScanDirection : UInt32 → Reply ErrorCode
  applyConfigs : Reply ErrorCode
  enableMeasure : Reply ErrorCode
  enableDataStream : Reply ErrorCode
  disableDataStream : Reply ErrorCode
  disableMeasure : Reply ErrorCode
  close : Reply Unit
  startThread : Reply Unit

structure OradarLidarRuntime where
  state : LifecycleState
  config : OradarLidarConfig
  client : Bool
  emitted : List DeviceEvent

def OradarLidarRuntime.become (r : OradarLidarRuntime) (state : LifecycleState) :
    OradarLidarRuntime := { r with state := state }

def OradarLidarRuntime.emit (r : OradarLidarRuntime) (event : DeviceEvent) : OradarLidarRuntime :=
  { r with emitted := event :: r.emitted }

/-- `connect_client`, with the error message that it leaves. -/
def connectClient (calls : Outside) (client : Bool) : Reply (Option String) := do
  if !client then
    return some "MS500 client is not configured"
  if !(← calls.isOpen) then
    let openResult ← calls.openClient
    if openResult ≠ .noError then
      return some ("open failed: " ++ errorName openResult)
  let connectResult ← calls.trackConnect
  if connectResult ≠ .noError then
    return some ("track connect failed: " ++ errorName connectResult)
  return none

/-- One of the settings in `apply_device_settings`: whether it was changed, or the message. -/
def applySetting (read : Reply (ErrorCode × UInt32)) (write : UInt32 → Reply ErrorCode)
    (wanted : Int32) (readFailed writeFailed : String) : Reply (Except String Bool) := do
  let (code, value) ← read
  if code ≠ .noError then
    return .error readFailed
  if value = wanted.toUInt32 then
    return .ok false
  let result ← write wanted.toUInt32
  if result ≠ .noError then
    return .error (writeFailed ++ errorName result)
  return .ok true

def applyScanSpeed (calls : Outside) (config : OradarLidarConfig) : Reply (Except String Bool) :=
  applySetting calls.getScanSpeed calls.setScanSpeed config.motorSpeed
    "failed to read scan speed" "failed to set scan speed: "

def applyTailFilterLevel (calls : Outside) (config : OradarLidarConfig) :
    Reply (Except String Bool) :=
  applySetting calls.getTailFilterLevel calls.setTailFilterLevel config.filterSize
    "failed to read filter size" "failed to set filter size: "

def applyScanDirection (calls : Outside) (config : OradarLidarConfig) :
    Reply (Except String Bool) :=
  applySetting calls.getScanDirection calls.setScanDirection config.motorDir
    "failed to read scan direction" "failed to set scan direction: "

def applyDeviceSettings (calls : Outside) (client : Bool) (config : OradarLidarConfig) :
    Reply (Option String) := do
  if !client then
    return some "MS500 client is not configured"
  match ← applyScanSpeed calls config with
  | .error message => return some message
  | .ok speed =>
    match ← applyTailFilterLevel calls config with
    | .error message => return some message
    | .ok level =>
      match ← applyScanDirection calls config with
      | .error message => return some message
      | .ok direction =>
        if !(speed || level || direction) then
          return none
        let result ← calls.applyConfigs
        if result ≠ .noError then
          return some ("failed to save lidar config: " ++ errorName result)
        return none

/-- `!connect_client(..) || !apply_device_settings(..)`. -/
def connectAndApply (calls : Outside) (client : Bool) (config : OradarLidarConfig) :
    Reply (Option String) := do
  match ← connectClient calls client with
  | some message => return some message
  | none => applyDeviceSettings calls client config

def materialize : EStateM Thrown OradarLidarRuntime TransitionOutcome := do
  let r ← get
  if r.state ≠ .finalized then
    return alreadyMaterialized
  modify fun r => r.become .unconfigured
  return done

/-- `client->close()` on a client that has been moved out. -/
def closeClient (calls : Outside) (client : Bool) : Reply Unit :=
  if client then calls.close else .ok ()

def dematerialize (calls : Outside) : EStateM Thrown OradarLidarRuntime TransitionOutcome := do
  let r ← get
  if r.state = .finalized then
    return notMaterialized
  modify fun r => { r with state := .shuttingDown, client := false }
  outside (closeClient calls r.client)
  modify fun r => r.become .finalized
  return done

/-- The `try` block of `configure`: a `std::exception` becomes the message. -/
def createClient (calls : Outside) (config : OradarLidarConfig) :
    EStateM Thrown OradarLidarRuntime (Option String) := do
  try
    outside (calls.create config)
    modify fun r => { r with client := true }
    outside (calls.setTimeout config.timeoutMs)
    return none
  catch thrown =>
    match thrown with
    | .exception what =>
      modify fun r => r.become .unconfigured
      return some what
    | .unknown => throw .unknown

def configure (configFrom : ParameterMap → OradarLidarConfig × String) (calls : Outside)
    (parameters : ParameterMap) : EStateM Thrown OradarLidarRuntime TransitionOutcome := do
  let r ← get
  if r.state ≠ .unconfigured then
    return sourceMismatch
  let (config, message) := configFrom parameters
  modify fun r => { r with config := config }
  if message ≠ "" then
    return ⟨.failure, message⟩
  modify fun r => r.become .configuring
  match ← createClient calls config with
  | some what => return ⟨.failure, what⟩
  | none =>
    match ← outside (connectAndApply calls true config) with
    | some message =>
      modify fun r => (r.become .unconfigured).emit
        (connectFailed "oradar_lidar_driver" "oradar_lidar.connect_failed" message)
      return ⟨.error, message⟩
    | none =>
      modify fun r => r.become .inactive
      return done

def activate (calls : Outside) : EStateM Thrown OradarLidarRuntime TransitionOutcome := do
  let r ← get
  if r.state ≠ .inactive ∨ !r.client then
    return sourceMismatch
  let measure ← outside calls.enableMeasure
  if measure ≠ .noError then
    return ⟨.error, "failed to enable MS500 measurement stream"⟩
  let stream ← outside calls.enableDataStream
  if stream ≠ .noError then
    return ⟨.error, "failed to enable MS500 measurement stream"⟩
  modify fun r => r.become .active
  outside calls.startThread
  return done

/-- The results of the two calls are not looked at. -/
def deactivate (calls : Outside) : EStateM Thrown OradarLidarRuntime TransitionOutcome := do
  let r ← get
  if r.state ≠ .active ∨ !r.client then
    return sourceMismatch
  modify fun r => r.become .inactive
  let _ ← outside calls.disableDataStream
  let _ ← outside calls.disableMeasure
  return done

def cleanup (calls : Outside) : EStateM Thrown OradarLidarRuntime TransitionOutcome := do
  let r ← get
  if r.state ≠ .inactive then
    return sourceMismatch
  modify fun r => { r with state := .cleaningUp, client := false }
  outside (closeClient calls r.client)
  modify fun r => r.become .unconfigured
  return done

def perform (configFrom : ParameterMap → OradarLidarConfig × String) (calls : Outside) :
    Operation → EStateM Thrown OradarLidarRuntime TransitionOutcome
  | .materialize _ => materialize
  | .configure parameters => configure configFrom calls parameters
  | .activate => activate calls
  | .deactivate => deactivate calls
  | .cleanup _ => cleanup calls
  | .dematerialize => dematerialize calls

def defaultConfig : OradarLidarConfig := ⟨"192.168.1.100", "", 2007, 15, 0, 0, 3000⟩

def model (configFrom : ParameterMap → OradarLidarConfig × String) : Model :=
  ⟨OradarLidarRuntime, Outside, ⟨.finalized, defaultConfig, false, []⟩, OradarLidarRuntime.state,
    perform configFrom⟩

end DeviceManager.OradarRuntime
