import DeviceManager.InProcess

namespace DeviceManager.DriverRuntimes

open Domain Fallible RuntimeBase InProcess
open ReliableRuntime (stable)

variable {Config : Type}

/-- What the transport of a driver and `std::thread` do in one request. The `false` of
`create` is a null pointer, which only the battery driver looks for. -/
structure Outside (Config : Type) where
  release : Reply Unit
  create : Config → Reply Bool
  isConnected : Reply Bool
  connect : Reply (Option String)
  startThread : Reply Unit

/-- A driver: its `config_`, whether it has a `transport_`, and `configured_`. -/
structure Driver (Config : Type) where
  config : Config
  transport : Bool
  configured : Bool

/-- `TwsBatteryRuntime`, `Ch020ImuRuntime`, `SmitLidarRuntime` or `Pager100LoraRuntime`.
`emitted` are the events handed to the event handler, newest first. -/
structure Runtime (Config : Type) where
  state : LifecycleState
  config : Config
  driver : Option (Driver Config)
  emitted : List DeviceEvent

def Runtime.become (r : Runtime Config) (state : LifecycleState) : Runtime Config :=
  { r with state := state }

def Runtime.emit (r : Runtime Config) (event : DeviceEvent) : Runtime Config :=
  { r with emitted := event :: r.emitted }

def Runtime.putDriver (driver : Driver Config) (r : Runtime Config) : Runtime Config :=
  { r with driver := some driver }

/-- `cleanup` of the four drivers; the battery driver has no `configured_`. -/
def cleanupDriver (calls : Outside Config) : EStateM Thrown (Driver Config) Unit := do
  if (← get).transport then
    outside calls.release
    modify fun d => { d with transport := false, configured := false }
  else modify fun d => { d with configured := false }

/-- `TwsBatteryDriver::configure`, with the part of `ensure_connected` behind its transport. -/
def twsConfigure (calls : Outside Config) (config : Config) :
    EStateM Thrown (Driver Config) (Option String) := do
  cleanupDriver calls
  modify fun d => { d with config := config }
  if !(← outside (calls.create config)) then
    return some "battery transport factory returned null"
  modify fun d => { d with transport := true }
  if ← outside calls.isConnected then
    return none
  outside calls.connect

/-- `Ch020ImuDriver::configure` and `SmitLidarDriver::configure`. -/
def serialConfigure (calls : Outside Config) (config : Config) :
    EStateM Thrown (Driver Config) (Option String) := do
  cleanupDriver calls
  modify fun d => { d with config := config }
  let _ ← outside (calls.create config)
  modify fun d => { d with transport := true }
  match ← outside calls.connect with
  | none =>
    modify fun d => { d with configured := true }
    return none
  | some message =>
    modify fun d => { d with transport := false, configured := false }
    return some message

/-- `Pager100LoraDriver::configure`: the transport is kept once it is open. -/
def pagerConfigure (calls : Outside Config) (config : Config) :
    EStateM Thrown (Driver Config) (Option String) := do
  cleanupDriver calls
  modify fun d => { d with config := config }
  let _ ← outside (calls.create config)
  match ← outside calls.connect with
  | none =>
    modify fun d => { d with transport := true, configured := true }
    return none
  | some message =>
    modify fun d => { d with configured := false }
    return some message

/-- What the four runtimes differ in. `configFrom` is `config_from`: the configuration
and the error message that it leaves. -/
structure Kind (Config : Type) where
  configFrom : Config → ParameterMap → Config × String
  configure : Outside Config → Config → EStateM Thrown (Driver Config) (Option String)
  isConfigured : Driver Config → Bool
  notConfigured : String
  connectFailed : String
  source : String
  dematerialize : Outside Config → EStateM Thrown (Runtime Config) TransitionOutcome

def materialize : EStateM Thrown (Runtime Config) TransitionOutcome := do
  let r ← get
  if r.state ≠ .finalized ∨ r.driver.isSome then
    return alreadyMaterialized
  modify fun r => { r with driver := some ⟨r.config, false, false⟩, state := .unconfigured }
  return done

/-- `dematerialize` of the three runtimes that move the driver out first. -/
def dematerialize (calls : Outside Config) :
    EStateM Thrown (Runtime Config) TransitionOutcome := do
  let r ← get
  match r.driver with
  | none => return notMaterialized
  | some driver =>
    if r.state = .finalized then
      return notMaterialized
    modify fun r => { r with state := .shuttingDown, driver := none }
    within (fun _ r => r) (cleanupDriver calls) driver
    modify fun r => r.become .finalized
    return done

/-- `TwsBatteryRuntime::dematerialize`, which resets the driver behind its cleanup. -/
def twsDematerialize (calls : Outside Config) :
    EStateM Thrown (Runtime Config) TransitionOutcome := do
  let r ← get
  match r.driver with
  | none => return notMaterialized
  | some driver =>
    if r.state = .finalized then
      return notMaterialized
    modify fun r => r.become .shuttingDown
    within Runtime.putDriver (cleanupDriver calls) driver
    modify fun r => { r with driver := none, state := .finalized }
    return done

def twsBattery (configFrom : Config → ParameterMap → Config × String) : Kind Config where
  configFrom := configFrom
  configure := twsConfigure
  isConfigured := Driver.transport
  notConfigured := "battery driver is not configured"
  connectFailed := "tws_battery.connect_failed"
  source := "tws_battery_driver"
  dematerialize := twsDematerialize

def ch020Imu (configFrom : Config → ParameterMap → Config × String) : Kind Config where
  configFrom := configFrom
  configure := serialConfigure
  isConfigured := Driver.configured
  notConfigured := "imu driver is not configured"
  connectFailed := "ch020_imu.connect_failed"
  source := "ch020_imu_driver"
  dematerialize := dematerialize

def smitLidar (configFrom : Config → ParameterMap → Config × String) : Kind Config where
  configFrom := configFrom
  configure := serialConfigure
  isConfigured := Driver.configured
  notConfigured := "lidar driver is not configured"
  connectFailed := "smit_lidar.connect_failed"
  source := "smit_lidar_driver"
  dematerialize := dematerialize

def pager100Lora (configFrom : Config → ParameterMap → Config × String) : Kind Config where
  configFrom := configFrom
  configure := pagerConfigure
  isConfigured := Driver.configured
  notConfigured := "lora driver is not configured"
  connectFailed := "pager100.connect_failed"
  source := "pager100_lora_bridge"
  dematerialize := dematerialize

def configure (kind : Kind Config) (calls : Outside Config) (parameters : ParameterMap) :
    EStateM Thrown (Runtime Config) TransitionOutcome := do
  let r ← get
  match r.driver with
  | none => return sourceMismatch
  | some driver =>
    if r.state ≠ .unconfigured then
      return sourceMismatch
    let (config, message) := kind.configFrom driver.config parameters
    if message ≠ "" then
      return ⟨.failure, message⟩
    modify fun r => r.become .configuring
    match ← within Runtime.putDriver (kind.configure calls config) driver with
    | none =>
      modify fun r => r.become .inactive
      return done
    | some message =>
      modify fun r => (r.become .unconfigured).emit
        (connectFailed kind.source kind.connectFailed message)
      return ⟨.error, message⟩

def activate (kind : Kind Config) (calls : Outside Config) :
    EStateM Thrown (Runtime Config) TransitionOutcome := do
  let r ← get
  match r.driver with
  | none => return sourceMismatch
  | some driver =>
    if r.state ≠ .inactive then
      return sourceMismatch
    if !kind.isConfigured driver then
      return ⟨.failure, kind.notConfigured⟩
    modify fun r => r.become .active
    outside calls.startThread
    return done

/-- Behind the new state the thread is joined, which does not throw. -/
def deactivate : EStateM Thrown (Runtime Config) TransitionOutcome := do
  let r ← get
  if r.state ≠ .active ∨ r.driver.isNone then
    return sourceMismatch
  modify fun r => r.become .inactive
  return done

def cleanup (calls : Outside Config) : EStateM Thrown (Runtime Config) TransitionOutcome := do
  let r ← get
  match r.driver with
  | none => return sourceMismatch
  | some driver =>
    if r.state ≠ .inactive then
      return sourceMismatch
    modify fun r => r.become .cleaningUp
    within Runtime.putDriver (cleanupDriver calls) driver
    modify fun r => r.become .unconfigured
    return done

def perform (kind : Kind Config) (calls : Outside Config) :
    Operation → EStateM Thrown (Runtime Config) TransitionOutcome
  | .materialize _ => materialize
  | .configure parameters => configure kind calls parameters
  | .activate => activate kind calls
  | .deactivate => deactivate
  | .cleanup _ => cleanup calls
  | .dematerialize => kind.dematerialize calls

def model (kind : Kind Config) (config : Config) : Model :=
  ⟨Runtime Config, Outside Config, ⟨.finalized, config, none, []⟩, Runtime.state, perform kind⟩

end DeviceManager.DriverRuntimes
