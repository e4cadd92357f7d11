import DeviceManager.DriverConfigs
import DeviceManager.OradarWedging
import DeviceManager.StoredConfigs

namespace DeviceManager.AcceptedParameters

open Domain Fallible InProcess Narrowing ParameterReading DriverConfigs StoredConfigs

/-- An integer field of a configuration: the parameter that it is read from, its value as a
number, and the range of its type. -/
structure IntegerField (C : Type) where
  read : ParameterMap → Option Int64
  value : C → ℤ
  range : Range

/-- An in-process runtime: the configurations that a successful configure leaves, with the maps
that they have been read from, newest first, their integer fields, and the sizes in them of what
the read loop allocates. -/
structure Reader where
  Config : Type
  Accepted : List ParameterMap → Config → Prop
  fields : List (IntegerField Config)
  sizes : Config → List UInt64

/-- The parameter of a field is that of the newest map that has it. -/
def IntegerField.parameter {C : Type} (field : IntegerField C) (maps : List ParameterMap) :
    Option Int64 := maps.findSome? field.read

theorem parameter_singleton {C : Type} (field : IntegerField C) (parameters : ParameterMap) :
    field.parameter [parameters] = field.read parameters := by
  rw [IntegerField.parameter, List.findSome?_singleton]

/-- Every integer field that was read has the value of its parameter. -/
def Exact {C : Type} (fields : List (IntegerField C)) (maps : List ParameterMap) (config : C) :
    Prop :=
  ∀ field ∈ fields, ∀ v, field.parameter maps = some v → field.value config = v.toInt

/-- Every integer parameter that is read is in the range of its field. -/
def InRange {C : Type} (fields : List (IntegerField C)) (maps : List ParameterMap) : Prop :=
  ∀ field ∈ fields, ∀ v, field.parameter maps = some v → field.range.Contains v.toInt

def Allocatable (n : UInt64) : Prop := ∀ v : Int64, v.toInt < 0 → v.toUInt64 ≠ n

def given (name : String) (parameters : ParameterMap) : Option Int64 :=
  (integerParameter parameters name "").1

def firstGiven (names : List String) (parameters : ParameterMap) : Option Int64 :=
  (oneOf (integerParameter parameters) names "").1

/-- `first_int` passes over the values that are not positive. -/
def firstPositive (names : List String) (parameters : ParameterMap) : Option Int64 :=
  names.findSome? fun name => (given name parameters).filter fun v => 0 < v

variable {C : Type}

def int (name : String) (get : C → Int32) : IntegerField C :=
  ⟨given name, fun c => (get c).toInt, int32⟩

def sizeOf (name : String) (get : C → UInt64) : IntegerField C :=
  ⟨given name, fun c => (get c).toNat, size⟩

def positiveInt (names : List String) (get : C → Int32) : IntegerField C :=
  ⟨firstPositive names, fun c => (get c).toInt, int32⟩

/-- For the runtimes of one form: behind any requests, a configure with the first of the maps. The
runtime has been made with sizes that can be allocated. -/
def DriverAccepted (kind : DriverRuntimes.Kind C) (sizes : C → List UInt64)
    (maps : List ParameterMap) (config : C) : Prop :=
  ∃ base requests calls parameters, (∀ n ∈ sizes base, Allocatable n) ∧
    let s := run kind base requests
    let after := exit (DriverRuntimes.configure kind calls parameters) s.runtime
    succeeded after.2 = true ∧ maps = parameters :: s.maps ∧
      ∃ driver, after.1.driver = some driver ∧ driver.config = config

def driverReader (kind : DriverRuntimes.Kind C) (fields : List (IntegerField C))
    (sizes : C → List UInt64) : Reader := ⟨C, DriverAccepted kind sizes, fields, sizes⟩

def twsBatteryFields : List (IntegerField BatteryDriverConfig) :=
  [⟨given "battery.can_id", fun c => c.canId.toNat, uint32⟩,
    int "request_timeout_ms" (·.timeoutMs), int "poll_interval_ms" (·.pollIntervalMs),
    int "identity_poll_divider" (·.identityPollDivider),
    ⟨given "battery.device_address", fun c => c.deviceAddress.toNat, uint8⟩]

def twsBattery : Reader :=
  driverReader (DriverRuntimes.twsBattery twsConfigFrom) twsBatteryFields fun _ => []

def ch020ImuFields : List (IntegerField Ch020ImuConfig) :=
  [int "device.interface.serial_baudrate" (·.baudrate),
    sizeOf "read_chunk_size" (·.readChunkSize), int "data_timeout_ms" (·.dataTimeoutMs),
    int "reconnect_backoff_ms" (·.reconnectBackoffMs)]

def ch020Imu : Reader :=
  driverReader (DriverRuntimes.ch020Imu ch020ConfigFrom) ch020ImuFields fun c => [c.readChunkSize]

def smitLidarFields : List (IntegerField SmitLidarConfig) :=
  [int "device.interface.serial_baudrate" (·.baudrate),
    sizeOf "read_chunk_size" (·.readChunkSize), int "data_timeout_ms" (·.dataTimeoutMs),
    int "reconnect_backoff_ms" (·.reconnectBackoffMs)]

def smitLidar : Reader :=
  driverReader (DriverRuntimes.smitLidar smitConfigFrom) smitLidarFields fun c => [c.readChunkSize]

def pager100LoraFields : List (IntegerField Pager100LoraConfig) :=
  [int "device.interface.serial_baudrate" (·.baudrate),
    sizeOf "read_chunk_size" (·.readChunkSize), int "reconnect_backoff_ms" (·.reconnectBackoffMs)]

def pager100Lora : Reader :=
  driverReader (DriverRuntimes.pager100Lora pagerConfigFrom) pager100LoraFields
    fun c => [c.readChunkSize]

def oradarLidarFields : List (IntegerField OradarLidarConfig) :=
  [⟨firstGiven udpPortNames, fun c => c.udpPort.toInt, int32⟩,
    int "lidar.scan_frequency" (·.motorSpeed), int "lidar.filter_size" (·.filterSize),
    int "lidar.motor_dir" (·.motorDir), int "data_timeout_ms" (·.timeoutMs),
    int "reconnect_backoff_ms" (·.reconnectBackoffMs)]

/-- The runtime holds the part of the configuration that its requests use, and starts from the
defaults in every configure. -/
def OradarAccepted (maps : List ParameterMap) (config : OradarLidarConfig) : Prop :=
  ∃ parameters calls r, maps = [parameters] ∧ let after := exit (OradarRuntime.configure
      (fun parameters => Prod.map OradarLidarConfig.toOradarLidarConfig id
        (oradarConfigFrom parameters)) calls parameters) r
    succeeded after.2 = true ∧
      config = { (oradarConfigFrom parameters).1 with toOradarLidarConfig := after.1.config }

def oradarLidar : Reader :=
  ⟨OradarLidarConfig, OradarAccepted, oradarLidarFields, fun _ => []⟩

variable {Calibration : Type}

def gmslCameraFields : List (IntegerField (GmslV4l2CameraConfig Calibration)) :=
  [positiveInt widthNames (·.width), positiveInt heightNames (·.height),
    positiveInt fpsNames (·.fps), positiveInt ["camera.driver.read_timeout_ms"] (·.readTimeoutMs),
    int "camera.driver.calibration_crop_y" (·.calibrationCropY),
    int "camera.driver.otp_i2c_bus" (·.otpI2cBus),
    int "camera.driver.otp_i2c_address" (·.otpI2cAddress),
    int "camera.driver.otp_read_offset" (·.otpReadOffset),
    int "camera.driver.otp_read_size" (·.otpReadSize)]

/-- `decode` is `decode_ox01f10_otp`. -/
def GmslAccepted (texts : TextReaders Calibration) (maps : List ParameterMap)
    (config : GmslV4l2CameraConfig Calibration) : Prop :=
  ∃ parameters decode calls r, maps = [parameters] ∧ let after := exit (GmslRuntime.configure
      ⟨fun deviceId parameters => Prod.map GmslV4l2CameraConfig.toGmslV4l2CameraConfig id
        (gmslConfigFrom texts deviceId parameters), decode⟩ calls parameters) r
    succeeded after.2 = true ∧
      config = { (gmslConfigFrom texts r.deviceId parameters).1 with
        toGmslV4l2CameraConfig := after.1.config }

def gmslCamera (texts : TextReaders Calibration) : Reader :=
  ⟨GmslV4l2CameraConfig Calibration, GmslAccepted texts, gmslCameraFields, fun _ => []⟩

def readers (texts : TextReaders Calibration) : List Reader :=
  [twsBattery, ch020Imu, smitLidar, pager100Lora, oradarLidar, gmslCamera texts]

def Converted (old : ℤ) (found : Option Int64) (config : C) (field : IntegerField C) : Prop :=
  ∃ convert : Int64 → ℤ, (∀ v, convert v = v.toInt ↔ field.range.Contains v.toInt) ∧
    field.value config = (found.map convert).getD old

theorem exact_iff {fields : List (IntegerField C)} {maps : List ParameterMap} {config : C}
    (h : ∀ field ∈ fields, ∃ old, Converted old (field.parameter maps) config field) :
    Exact fields maps config ↔ InRange fields maps := by
  apply forall₂_congr
  intro field hfield
  obtain ⟨old, convert, hconvert, hvalue⟩ := h field hfield
  apply forall_congr'
  intro v
  apply imp_congr_right
  intro hv
  rw [hvalue, hv]
  exact hconvert v

theorem converted_cast {α : Type} {read : ParameterMap → Option Int64} {get : C → α}
    {cast : Int64 → α} {range : Range} {parameters : ParameterMap} {config : C} {old : α}
    (toNumber : α → ℤ) (hcast : ∀ v, toNumber (cast v) = v.toInt ↔ range.Contains v.toInt)
    (h : get config = ((read parameters).map cast).getD old) :
    Converted (toNumber old) (read parameters) config
      ⟨read, fun c => toNumber (get c), range⟩ := by
  refine ⟨fun v => toNumber (cast v), hcast, ?_⟩
  dsimp only
  rw [h]
  cases read parameters <;> rfl

theorem converted_int {name : String} {get : C → Int32} {parameters : ParameterMap} {config : C}
    {old : Int32} (h : get config = toInt (given name parameters) old) :
    Converted old.toInt (given name parameters) config (int name get) :=
  converted_cast Int32.toInt toInt32_iff h

theorem converted_size {name : String} {get : C → UInt64} {parameters : ParameterMap} {config : C}
    {old : UInt64} (h : get config = toSize (given name parameters) old) :
    Converted old.toNat (given name parameters) config (sizeOf name get) :=
  converted_cast (fun n : UInt64 => n.toNat) toSize_iff h

theorem converted_number {name : String} {get : C → Int32} {parameters : ParameterMap}
    {config : C} {old : Int32} (h : get config = (firstNumber parameters [name] old "").1) :
    ∃ number, Converted number (given name parameters) config (int name get) := by
  have hread : (firstNumber parameters [name] old "").1 =
      ((given name parameters).map Int64.toInt32).getD
        (firstNumber parameters [name] old "").1 := by
    cases hgiven : given name parameters with
    | none => rfl
    | some v =>
      rw [given] at hgiven
      rw [firstNumber, hgiven]
      rfl
  exact ⟨_, converted_cast Int32.toInt toInt32_iff (h.trans hread)⟩

theorem firstInt_eq {parameters : ParameterMap} {names : List String} {old other : Int32}
    (hquiet : (firstInt parameters names other "").2 = "") :
    (firstInt parameters names old "").1 =
      ((firstPositive names parameters).map Int64.toInt32).getD old := by
  have htake : (names.findSome? fun name => (integerParameter parameters name "").1.bind
      fun value => if 0 < value then some value.toInt32 else none) =
      (firstPositive names parameters).map Int64.toInt32 := by
    rw [firstPositive, List.map_findSome?]
    congr 1
    funext name
    rw [Function.comp_apply, given]
    cases (integerParameter parameters name "").1 with
    | none => rfl
    | some value =>
      by_cases hpositive : 0 < value
      · simp [hpositive]
      · simp only [Option.bind_some, Option.filter_some, decide_eq_true_eq, if_neg hpositive]
        rfl
  rw [firstInt, first_fallback _ _ _ other old] at hquiet
  rw [← htake]
  exact first_eq hquiet

theorem converted_positive {names : List String} {get : C → Int32} {parameters : ParameterMap}
    {config : C} {old other : Int32} (hquiet : (firstInt parameters names other "").2 = "")
    (h : get config = (firstInt parameters names old "").1) :
    Converted old.toInt (firstPositive names parameters) config (positiveInt names get) :=
  converted_cast Int32.toInt toInt32_iff (h.trans (firstInt_eq hquiet))

theorem read_converted {groups : List (List (Setting C))}
    (hsticky : ∀ group ∈ groups, ∀ s ∈ group.tail, Sticky s) {parameters : ParameterMap}
    {config : C} (h : (readGroups parameters groups config "").2 = "")
    {P : C → IntegerField C → Prop} {fields : List (IntegerField C)}
    (hfields : ∀ field ∈ fields,
      P (groups.flatten.foldl (fun c s => (s parameters c "").1) config) field) :
    ∀ field ∈ fields, P (readGroups parameters groups config "").1 field := by
  obtain ⟨hconfig, -⟩ := readGroups_accepted hsticky h
  rw [hconfig]
  exact hfields

theorem twsBattery_converted (config : BatteryDriverConfig) {parameters : ParameterMap}
    (h : (twsConfigFrom config parameters).2 = "") :
    ∀ field ∈ twsBatteryFields, Converted (field.value config) (field.read parameters)
      (twsConfigFrom config parameters).1 field := by
  have hsticky : ∀ group ∈ twsBatteryConfig, ∀ s ∈ group.tail, Sticky s := by
    simp [twsBatteryConfig, DriverConfigs.string, DriverConfigs.integer, DriverConfigs.bool,
      whenGiven]
  refine read_converted (P := fun after field =>
    Converted (field.value config) (field.read parameters) after field) hsticky h ?_
  simp only [twsBatteryFields, List.forall_mem_cons]
  exact ⟨converted_cast (fun n : UInt32 => n.toNat) toUInt32_iff rfl, converted_int rfl,
    converted_int rfl, converted_int rfl,
    converted_cast (fun n : UInt8 => n.toNat) toUInt8_iff rfl, List.forall_mem_nil _⟩

theorem ch020Imu_converted (config : Ch020ImuConfig) {parameters : ParameterMap}
    (h : (ch020ConfigFrom config parameters).2 = "") :
    ∀ field ∈ ch020ImuFields, Converted (field.value config) (field.read parameters)
      (ch020ConfigFrom config parameters).1 field := by
  have hsticky : ∀ group ∈ ch020ImuConfig, ∀ s ∈ group.tail, Sticky s := by
    simp [ch020ImuConfig, DriverConfigs.string, DriverConfigs.integer, whenGiven]
  refine read_converted (P := fun after field =>
    Converted (field.value config) (field.read parameters) after field) hsticky h ?_
  simp only [ch020ImuFields, List.forall_mem_cons]
  exact ⟨converted_int rfl, converted_size rfl, converted_int rfl, converted_int rfl,
    List.forall_mem_nil _⟩

theorem smitLidar_converted (config : SmitLidarConfig) {parameters : ParameterMap}
    (h : (smitConfigFrom config parameters).2 = "") :
    ∀ field ∈ smitLidarFields, Converted (field.value config) (field.read parameters)
      (smitConfigFrom config parameters).1 field := by
  have hsticky : ∀ group ∈ smitLidarConfig, ∀ s ∈ group.tail, Sticky s := by
    simp [smitLidarConfig, DriverConfigs.string, DriverConfigs.integer, number, whenGiven]
  refine read_converted (P := fun after field =>
    Converted (field.value config) (field.read parameters) after field) hsticky h ?_
  simp only [smitLidarFields, List.forall_mem_cons]
  exact ⟨converted_int rfl, converted_size rfl, converted_int rfl, converted_int rfl,
    List.forall_mem_nil _⟩

theorem pager100Lora_converted (config : Pager100LoraConfig) {parameters : ParameterMap}
    (h : (pagerConfigFrom config parameters).2 = "") :
    ∀ field ∈ pager100LoraFields, Converted (field.value config) (field.read parameters)
      (pagerConfigFrom config parameters).1 field := by
  have hsticky : ∀ group ∈ pager100LoraConfig, ∀ s ∈ group.tail, Sticky s := by
    simp [pager100LoraConfig, DriverConfigs.string, DriverConfigs.integer, whenGiven]
  refine read_converted (P := fun after field =>
    Converted (field.value config) (field.read parameters) after field) hsticky h ?_
  simp only [pager100LoraFields, List.forall_mem_cons]
  exact ⟨converted_int rfl, converted_size rfl, converted_int rfl, List.forall_mem_nil _⟩

theorem oradarLidar_converted {parameters : ParameterMap}
    (h : (oradarConfigFrom parameters).2 = "") :
    ∀ field ∈ oradarLidarFields, ∃ old,
      Converted old (field.read parameters) (oradarConfigFrom parameters).1 field := by
  have hsticky : ∀ group ∈ oradarLidarConfig, ∀ s ∈ group.tail, Sticky s := by
    simp [oradarLidarConfig, DriverConfigs.integer, DriverConfigs.bool, number, whenGiven]
  refine read_converted (P := fun after field =>
    ∃ old, Converted old (field.read parameters) after field) hsticky h ?_
  simp only [oradarLidarFields, List.forall_mem_cons]
  exact ⟨⟨_, converted_cast Int32.toInt toInt32_iff rfl⟩, ⟨_, converted_int rfl⟩,
    ⟨_, converted_int rfl⟩, ⟨_, converted_int rfl⟩, ⟨_, converted_int rfl⟩,
    ⟨_, converted_int rfl⟩, List.forall_mem_nil _⟩

theorem text_sticky (names : List String) (fallback : C → String) (store : C → String → C) :
    Sticky (text names fallback store) :=
  fun parameters c _ h =>
    first_sticky (fun name _ => parameterAs_sticky asString parameters name) _ names (fallback c) h

theorem flag_sticky (names : List String) (fallback : C → Bool) (store : C → Bool → C) :
    Sticky (flag names fallback store) :=
  fun parameters c _ h =>
    first_sticky (fun name _ => parameterAs_sticky asBool parameters name) _ names (fallback c) h

theorem positive_sticky (names : List String) (fallback : C → Int32) (store : C → Int32 → C) :
    Sticky (positive names fallback store) :=
  fun parameters c _ h =>
    first_sticky (fun name _ => parameterAs_sticky asInt parameters name) _ names (fallback c) h

theorem serialFromText_sticky (texts : TextReaders Calibration) : Sticky (serialFromText texts) :=
  fun _ _ _ h => h

theorem calibrationFromText_sticky (texts : TextReaders Calibration) :
    Sticky (calibrationFromText texts) := by
  intro parameters c errorMessage h
  unfold calibrationFromText assign
  dsimp only
  split
  · exact h
  · simp

theorem gmslV4l2CameraConfig_sticky (texts : TextReaders Calibration) (deviceId : String) :
    ∀ group ∈ gmslV4l2CameraConfig deviceId texts, ∀ s ∈ group.tail, Sticky s := by
  simp [gmslV4l2CameraConfig, text_sticky, flag_sticky, positive_sticky, serialFromText_sticky,
    calibrationFromText_sticky]

theorem gmsl_quiet {texts : TextReaders Calibration} {deviceId : String}
    {parameters : ParameterMap} (h : (gmslConfigFrom texts deviceId parameters).2 = "")
    (names : List String) (place : ℕ) {fallback store}
    (hplace : (gmslV4l2CameraConfig deviceId texts).flatten[place]? =
      some (positive names fallback store)) :
    ∃ other, (firstInt parameters names other "").2 = "" := by
  obtain ⟨-, hquiet⟩ := readGroups_accepted (gmslV4l2CameraConfig_sticky texts deviceId) h
  obtain ⟨c, hc⟩ := hquiet _ (List.mem_of_getElem? hplace)
  exact ⟨fallback c, hc⟩

theorem gmslCamera_converted (texts : TextReaders Calibration) (deviceId : String)
    {parameters : ParameterMap} (h : (gmslConfigFrom texts deviceId parameters).2 = "") :
    ∀ field ∈ gmslCameraFields, ∃ old,
      Converted old (field.read parameters) (gmslConfigFrom texts deviceId parameters).1 field := by
  obtain ⟨_, hwidth⟩ := gmsl_quiet h widthNames 12 rfl
  obtain ⟨_, hheight⟩ := gmsl_quiet h heightNames 13 rfl
  obtain ⟨_, hfps⟩ := gmsl_quiet h fpsNames 14 rfl
  obtain ⟨_, htimeout⟩ := gmsl_quiet h ["camera.driver.read_timeout_ms"] 15 rfl
  refine read_converted (P := fun after field =>
    ∃ old, Converted old (field.read parameters) after field)
    (gmslV4l2CameraConfig_sticky texts deviceId) h ?_
  simp only [gmslCameraFields, List.forall_mem_cons]
  exact ⟨⟨_, converted_positive hwidth rfl⟩, ⟨_, converted_positive hheight rfl⟩,
    ⟨_, converted_positive hfps rfl⟩, ⟨_, converted_positive htimeout rfl⟩, converted_number rfl,
    converted_number rfl, converted_number rfl, converted_number rfl, converted_number rfl,
    List.forall_mem_nil _⟩

theorem gmsl_fps {texts : TextReaders Calibration} {deviceId : String}
    {parameters : ParameterMap} (h : (gmslConfigFrom texts deviceId parameters).2 = "") :
    (gmslConfigFrom texts deviceId parameters).1.fps =
      ((firstPositive fpsNames parameters).map Int64.toInt32).getD 10 := by
  obtain ⟨_, hfps⟩ := gmsl_quiet h fpsNames 14 rfl
  obtain ⟨hconfig, -⟩ := readGroups_accepted (gmslV4l2CameraConfig_sticky texts deviceId) h
  rw [← firstInt_eq hfps, gmslConfigFrom, hconfig]
  rfl

theorem oradar_read (configFrom : ParameterMap → OradarRuntime.OradarLidarConfig × String)
    (calls : OradarRuntime.Outside) (parameters : ParameterMap)
    (r : OradarRuntime.OradarLidarRuntime)
    (hok : succeeded (exit (OradarRuntime.configure configFrom calls parameters) r).2 = true) :
    (configFrom parameters).2 = "" ∧
      (exit (OradarRuntime.configure configFrom calls parameters) r).1.config =
        (configFrom parameters).1 := by
  unfold OradarRuntime.configure at hok ⊢
  rw [exit_get] at hok ⊢
  split at hok
  · cases hok
  · rename_i hstate
    rw [if_neg hstate]
    simp only [exit_modify] at hok ⊢
    split at hok
    · cases hok
    · rename_i hmessage
      refine ⟨not_not.mp hmessage, ?_⟩
      rw [if_neg hmessage]
      rw [exit_modify, exit_bind, OradarRuntime.exit_createClient] at hok ⊢
      cases calls.create (configFrom parameters).1 with
      | error thrown => cases thrown <;> rfl
      | ok u =>
        cases calls.setTimeout (configFrom parameters).1.timeoutMs with
        | error thrown => cases thrown <;> rfl
        | ok u =>
          simp only []
          rw [exit_bind, exit_outside]
          cases OradarRuntime.connectAndApply calls true (configFrom parameters).1 with
          | error thrown => rfl
          | ok message => cases message <;> rfl

theorem applyOtpCalibration_bus {decode : List UInt8 → Except String (String × Calibration)}
    {calls : GmslRuntime.Outside Calibration}
    {config after : GmslRuntime.GmslV4l2CameraConfig Calibration}
    (h : GmslRuntime.applyOtpCalibration decode calls config = .ok after) :
    after.otpI2cBus = config.otpI2cBus := by
  unfold GmslRuntime.applyOtpCalibration at h
  split at h
  · rw [← Except.ok.inj h]
  · split at h
    · rw [← Except.ok.inj h]
      rfl
    · obtain ⟨reader, -, h⟩ := bind_ok h
      split at h
      · rw [← Except.ok.inj h]
        rfl
      · obtain ⟨result, -, h⟩ := bind_ok h
        dsimp only at h
        split at h
        · rw [← Except.ok.inj h]
          rfl
        · split at h
          · rw [← Except.ok.inj h]
            rfl
          · rw [← Except.ok.inj h]

theorem gmsl_read (decoders : GmslRuntime.Decoders Calibration)
    (calls : GmslRuntime.Outside Calibration) (parameters : ParameterMap)
    (r : GmslRuntime.GmslV4l2CameraRuntime Calibration)
    (hok : succeeded (exit (GmslRuntime.configure decoders calls parameters) r).2 = true) :
    (decoders.configFrom r.deviceId parameters).2 = "" ∧
      (exit (GmslRuntime.configure decoders calls parameters) r).1.config.otpI2cBus =
        (decoders.configFrom r.deviceId parameters).1.otpI2cBus := by
  unfold GmslRuntime.configure at hok ⊢
  rw [exit_get] at hok ⊢
  simp only [] at hok ⊢
  split at hok
  · cases hok
  · rename_i hmessage
    refine ⟨not_not.mp hmessage, ?_⟩
    rw [if_neg hmessage]
    split at hok
    · cases hok
    · rename_i hstate
      rw [if_neg hstate]
      rw [exit_modify, exit_bind, exit_outside] at hok ⊢
      cases houtput : GmslRuntime.createOutput calls
          (decoders.configFrom r.deviceId parameters).1 with
      | error thrown => rfl
      | ok u =>
        rw [houtput] at hok
        simp only [] at hok ⊢
        rw [exit_bind, exit_outside] at hok ⊢
        cases hcapture : calls.configureCapture
            (decoders.configFrom r.deviceId parameters).1 with
        | error thrown => rfl
        | ok message =>
          rw [hcapture] at hok
          cases message with
          | some message => cases hok
          | none =>
            simp only []
            rw [exit_modify, exit_bind, exit_outside]
            cases hotp : GmslRuntime.applyOtpCalibration decoders.decode calls
                (decoders.configFrom r.deviceId parameters).1 with
            | error thrown => rfl
            | ok calibrated => exact applyOtpCalibration_bus hotp

theorem exists_convert (r : Range) :
    ∃ convert : Int64 → ℤ, ∀ v, convert v = v.toInt ↔ r.Contains v.toInt := by
  refine ⟨fun v => if r.Contains v.toInt then v.toInt else v.toInt + 1, fun v => ?_⟩
  by_cases hv : r.Contains v.toInt
  · simp [hv]
  · simp [hv]

theorem readFrom_converted {configFrom : C → ParameterMap → C × String} {base config : C}
    {maps : List ParameterMap} {field : IntegerField C}
    (hfield : ∀ old parameters, (configFrom old parameters).2 = "" →
      Converted (field.value old) (field.read parameters) (configFrom old parameters).1 field)
    (h : ReadFrom configFrom base maps config) :
    Converted (field.value base) (field.parameter maps) config field := by
  induction h with
  | base =>
    obtain ⟨convert, hconvert⟩ := exists_convert field.range
    exact ⟨convert, hconvert, rfl⟩
  | @next maps config parameters h hquiet ih =>
    obtain ⟨convert, hconvert, hvalue⟩ := hfield config parameters hquiet
    rw [IntegerField.parameter, List.findSome?_cons]
    cases hread : field.read parameters with
    | none =>
      obtain ⟨convert', hconvert', hvalue'⟩ := ih
      rw [hread] at hvalue
      exact ⟨convert', hconvert', hvalue.trans hvalue'⟩
    | some v =>
      rw [hread] at hvalue
      exact ⟨convert, hconvert, hvalue⟩

theorem driverAccepted_read {kind : DriverRuntimes.Kind C} (hkind : Regular kind)
    {sizes : C → List UInt64} {maps : List ParameterMap} {config : C}
    (h : DriverAccepted kind sizes maps config) :
    ∃ base, (∀ n ∈ sizes base, Allocatable n) ∧ ReadFrom kind.configFrom base maps config := by
  obtain ⟨base, requests, calls, parameters, hbase, hok, rfl, driver, hdriver, rfl⟩ := h
  refine ⟨base, hbase, ?_⟩
  have hstored := stored_configure hkind.stores (stored_run hkind base requests) calls parameters
  have hread := hstored.read driver hdriver
  rwa [request_configure_maps, configure_succeeded hkind hok, if_pos rfl] at hread

theorem allocatable_iff (n : UInt64) : Allocatable n ↔ n.toNat < 2 ^ 63 := by
  constructor
  · intro h
    by_contra hlarge
    refine h n.toInt64 ?_ rfl
    rw [toInt_eq]
    split_ifs with hsmall
    · exact absurd hsmall hlarge
    · have hlt := UInt64.toNat_lt n
      have hsame : n.toInt64.toUInt64.toNat = n.toNat := rfl
      omega
  · rintro hsmall v hnegative rfl
    rw [toInt_eq, if_pos hsmall] at hnegative
    omega

/-- A size that has been read in range, or that the runtime was made with. -/
theorem allocatable_size {get : C → UInt64} {base config : C} {found : Option Int64}
    {name : String} (hbase : Allocatable (get base))
    (hconverted : Converted (get base).toNat found config (sizeOf name get))
    (hrange : ∀ v, found = some v → size.Contains v.toInt) : Allocatable (get config) := by
  obtain ⟨convert, hconvert, hvalue⟩ := hconverted
  rw [allocatable_iff] at hbase ⊢
  have hsize : ((get config).toNat : ℤ) = (found.map convert).getD (get base).toNat := hvalue
  cases hfound : found with
  | none =>
    rw [hfound] at hsize
    have hsame : ((get config).toNat : ℤ) = (get base).toNat := hsize
    omega
  | some v =>
    rw [hfound] at hsize
    have hexact : ((get config).toNat : ℤ) = v.toInt :=
      hsize.trans ((hconvert v).mpr (hrange v hfound))
    have hbound := toInt_eq v
    have hlt := UInt64.toNat_lt v.toUInt64
    split_ifs at hbound
    · omega
    · omega

theorem driver_exact {kind : DriverRuntimes.Kind C} (hkind : Regular kind)
    {fields : List (IntegerField C)} {sizes : C → List UInt64} {maps : List ParameterMap}
    {config : C}
    (hread : ∀ old parameters, (kind.configFrom old parameters).2 = "" → ∀ field ∈ fields,
      Converted (field.value old) (field.read parameters) (kind.configFrom old parameters).1 field)
    (hsizes : (∀ c, sizes c = []) ∨ ∃ get : C → UInt64, (∀ c, sizes c = [get c]) ∧
      sizeOf "read_chunk_size" get ∈ fields)
    (h : DriverAccepted kind sizes maps config) :
    Exact fields maps config ∧ (∀ n ∈ sizes config, Allocatable n) ↔ InRange fields maps := by
  obtain ⟨base, hbase, hmaps⟩ := driverAccepted_read hkind h
  have hconverted : ∀ field ∈ fields,
      Converted (field.value base) (field.parameter maps) config field := fun field hfield =>
    readFrom_converted (fun old parameters hquiet => hread old parameters hquiet field hfield) hmaps
  have hiff := exact_iff fun field hfield => ⟨_, hconverted field hfield⟩
  refine ⟨fun hboth => hiff.mp hboth.1, fun hrange => ⟨hiff.mpr hrange, ?_⟩⟩
  obtain hnone | ⟨get, hget, hfield⟩ := hsizes
  · simp [hnone]
  · rw [hget] at hbase ⊢
    intro n hn
    rw [List.mem_singleton.mp hn]
    exact allocatable_size (hbase _ List.mem_cons_self) (hconverted _ hfield)
      (hrange _ hfield)

theorem oradarAccepted_converted {maps : List ParameterMap} {config : OradarLidarConfig}
    (h : OradarAccepted maps config) :
    ∀ field ∈ oradarLidarFields, ∃ old, Converted old (field.parameter maps) config field := by
  obtain ⟨parameters, calls, r, rfl, hok, rfl⟩ := h
  obtain ⟨hmessage, hconfig⟩ := oradar_read _ calls parameters r hok
  rw [hconfig]
  intro field hfield
  rw [parameter_singleton]
  exact oradarLidar_converted hmessage field hfield

theorem gmslAccepted_converted {texts : TextReaders Calibration} {maps : List ParameterMap}
    {config : GmslV4l2CameraConfig Calibration} (h : GmslAccepted texts maps config) :
    ∀ field ∈ gmslCameraFields, ∃ old, Converted old (field.parameter maps) config field := by
  obtain ⟨parameters, decode, calls, r, rfl, hok, rfl⟩ := h
  obtain ⟨hmessage, hbus⟩ := gmsl_read _ calls parameters r hok
  intro field hfield
  obtain ⟨old, convert, hconvert, hvalue⟩ :=
    gmslCamera_converted texts r.deviceId hmessage field hfield
  rw [parameter_singleton]
  refine ⟨old, convert, hconvert, Eq.trans ?_ hvalue⟩
  simp only [gmslCameraFields, List.mem_cons, List.not_mem_nil, or_false] at hfield
  obtain rfl | rfl | rfl | rfl | rfl | rfl | rfl | rfl | rfl := hfield
  all_goals first
    | rfl
    | exact congrArg Int32.toInt hbus

/-- A configure that is accepted has every integer exactly, and a size that can be allocated, if and
only if the parameters they have been read from are all in range. -/
theorem exact_iff_inRange (texts : TextReaders Calibration) :
    ∀ reader ∈ readers texts, ∀ maps config, reader.Accepted maps config →
      (Exact reader.fields maps config ∧ (∀ n ∈ reader.sizes config, Allocatable n) ↔
        InRange reader.fields maps) := by
  intro reader hreader maps config haccepted
  simp only [readers, List.mem_cons, List.not_mem_nil, or_false] at hreader
  obtain rfl | rfl | rfl | rfl | rfl | rfl := hreader
  · exact driver_exact (regular_tws _) (fun old _ => twsBattery_converted old)
      (Or.inl fun _ => rfl) haccepted
  · exact driver_exact (regular_ch020 _) (fun old _ => ch020Imu_converted old)
      (Or.inr ⟨_, fun _ => rfl, List.mem_cons_of_mem _ List.mem_cons_self⟩) haccepted
  · exact driver_exact (regular_smit _) (fun old _ => smitLidar_converted old)
      (Or.inr ⟨_, fun _ => rfl, List.mem_cons_of_mem _ List.mem_cons_self⟩) haccepted
  · exact driver_exact (regular_pager _) (fun old _ => pager100Lora_converted old)
      (Or.inr ⟨_, fun _ => rfl, List.mem_cons_of_mem _ List.mem_cons_self⟩) haccepted
  · exact Iff.trans (and_iff_left (List.forall_mem_nil _))
      (exact_iff (oradarAccepted_converted haccepted))
  · exact Iff.trans (and_iff_left (List.forall_mem_nil _))
      (exact_iff (gmslAccepted_converted haccepted))

def connectedTransport : DriverRuntimes.Outside C where
  release := .ok ()
  create _ := .ok true
  isConnected := .ok true
  connect := .ok none
  startThread := .ok ()

def addressed (address : Int64) : ParameterMap :=
  Finmap.singleton "battery.device_address" (.int address)

theorem addressed_accepted (address : Int64) :
    twsBattery.Accepted [addressed address]
      { ({} : BatteryDriverConfig) with deviceAddress := address.toUInt64.toUInt8 } :=
  ⟨{}, [(connectedTransport, .materialize ∅)], connectedTransport, addressed address,
    List.forall_mem_nil _, rfl, rfl, _, rfl, rfl⟩

def sized (size : Int64) : ParameterMap := Finmap.singleton "read_chunk_size" (.int size)

/-- Configured with a size, cleaned up, and configured without one. -/
theorem sized_accepted (size : Int64) :
    ch020Imu.Accepted [∅, sized size]
      { ({} : Ch020ImuConfig) with readChunkSize := size.toUInt64 } := by
  refine ⟨{}, [(connectedTransport, .materialize ∅), (connectedTransport, .configure (sized size)),
    (connectedTransport, .cleanup ∅)], connectedTransport, ∅, ?_, rfl, rfl, _, rfl, rfl⟩
  intro n hn
  rw [List.mem_singleton.mp hn, allocatable_iff]
  decide

def noTexts : TextReaders Unit := ⟨fun _ _ => none, fun _ => some none, fun _ => none⟩

theorem addressTwo_inRange : InRange twsBatteryFields [addressed 2] := by
  intro field hfield v hv
  simp only [twsBatteryFields, List.mem_cons, List.not_mem_nil, or_false] at hfield
  obtain rfl | rfl | rfl | rfl | rfl := hfield <;> cases hv
  decide

theorem addressTwo_exact : Exact twsBatteryFields [addressed 2] { deviceAddress := 2 } :=
  ((exact_iff_inRange noTexts twsBattery List.mem_cons_self [addressed 2] _
    (addressed_accepted 2)).mpr addressTwo_inRange).1

/-- The address 257 is stored as 1, and the size -1 is still there behind a configure without it. -/
theorem addressWrapped_inexact :
    (twsBattery.Accepted [addressed 257] ({ deviceAddress := 1 } : BatteryDriverConfig) ∧
      ¬ Exact twsBatteryFields [addressed 257] { deviceAddress := 1 }) ∧
    ch020Imu.Accepted [∅, sized (-1)] ({ readChunkSize := 0xFFFFFFFFFFFFFFFF } : Ch020ImuConfig) ∧
      ¬ Allocatable 0xFFFFFFFFFFFFFFFF := by
  refine ⟨⟨addressed_accepted 257, fun h => ?_⟩, sized_accepted (-1), fun h => ?_⟩
  · have hvalue := h _ (List.mem_of_getElem? (show twsBatteryFields[4]? = some _ from rfl)) 257 rfl
    exact absurd hvalue (by decide)
  · exact h (-1) (by decide) (by decide)

end DeviceManager.AcceptedParameters
