import DeviceManager.BatteryDriver
import DeviceManager.GmslRuntime
import DeviceManager.OradarRuntime
import DeviceManager.ParameterReading

namespace DeviceManager.DriverConfigs

open Domain ParameterReading

structure Ch020ImuConfig where
  port : String := "/dev/ttyS7"
  baudrate : Int32 := 115200
  readChunkSize : UInt64 := 256
  dataTimeoutMs : Int32 := 2000
  reconnectBackoffMs : Int32 := 1000

/-- The angles are the bits of doubles. -/
structure SmitLidarConfig where
  port : String := ""
  baudrate : Int32 := 921600
  angleMinDeg : UInt64 := 0xC066800000000000
  angleMaxDeg : UInt64 := 0x4066800000000000
  readChunkSize : UInt64 := 1024
  dataTimeoutMs : Int32 := 2000
  reconnectBackoffMs : Int32 := 1000

structure Pager100LoraConfig where
  port : String := "/dev/ttyS6"
  baudrate : Int32 := 115200
  readChunkSize : UInt64 := 128
  reconnectBackoffMs : Int32 := 1000

/-- With the fields that only the read loop uses. -/
structure OradarLidarConfig extends OradarRuntime.OradarLidarConfig where
  reconnectBackoffMs : Int32
  angleMinDeg : UInt64
  angleMaxDeg : UInt64
  rangeMinM : UInt64
  rangeMaxM : UInt64
  inverted : Bool

/-- With the fields that only the capture loop and the backend use. -/
structure GmslV4l2CameraConfig (Calibration : Type)
    extends GmslRuntime.GmslV4l2CameraConfig Calibration where
  frameId : String
  pixelFormat : String
  intrinsicParams : String
  width : Int32
  height : Int32
  fps : Int32
  readTimeoutMs : Int32
  undistortImage : Bool
  undistortFocalScale : UInt64
  calibrationCropY : Int32
  rotate180 : Bool
  otpI2cAddress : Int32
  otpReadOffset : Int32
  otpReadSize : Int32

variable {C α : Type}

/-- `if (const auto value = ..) config.field = *value`, followed by a look at the message. -/
def whenGiven (read : ParameterMap → String → Option α × String) (store : C → Option α → C) :
    List (Setting C) :=
  [assign (fun parameters _ errorMessage => read parameters errorMessage) store]

def string (name : String) (store : C → Option String → C) : List (Setting C) :=
  whenGiven (fun parameters => stringParameter parameters name) store

def bool (name : String) (store : C → Option Bool → C) : List (Setting C) :=
  whenGiven (fun parameters => boolParameter parameters name) store

def integer (name : String) (store : C → Option Int64 → C) : List (Setting C) :=
  whenGiven (fun parameters => integerParameter parameters name) store

def number (name : String) (store : C → Option UInt64 → C) : List (Setting C) :=
  whenGiven (fun parameters => numberParameter parameters name) store

/-- `static_cast<int>` of what was read, or the value that the field has. -/
def toInt (value : Option Int64) (field : Int32) : Int32 := (value.map Int64.toInt32).getD field

/-- `static_cast<std::size_t>`. -/
def toSize (value : Option Int64) (field : UInt64) : UInt64 := (value.map Int64.toUInt64).getD field

def twsBatteryConfig : List (List (Setting BatteryDriverConfig)) :=
  [string "device.interface.can_name" fun c v => { c with canInterface := v.getD c.canInterface },
    integer "battery.can_id" fun c v =>
      { c with canId := (v.map fun value => value.toUInt64.toUInt32).getD c.canId },
    bool "battery.use_extended_frame" fun c v =>
      { c with useExtendedFrame := v.getD c.useExtendedFrame },
    integer "request_timeout_ms" fun c v => { c with timeoutMs := toInt v c.timeoutMs },
    integer "poll_interval_ms" fun c v => { c with pollIntervalMs := toInt v c.pollIntervalMs },
    integer "identity_poll_divider" fun c v =>
      { c with identityPollDivider := toInt v c.identityPollDivider },
    integer "battery.device_address" fun c v =>
      { c with deviceAddress := (v.map fun value => value.toUInt64.toUInt8).getD c.deviceAddress }]

def ch020ImuConfig : List (List (Setting Ch020ImuConfig)) :=
  [string "device.interface.serial_port" fun c v => { c with port := v.getD c.port },
    integer "device.interface.serial_baudrate" fun c v =>
      { c with baudrate := toInt v c.baudrate },
    integer "read_chunk_size" fun c v => { c with readChunkSize := toSize v c.readChunkSize },
    integer "data_timeout_ms" fun c v => { c with dataTimeoutMs := toInt v c.dataTimeoutMs },
    integer "reconnect_backoff_ms" fun c v =>
      { c with reconnectBackoffMs := toInt v c.reconnectBackoffMs }]

def smitLidarConfig : List (List (Setting SmitLidarConfig)) :=
  [string "device.interface.serial_port" fun c v => { c with port := v.getD c.port },
    integer "device.interface.serial_baudrate" fun c v =>
      { c with baudrate := toInt v c.baudrate },
    number "lidar.scan_angle_min" fun c v => { c with angleMinDeg := v.getD c.angleMinDeg },
    number "lidar.scan_angle_max" fun c v => { c with angleMaxDeg := v.getD c.angleMaxDeg },
    integer "read_chunk_size" fun c v => { c with readChunkSize := toSize v c.readChunkSize },
    integer "data_timeout_ms" fun c v => { c with dataTimeoutMs := toInt v c.dataTimeoutMs },
    integer "reconnect_backoff_ms" fun c v =>
      { c with reconnectBackoffMs := toInt v c.reconnectBackoffMs }]

def pager100LoraConfig : List (List (Setting Pager100LoraConfig)) :=
  [string "device.interface.serial_port" fun c v => { c with port := v.getD c.port },
    integer "device.interface.serial_baudrate" fun c v =>
      { c with baudrate := toInt v c.baudrate },
    integer "read_chunk_size" fun c v => { c with readChunkSize := toSize v c.readChunkSize },
    integer "reconnect_backoff_ms" fun c v =>
      { c with reconnectBackoffMs := toInt v c.reconnectBackoffMs }]

def udpPortNames : List String := ["device.interface.udp_port", "device.interface.ethernet_port"]

def oradarLidarConfig : List (List (Setting OradarLidarConfig)) :=
  [whenGiven (fun parameters => oneOf (stringParameter parameters)
      ["device.interface.ip_address", "device.interface.ethernet_ip"])
      fun c v => { c with ipAddress := v.getD c.ipAddress },
    whenGiven (fun parameters => oneOf (stringParameter parameters)
      ["device.interface.name", "device.interface.network_interface",
        "device.interface.ethernet_name"])
      fun c v => { c with networkInterface := v.getD c.networkInterface },
    whenGiven (fun parameters => oneOf (integerParameter parameters) udpPortNames)
      fun c v => { c with udpPort := toInt v c.udpPort },
    integer "lidar.scan_frequency" fun c v => { c with motorSpeed := toInt v c.motorSpeed },
    integer "lidar.filter_size" fun c v => { c with filterSize := toInt v c.filterSize },
    integer "lidar.motor_dir" fun c v => { c with motorDir := toInt v c.motorDir },
    number "lidar.scan_angle_min" fun c v => { c with angleMinDeg := v.getD c.angleMinDeg },
    number "lidar.scan_angle_max" fun c v => { c with angleMaxDeg := v.getD c.angleMaxDeg },
    number "lidar.range_min" fun c v => { c with rangeMinM := v.getD c.rangeMinM },
    number "lidar.range_max" fun c v => { c with rangeMaxM := v.getD c.rangeMaxM },
    bool "lidar.inverted" fun c v => { c with inverted := v.getD c.inverted },
    integer "data_timeout_ms" fun c v => { c with timeoutMs := toInt v c.timeoutMs },
    integer "reconnect_backoff_ms" fun c v =>
      { c with reconnectBackoffMs := toInt v c.reconnectBackoffMs }]

/-- What `config_from` starts from. -/
def oradarDefaults : OradarLidarConfig where
  ipAddress := "192.168.1.100"
  networkInterface := ""
  udpPort := 2007
  motorSpeed := 15
  filterSize := 0
  motorDir := 0
  timeoutMs := 3000
  reconnectBackoffMs := 1000
  angleMinDeg := 0xC060E00000000000
  angleMaxDeg := 0x4060E00000000000
  rangeMinM := 0x3FA999999999999A
  rangeMaxM := 0x403E000000000000
  inverted := false

variable {Calibration : Type}

/-- The readers of free text in the camera runtime: the regular expressions over the intrinsic
parameters, the calibration in them (the outer option is empty on an error), and
`std::strtod`. -/
structure TextReaders (Calibration : Type) where
  stringField : String → String → Option String
  parseCameraCalibration : String → Option (Option Calibration)
  strtod : String → Option UInt64

def gmslDefaults : GmslV4l2CameraConfig Calibration where
  cameraName := "gmsl_camera"
  frameId := "gmsl_camera_link"
  serialNumber := ""
  videoDevice := "/dev/video0"
  imageTopic := "image_raw"
  distortedImageTopic := "image_raw_distorted"
  cameraInfoTopic := "camera_info"
  serialNumberTopic := "serial_number"
  pixelFormat := "NV12"
  intrinsicParams := ""
  width := 1280
  height := 720
  fps := 10
  readTimeoutMs := 1000
  undistortImage := true
  undistortFocalScale := 0x3FEB333333333333
  calibrationCropY := -1
  rotate180 := false
  publishDistortedImage := false
  readOtpOnStart := true
  otpI2cBus := -1
  otpI2cAddress := 0x36
  otpReadOffset := 0x10000
  otpReadSize := 0x2000
  otpStatus := "disabled"
  otpResultI2cBus := -1
  otpErrorMessage := ""
  calibration := none

def text (names : List String) (fallback : C → String) (store : C → String → C) : Setting C :=
  assign (fun parameters c => firstString parameters names (fallback c)) store

def flag (names : List String) (fallback : C → Bool) (store : C → Bool → C) : Setting C :=
  assign (fun parameters c => firstBool parameters names (fallback c)) store

def positive (names : List String) (fallback : C → Int32) (store : C → Int32 → C) : Setting C :=
  assign (fun parameters c => firstInt parameters names (fallback c)) store

def any (names : List String) (fallback : C → Int32) (store : C → Int32 → C) : Setting C :=
  assign (fun parameters c => firstNumber parameters names (fallback c)) store

/-- The serial number in the intrinsic parameters, if no parameter has given one. -/
def serialFromText (readers : TextReaders Calibration) :
    Setting (GmslV4l2CameraConfig Calibration) :=
  assign
    (fun _ c errorMessage =>
      ((readers.stringField c.intrinsicParams "serial_number").or
        (readers.stringField c.intrinsicParams "sn"), errorMessage))
    fun c v => { c with
      serialNumber := if c.serialNumber = "" then v.getD c.serialNumber else c.serialNumber }

def calibrationFromText (readers : TextReaders Calibration) :
    Setting (GmslV4l2CameraConfig Calibration) :=
  assign
    (fun _ c errorMessage =>
      match readers.parseCameraCalibration c.intrinsicParams with
      | some calibration => (calibration, errorMessage)
      | none =>
        (none, "invalid camera.driver.intrinsic_params: missing k[9] or fx/fy/cx/cy"))
    fun c v => { c with calibration := v }

def widthNames : List String :=
  ["camera.driver.color_width", "camera.driver.image_resolution_width"]

def heightNames : List String :=
  ["camera.driver.color_height", "camera.driver.image_resolution_height"]

def fpsNames : List String := ["camera.driver.color_fps", "camera.driver.fps"]

def gmslV4l2CameraConfig (deviceId : String) (readers : TextReaders Calibration) :
    List (List (Setting (GmslV4l2CameraConfig Calibration))) :=
  [[text ["camera.basic.camera_name", "camera.base.camera_name"]
      (fun c => if deviceId = "" then c.cameraName else deviceId)
      fun c v => { c with cameraName := v }],
    [text ["camera.basic.frame_id", "camera.basic.color_optical_frame_id"]
        (fun c => c.cameraName ++ "_link") fun c v => { c with frameId := v },
      text ["camera.basic.serial_number", "camera.driver.serial_number"]
        (·.serialNumber) fun c v => { c with serialNumber := v },
      text ["device.interface.gmsl_device", "camera.driver.video_device"]
        (·.videoDevice) fun c v => { c with videoDevice := v },
      text ["camera.driver.image_topic"] (·.imageTopic) fun c v => { c with imageTopic := v },
      text ["camera.driver.distorted_image_topic"]
        (·.distortedImageTopic) fun c v => { c with distortedImageTopic := v },
      text ["camera.driver.camera_info_topic"]
        (·.cameraInfoTopic) fun c v => { c with cameraInfoTopic := v },
      text ["camera.driver.serial_number_topic"]
        (·.serialNumberTopic) fun c v => { c with serialNumberTopic := v },
      text ["camera.driver.color_format", "camera.driver.pixel_format"]
        (·.pixelFormat) fun c v => { c with pixelFormat := v },
      text ["camera.driver.intrinsic_params"]
        (·.intrinsicParams) fun c v => { c with intrinsicParams := v },
      serialFromText readers,
      calibrationFromText readers],
    [positive widthNames (·.width) fun c v => { c with width := v },
      positive heightNames (·.height) fun c v => { c with height := v },
      positive fpsNames (·.fps) fun c v => { c with fps := v },
      positive ["camera.driver.read_timeout_ms"]
        (·.readTimeoutMs) fun c v => { c with readTimeoutMs := v },
      flag ["camera.driver.undistort_image"]
        (·.undistortImage) fun c v => { c with undistortImage := v }],
    [assign (fun parameters c => firstDouble readers.strtod parameters
        ["camera.driver.undistort_focal_scale"] c.undistortFocalScale)
        fun c v => { c with undistortFocalScale := v }],
    [any ["camera.driver.calibration_crop_y"]
        (·.calibrationCropY) fun c v => { c with calibrationCropY := v }],
    [flag ["camera.driver.rotate_180"] (·.rotate180) fun c v => { c with rotate180 := v }],
    [flag ["camera.driver.publish_distorted_image"]
        (·.publishDistortedImage) fun c v => { c with publishDistortedImage := v }],
    [flag ["camera.driver.read_otp_on_start"]
        (·.readOtpOnStart) fun c v => { c with readOtpOnStart := v }],
    [any ["camera.driver.otp_i2c_bus"] (·.otpI2cBus) fun c v => { c with otpI2cBus := v }],
    [any ["camera.driver.otp_i2c_address"]
        (·.otpI2cAddress) fun c v => { c with otpI2cAddress := v }],
    [any ["camera.driver.otp_read_offset"]
        (·.otpReadOffset) fun c v => { c with otpReadOffset := v }],
    [any ["camera.driver.otp_read_size"] (·.otpReadSize) fun c v => { c with otpReadSize := v }]]

/-- `config_from` of the six runtimes. The first four start from the configuration of the
driver. -/
def twsConfigFrom (config : BatteryDriverConfig) (parameters : ParameterMap) :
    BatteryDriverConfig × String := readGroups parameters twsBatteryConfig config ""

def ch020ConfigFrom (config : Ch020ImuConfig) (parameters : ParameterMap) :
    Ch020ImuConfig × String := readGroups parameters ch020ImuConfig config ""

def smitConfigFrom (config : SmitLidarConfig) (parameters : ParameterMap) :
    SmitLidarConfig × String := readGroups parameters smitLidarConfig config ""

def pagerConfigFrom (config : Pager100LoraConfig) (parameters : ParameterMap) :
    Pager100LoraConfig × String := readGroups parameters pager100LoraConfig config ""

def oradarConfigFrom (parameters : ParameterMap) : OradarLidarConfig × String :=
  readGroups parameters oradarLidarConfig oradarDefaults ""

def gmslConfigFrom (readers : TextReaders Calibration) (deviceId : String)
    (parameters : ParameterMap) : GmslV4l2CameraConfig Calibration × String :=
  readGroups parameters (gmslV4l2CameraConfig deviceId readers) gmslDefaults ""

end DeviceManager.DriverConfigs
