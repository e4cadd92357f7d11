import DeviceManager.FrameCalibration
import DeviceManager.GmslRuntime

namespace DeviceManager.FramePublishing

open Domain FrameConversion FrameCalibration GmslRuntime

/-- A runtime with what `publish_frame` reads of it besides: more of its configuration, whether
there are a node and publishers, and the map of the last image. -/
structure Camera extends GmslV4l2CameraRuntime CameraCalibration where
  frameId : String
  undistortImage : Bool
  undistortFocalScale : ℚ
  calibrationCropY : Int32
  rotate180 : Bool
  outputNode : Bool
  distortedImagePublisher : Bool
  undistortMap : Option UndistortMap

structure Image where
  stamp : ℤ
  frameId : String
  height : UInt32
  width : UInt32
  encoding : String
  isBigendian : Bool
  step : UInt32
  data : List UInt8

structure CameraInfo where
  stamp : ℤ
  frameId : String
  height : UInt32
  width : UInt32
  distortionModel : String
  d : List ℚ
  k : Fin 9 → ℚ
  r : Fin 9 → ℚ
  p : Fin 12 → ℚ

inductive Published where
  | distortedImage (image : Image)
  | serialNumber (serialNumber : String)
  | image (image : Image)
  | cameraInfo (cameraInfo : CameraInfo)

def Camera.emit (c : Camera) (connected : Bool) (code message : String)
    (targetState : LifecycleState) : Camera :=
  { c with toGmslV4l2CameraRuntime :=
      c.toGmslV4l2CameraRuntime.emitConnectionEvent connected code message targetState }

def Camera.unsupported (c : Camera) (frame : CapturedFrame) : Camera :=
  c.emit false "gmsl_v4l2.unsupported_format"
    ("unsupported or malformed frame format: " ++ frame.pixelFormat) .unconfigured

def Camera.undistortMapFor (cv : OpenCv) (c : Camera)
    (sourceCalibration outputCalibration : CameraCalibration) (width height : Int32) :
    Option UndistortMap × Camera :=
  let kept := c.undistortMap.filter fun map =>
    decide (calibrationMatchesMap map sourceCalibration outputCalibration width height)
  match kept with
  | some map => (some map, c)
  | none =>
    let map := buildUndistortMap cv sourceCalibration outputCalibration width height
    (map, { c with undistortMap := map })

def Camera.undistort (cv : OpenCv) (c : Camera) (frame : CapturedFrame) (bgr : List UInt8) :
    Option CameraCalibration → Option (List UInt8 × CameraCalibration) × Camera
  | none => (none, c)
  | some captureCalibration =>
    if c.undistortImage ∧ supportsUndistortion captureCalibration then
      let outputCalibration := wideFovOutputCalibration captureCalibration c.undistortFocalScale
      let found := c.undistortMapFor cv captureCalibration outputCalibration frame.width frame.height
      match found.1 with
      | none => (none, found.2)
      | some map =>
        let imageData := remapBgr8 cv bgr frame.width frame.height map
        if imageData.length = bgrSize frame then (some (imageData, outputCalibration), found.2)
        else (none, found.2)
    else (none, c)

/-- `cv::rotate` of the image, in place. -/
def rotated (cv : OpenCv) (frame : CapturedFrame) (imageData : List UInt8) : List UInt8 :=
  (List.range imageData.length).map
    (cv.rotate180 frame.height.toInt.toNat frame.width.toInt.toNat imageData)

def Camera.image (c : Camera) (now : ℤ) (frame : CapturedFrame) (data : List UInt8) : Image where
  stamp := now
  frameId := c.frameId
  height := frame.height.toUInt32
  width := frame.width.toUInt32
  encoding := "bgr8"
  isBigendian := false
  step := (frame.width * 3).toUInt32
  data := data

def cameraInfo (image : Image) (calibration : Option CameraCalibration) (imageUndistorted : Bool) :
    CameraInfo :=
  let info : CameraInfo := ⟨image.stamp, image.frameId, image.height, image.width, "", [], 0, 0, 0⟩
  match calibration with
  | none => info
  | some calibration =>
    let info := { info with
      distortionModel := calibration.distortionModel
      d := calibration.d
      k := calibration.k
      r := calibration.r
      p := calibration.p }
    if imageUndistorted then { info with distortionModel := "plumb_bob", d := [0, 0, 0, 0, 0] }
    else info

/-- `capture_calibration`. -/
def Camera.captureCalibration (c : Camera) (frame : CapturedFrame) : Option CameraCalibration :=
  c.config.calibration.map fun calibration =>
    scaleCalibrationToFrame calibration frame.width frame.height c.calibrationCropY

/-- The end of `publish_frame`. -/
def Camera.publish (cv : OpenCv) (c : Camera) (now : ℤ) (frame : CapturedFrame) (bgr : List UInt8)
    (undistorted : Option (List UInt8 × CameraCalibration)) : List Published :=
  let imageData := (undistorted.map Prod.fst).getD bgr
  let calibration := (undistorted.map Prod.snd).or (c.captureCalibration frame)
  let distorted : List Published :=
    if c.config.publishDistortedImage ∧ c.distortedImagePublisher then
      [.distortedImage (c.image now frame bgr)]
    else []
  let image := c.image now frame (if c.rotate180 then rotated cv frame imageData else imageData)
  let calibration := if c.rotate180 then
      calibration.map fun calibration =>
        FrameCalibration.rotate180 calibration frame.width frame.height
    else calibration
  let serialNumber : List Published :=
    if c.config.serialNumber = "" then [] else [.serialNumber c.config.serialNumber]
  distorted ++ serialNumber ++
    [.image image, .cameraInfo (cameraInfo image calibration undistorted.isSome)]

def publishFrame (cv : OpenCv) (now : ℤ) (c : Camera) (frame : CapturedFrame) :
    List Published × Camera :=
  if !c.outputNode then ([], c)
  else
    let bgr := (convertToBgr8 cv frame).output
    if bgr.length ≠ bgrSize frame then ([], c.unsupported frame)
    else
      let undistorted := c.undistort cv frame bgr (c.captureCalibration frame)
      (c.publish cv now frame bgr undistorted.1, undistorted.2)

variable {cv : OpenCv} {frame : CapturedFrame}

theorem publishFrame_malformed {c : Camera} (hnode : c.outputNode = true)
    (hsize : (convertToBgr8 cv frame).output.length ≠ bgrSize frame) (now : ℤ) :
    publishFrame cv now c frame = ([], c.unsupported frame) := by
  unfold publishFrame
  rw [hnode, Bool.not_true, if_neg Bool.false_ne_true]
  exact if_pos hsize

/-- What is read lies inside the data, and what is too short for an image is reported. -/
structure InFrame (cv : OpenCv) (frame : CapturedFrame) : Prop where
  read : (convertToBgr8 cv frame).read ≤ frame.data.length
  short : frame.data.length < needed frame →
    ((convertToBgr8 cv frame).output.length : ℤ) ≠
        frame.width.toInt * frame.height.toInt * 3 ∧
      ∀ now c, c.outputNode = true → publishFrame cv now c frame = ([], c.unsupported frame)

/-- A conversion stays inside the frame, and a short frame is reported, exactly where the data are
complete or their number is checked. -/
theorem inFrame_iff (cv : OpenCv) (h : Positive frame) :
    InFrame cv frame ↔
      needed frame ≤ frame.data.length ∨ ¬ (pixelFormat frame.pixelFormat).Unchecked := by
  constructor
  · intro hin
    refine or_iff_not_imp_right.mpr fun hformat => ?_
    exact (read_unchecked cv (not_not.mp hformat)).symm.trans_le hin.read
  · rintro (hall | hformat)
    · exact ⟨read_le cv h hall, fun hshort => absurd hall (not_le.mpr hshort)⟩
    · refine ⟨read_checked cv h hformat, fun hshort => ?_⟩
      have hsize := output_short cv h hformat hshort
      refine ⟨fun heq => hsize ?_, fun now c hnode => publishFrame_malformed hnode hsize now⟩
      rw [← h.bgrSize_int] at heq
      exact_mod_cast heq

def black : OpenCv where
  cvtColor _ _ _ _ _ := 0
  initUndistortRectifyMap _ _ _ _ _ _ _ := (0, 0)
  remap _ _ _ _ _ _ := 0
  rotate180 _ _ _ _ := 0

def frontCamera : Camera where
  deviceId := "front_camera"
  state := .active
  config := defaultConfig
  capture := true
  lastConnected := none
  emitted := []
  frameId := "gmsl_camera_link"
  undistortImage := true
  undistortFocalScale := 85 / 100
  calibrationCropY := -1
  rotate180 := false
  outputNode := true
  distortedImagePublisher := false
  undistortMap := none

theorem inFrame_gray :
    InFrame black ⟨2, 2, "GREY", [0, 0, 0, 0]⟩ ↔
      needed ⟨2, 2, "GREY", [0, 0, 0, 0]⟩ ≤ [0, 0, 0, 0].length ∨
        ¬ (pixelFormat "GREY").Unchecked :=
  inFrame_iff black ⟨by decide, by decide⟩

/-- Of a pixel with one byte of three, three bytes are read, and an image is published. -/
theorem cutPixel_outside :
    Positive ⟨1, 1, "RGB8", [0]⟩ ∧ ¬ InFrame black ⟨1, 1, "RGB8", [0]⟩ ∧
      (publishFrame black 0 frontCamera ⟨1, 1, "RGB8", [0]⟩).1.length = 2 := by
  refine ⟨⟨by decide, by decide⟩, fun hin => ?_, by decide⟩
  have hread : (3 : ℕ) ≤ 1 := hin.read
  exact absurd hread (by decide)

end DeviceManager.FramePublishing
