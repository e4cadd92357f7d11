import DeviceManager.FrameConversion
import DeviceManager.PixelAxes
import Mathlib.Data.Fintype.Pi
import Mathlib.Data.Rat.Cast.Order
import Mathlib.Tactic.FieldSimp
import Mathlib.Tactic.NormNum

namespace DeviceManager.FrameCalibration

open FrameConversion PixelAxes

/-- In exact arithmetic. -/
structure CameraCalibration where
  width : UInt32
  height : UInt32
  distortionModel : String
  d : List ℚ
  k : Fin 9 → ℚ
  r : Fin 9 → ℚ
  p : Fin 12 → ℚ

variable {n : ℕ}

/-- `m[i] *= factor`. -/
def times (m : Fin n → ℚ) (i : Fin n) (factor : ℚ) : Fin n → ℚ := Function.update m i (m i * factor)

/-- `m[i] -= offset`. -/
def minus (m : Fin n → ℚ) (i : Fin n) (offset : ℚ) : Fin n → ℚ := Function.update m i (m i - offset)

def supportsUndistortion (calibration : CameraCalibration) : Prop :=
  0 < calibration.k 0 ∧ 0 < calibration.k 4 ∧
    (calibration.distortionModel = "equidistant" ∨ calibration.distortionModel = "fisheye" ∨
      calibration.distortionModel = "plumb_bob")

instance (calibration : CameraCalibration) : Decidable (supportsUndistortion calibration) :=
  inferInstanceAs (Decidable (_ ∧ _))

/-- The rows that are cut off at the top: those that are configured, else half of them. -/
def cropY (configuredCropY maxCropY : Int32) : ℚ :=
  if 0 ≤ configuredCropY then
    (if configuredCropY < 0 then 0 else if maxCropY < configuredCropY then maxCropY
      else configuredCropY).toInt
  else maxCropY.toInt / 2

def scaleCalibrationToFrame (calibration : CameraCalibration) (width height : Int32)
    (configuredCropY : Int32) : CameraCalibration :=
  if width ≤ 0 ∨ height ≤ 0 ∨ calibration.width = 0 ∨ calibration.height = 0 then
    { calibration with width := (max width 0).toUInt32, height := (max height 0).toUInt32 }
  else if width.toUInt32 = calibration.width ∧ height.toUInt32 < calibration.height then
    let cropY := cropY configuredCropY (calibration.height.toInt32 - height)
    { calibration with
      height := height.toUInt32
      k := minus calibration.k 5 cropY
      p := minus calibration.p 6 cropY }
  else if height.toUInt32 = calibration.height ∧ width.toUInt32 < calibration.width then
    let cropX : ℚ := (calibration.width.toNat - width.toInt) / 2
    { calibration with
      width := width.toUInt32
      k := minus calibration.k 2 cropX
      p := minus calibration.p 2 cropX }
  else
    let xScale : ℚ := width.toInt / calibration.width.toNat
    let yScale : ℚ := height.toInt / calibration.height.toNat
    { calibration with
      width := width.toUInt32
      height := height.toUInt32
      k := times (times (times (times calibration.k 0 xScale) 2 xScale) 4 yScale) 5 yScale
      p := times (times (times (times (times (times calibration.p 0 xScale) 2 xScale) 3 xScale)
        5 yScale) 6 yScale) 7 yScale }

/-- `std::clamp` of the scale. -/
def wideScale (focalScale : ℚ) : ℚ :=
  if focalScale < 1 / 10 then 1 / 10 else if 1 < focalScale then 1 else focalScale

def wideFovOutputCalibration (calibration : CameraCalibration) (focalScale : ℚ) :
    CameraCalibration :=
  let scale := wideScale focalScale
  { calibration with
    k := times (times calibration.k 0 scale) 4 scale
    p := times (times calibration.p 0 scale) 5 scale }

/-- What `publish_frame` does to the calibration of an image that it rotates. -/
def rotate180 (calibration : CameraCalibration) (imageWidth imageHeight : Int32) :
    CameraCalibration :=
  let k := Function.update calibration.k 2 ((imageWidth - 1).toInt - calibration.k 2)
  let k := Function.update k 5 ((imageHeight - 1).toInt - k 5)
  { calibration with k, p := Function.update (Function.update calibration.p 2 (k 2)) 6 (k 5) }

structure UndistortMap where
  width : Int32
  height : Int32
  distortionModel : String
  d : List ℚ
  sourceK : Fin 9 → ℚ
  outputK : Fin 9 → ℚ
  sourceX : List ℚ
  sourceY : List ℚ

def calibrationMatchesMap (map : UndistortMap)
    (sourceCalibration outputCalibration : CameraCalibration) (width height : Int32) : Prop :=
  map.width = width ∧ map.height = height ∧
    map.distortionModel = sourceCalibration.distortionModel ∧ map.d = sourceCalibration.d ∧
    map.sourceK = sourceCalibration.k ∧ map.outputK = outputCalibration.k

instance (map : UndistortMap) (source output : CameraCalibration) (width height : Int32) :
    Decidable (calibrationMatchesMap map source output width height) :=
  inferInstanceAs (Decidable (_ ∧ _))

/-- The distortion that OpenCV is given: four values for a fisheye lens, else five. -/
def distortion (calibration : CameraCalibration) (fisheye : Bool) : List ℚ :=
  (List.range (if fisheye then 4 else 5)).map fun i => calibration.d.getD i 0

def buildUndistortMap (cv : OpenCv) (sourceCalibration outputCalibration : CameraCalibration)
    (width height : Int32) : Option UndistortMap :=
  if ¬ supportsUndistortion sourceCalibration ∨ width ≤ 0 ∨ height ≤ 0 then none
  else
    let fisheye := decide (sourceCalibration.distortionModel = "equidistant" ∨
      sourceCalibration.distortionModel = "fisheye")
    let source := cv.initUndistortRectifyMap fisheye sourceCalibration.k
      (distortion sourceCalibration fisheye) outputCalibration.k width.toInt.toNat height.toInt.toNat
    let pixels := List.range (width.toInt.toNat * height.toInt.toNat)
    some {
      width := width
      height := height
      distortionModel := sourceCalibration.distortionModel
      d := sourceCalibration.d
      sourceK := sourceCalibration.k
      outputK := outputCalibration.k
      sourceX := pixels.map fun i => (source i).1
      sourceY := pixels.map fun i => (source i).2 }

def remapBgr8 (cv : OpenCv) (input : List UInt8) (width height : Int32) (map : UndistortMap) :
    List UInt8 :=
  let pixelCount := (size width * size height).toNat
  if input.length ≠ (size width * size height * 3).toNat ∨ map.sourceX.length ≠ pixelCount ∨
      map.sourceY.length ≠ pixelCount then List.replicate input.length 0
  else (List.range input.length).map
    (cv.remap height.toInt.toNat width.toInt.toNat input map.sourceX map.sourceY)

@[simp] theorem length_remapBgr8 (cv : OpenCv) (input : List UInt8) (width height : Int32)
    (map : UndistortMap) : (remapBgr8 cv input width height map).length = input.length := by
  unfold remapBgr8
  dsimp only
  split_ifs <;> simp

def kAxes (k : Fin 9 → ℚ) : Axes ℚ := ⟨⟨k 0, k 2⟩, ⟨k 4, k 5⟩⟩

def pAxes (p : Fin 12 → ℚ) : Axes ℚ := ⟨⟨p 0, p 2⟩, ⟨p 5, p 6⟩⟩

structure OffAxes (a b : CameraCalibration) : Prop where
  camera : ∀ i, i ∉ ({0, 2, 4, 5} : Finset (Fin 9)) → a.k i = b.k i
  projection : ∀ i, i ∉ ({0, 2, 3, 5, 6, 7} : Finset (Fin 12)) → a.p i = b.p i

theorem OffAxes.trans {a b e : CameraCalibration} (hab : OffAxes a b) (hbe : OffAxes b e) :
    OffAxes a e :=
  ⟨fun i hi => (hab.camera i hi).trans (hbe.camera i hi),
    fun i hi => (hab.projection i hi).trans (hbe.projection i hi)⟩

/-- What happens to the pixels of the calibrated image to make it a frame. -/
def scaleSteps (calibration : CameraCalibration) (width height configuredCropY : Int32) :
    Steps ℚ :=
  if width ≤ 0 ∨ height ≤ 0 ∨ calibration.width = 0 ∨ calibration.height = 0 then .none
  else if width.toUInt32 = calibration.width ∧ height.toUInt32 < calibration.height then
    ⟨[], [.crop (cropY configuredCropY (calibration.height.toInt32 - height))]⟩
  else if height.toUInt32 = calibration.height ∧ width.toUInt32 < calibration.width then
    ⟨[.crop ((calibration.width.toNat - width.toInt) / 2)], []⟩
  else ⟨[.resize (width.toInt / calibration.width.toNat)],
    [.resize (height.toInt / calibration.height.toNat)]⟩

def wideSteps (focalScale : ℚ) : Steps ℚ :=
  ⟨[.widen (wideScale focalScale)], [.widen (wideScale focalScale)]⟩

def flipSteps (imageWidth imageHeight : Int32) : Steps ℚ :=
  ⟨[.flip (imageWidth - 1).toInt], [.flip (imageHeight - 1).toInt]⟩

theorem scaleCalibrationToFrame_axes (calibration : CameraCalibration)
    (width height configuredCropY : Int32) :
    kAxes (scaleCalibrationToFrame calibration width height configuredCropY).k =
        (kAxes calibration.k).follow (scaleSteps calibration width height configuredCropY) ∧
      pAxes (scaleCalibrationToFrame calibration width height configuredCropY).p =
        (pAxes calibration.p).follow (scaleSteps calibration width height configuredCropY) := by
  unfold scaleCalibrationToFrame scaleSteps
  split_ifs <;> exact ⟨rfl, rfl⟩

theorem wideFovOutputCalibration_axes (calibration : CameraCalibration) (focalScale : ℚ) :
    kAxes (wideFovOutputCalibration calibration focalScale).k =
        (kAxes calibration.k).follow (wideSteps focalScale) ∧
      pAxes (wideFovOutputCalibration calibration focalScale).p =
        (pAxes calibration.p).follow (wideSteps focalScale) := ⟨rfl, rfl⟩

theorem rotate180_kAxes (calibration : CameraCalibration) (imageWidth imageHeight : Int32) :
    kAxes (rotate180 calibration imageWidth imageHeight).k =
      (kAxes calibration.k).follow (flipSteps imageWidth imageHeight) := rfl

/-- The projection matrix gets the principal point of the camera matrix. -/
theorem rotate180_pAxes (calibration : CameraCalibration) (imageWidth imageHeight : Int32) :
    pAxes (rotate180 calibration imageWidth imageHeight).p =
      (pAxes calibration.p).follow (flipSteps imageWidth imageHeight) ↔
        calibration.k 2 = calibration.p 2 ∧ calibration.k 5 = calibration.p 6 := by
  have hx : (pAxes (rotate180 calibration imageWidth imageHeight).p).x =
      ⟨calibration.p 0, (imageWidth - 1).toInt - calibration.k 2⟩ := rfl
  have hy : (pAxes (rotate180 calibration imageWidth imageHeight).p).y =
      ⟨calibration.p 5, (imageHeight - 1).toInt - calibration.k 5⟩ := rfl
  rw [Axes.ext_iff, hx, hy, Axis.ext_iff, Axis.ext_iff]
  simp [Axes.follow, Axis.follow, flipSteps, Axis.after, pAxes]

theorem times_of_ne {m : Fin n → ℚ} {i j : Fin n} (h : j ≠ i) (factor : ℚ) :
    times m i factor j = m j := Function.update_of_ne h _ m

theorem minus_of_ne {m : Fin n → ℚ} {i j : Fin n} (h : j ≠ i) (offset : ℚ) :
    minus m i offset j = m j := Function.update_of_ne h _ m

theorem scaleCalibrationToFrame_offAxes (calibration : CameraCalibration)
    (width height configuredCropY : Int32) :
    OffAxes (scaleCalibrationToFrame calibration width height configuredCropY) calibration := by
  unfold scaleCalibrationToFrame
  split_ifs with hnone hcropY hcropX
  · exact ⟨fun _ _ => rfl, fun _ _ => rfl⟩
  all_goals
    constructor <;> intro i hi <;>
      simp only [Finset.mem_insert, Finset.mem_singleton, not_or] at hi <;>
      simp [times_of_ne, minus_of_ne, hi]

theorem wideFovOutputCalibration_offAxes (calibration : CameraCalibration) (focalScale : ℚ) :
    OffAxes (wideFovOutputCalibration calibration focalScale) calibration := by
  constructor <;> intro i hi <;>
    simp only [Finset.mem_insert, Finset.mem_singleton, not_or] at hi <;>
    simp [wideFovOutputCalibration, times_of_ne, hi]

theorem rotate180_offAxes (calibration : CameraCalibration) (imageWidth imageHeight : Int32) :
    OffAxes (rotate180 calibration imageWidth imageHeight) calibration := by
  constructor <;> intro i hi <;>
    simp only [Finset.mem_insert, Finset.mem_singleton, not_or] at hi <;>
    simp [rotate180, hi]

end DeviceManager.FrameCalibration
