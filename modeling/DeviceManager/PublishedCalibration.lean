import DeviceManager.FramePublishing
import Mathlib.Data.Fin.VecNotation

namespace DeviceManager.PublishedCalibration

open PixelAxes FrameConversion FrameCalibration FramePublishing

variable (cv : OpenCv) (c : Camera) (frame : CapturedFrame)

/-- `image_undistorted`, where a frame is published. -/
def imageUndistorted : Bool :=
  (c.undistort cv frame (convertToBgr8 cv frame).output (c.captureCalibration frame)).1.isSome

def captureSteps (calibration : CameraCalibration) : Steps ℚ :=
  (scaleSteps calibration frame.width frame.height c.calibrationCropY).append
    (if imageUndistorted cv c frame then wideSteps c.undistortFocalScale else .none)

def appliedSteps (calibration : CameraCalibration) : Steps ℚ :=
  (captureSteps cv c frame calibration).append
    (if c.rotate180 then flipSteps frame.width frame.height else .none)

/-- Both matrices follow the pixels, stay alike where they were, and keep the other entries. -/
structure Follows (calibration : CameraCalibration) (info : CameraInfo) : Prop where
  camera : kAxes info.k = (kAxes calibration.k).follow (appliedSteps cv c frame calibration)
  projection : pAxes info.p = (pAxes calibration.p).follow (appliedSteps cv c frame calibration)
  coincide : kAxes calibration.k = pAxes calibration.p → kAxes info.k = pAxes info.p
  offAxes : OffAxes { calibration with k := info.k, p := info.p } calibration

theorem scaleSteps_proper (calibration : CameraCalibration) (width height configuredCropY : Int32) :
    (∀ step ∈ (scaleSteps calibration width height configuredCropY).x, step.Proper) ∧
      ∀ step ∈ (scaleSteps calibration width height configuredCropY).y, step.Proper := by
  unfold scaleSteps
  split_ifs with hnone hcropY hcropX
  · simp [Steps.none]
  · simp [PixelStep.Proper]
  · simp [PixelStep.Proper]
  · have hfactor : ∀ (n : Int32) (m : UInt32), ¬ n ≤ 0 → m ≠ 0 →
        (n.toInt : ℚ) / (m.toNat : ℚ) ≠ 0 := by
      intro n m hn hm
      have hpos : n.toInt ≠ 0 := fun h => hn (Int32.le_iff_toInt_le.mpr (le_of_eq h))
      have hnat : m.toNat ≠ 0 := fun h => hm (UInt32.toNat_inj.mp h)
      exact div_ne_zero (Int.cast_ne_zero.mpr hpos) (Nat.cast_ne_zero.mpr hnat)
    simp only [not_or] at hnone
    obtain ⟨hw, hh, hcw, hch⟩ := hnone
    exact ⟨List.forall_mem_singleton.mpr (hfactor _ _ hw hcw),
      List.forall_mem_singleton.mpr (hfactor _ _ hh hch)⟩

theorem captureSteps_proper (calibration : CameraCalibration) :
    (∀ step ∈ (captureSteps cv c frame calibration).x, step.Proper) ∧
      ∀ step ∈ (captureSteps cv c frame calibration).y, step.Proper := by
  obtain ⟨hx, hy⟩ := scaleSteps_proper calibration frame.width frame.height c.calibrationCropY
  unfold captureSteps
  constructor
  · refine List.forall_mem_append.mpr ⟨hx, ?_⟩
    split_ifs <;> simp [wideSteps, Steps.none, PixelStep.Proper]
  · refine List.forall_mem_append.mpr ⟨hy, ?_⟩
    split_ifs <;> simp [wideSteps, Steps.none, PixelStep.Proper]

variable {cv c frame}

theorem undistort_calibration {bgr imageData : List UInt8} {capture output : CameraCalibration}
    (h : (c.undistort cv frame bgr (some capture)).1 = some (imageData, output)) :
    output = wideFovOutputCalibration capture c.undistortFocalScale := by
  unfold Camera.undistort at h
  dsimp only at h
  split_ifs at h with hsupported
  split at h
  · cases h
  · split_ifs at h with hsize
    exact (Prod.ext_iff.mp (Option.some.inj h)).2.symm

theorem undistortMapFor_isSome (cv : OpenCv) (c : Camera) {source : CameraCalibration}
    (output : CameraCalibration) (h : Positive frame) (hsource : supportsUndistortion source) :
    (c.undistortMapFor cv source output frame.width frame.height).1.isSome = true := by
  unfold Camera.undistortMapFor
  dsimp only
  split
  · rfl
  · have hwidth : ¬ frame.width ≤ 0 := Int32.not_le.mpr h.width
    have hheight : ¬ frame.height ≤ 0 := Int32.not_le.mpr h.height
    unfold buildUndistortMap
    rw [if_neg (by simp [hsource, hwidth, hheight])]
    rfl

theorem imageUndistorted_iff (h : Positive frame)
    (himage : (convertToBgr8 cv frame).output.length = bgrSize frame) :
    imageUndistorted cv c frame = true ↔
      c.undistortImage = true ∧ ∃ capture, c.captureCalibration frame = some capture ∧
        supportsUndistortion capture := by
  unfold imageUndistorted
  cases hcapture : c.captureCalibration frame with
  | none => simp [Camera.undistort]
  | some capture =>
    unfold Camera.undistort
    dsimp only
    split_ifs with hsupported
    · have hfound := undistortMapFor_isSome cv c
        (wideFovOutputCalibration capture c.undistortFocalScale) h hsupported.2
      obtain ⟨map, hmap⟩ := Option.isSome_iff_exists.mp hfound
      rw [hmap]
      simp [himage, hsupported]
    · simpa using hsupported

/-- The calibration that is there before the rotation follows the steps so far. -/
theorem captured_axes {calibration : CameraCalibration}
    (hcalibration : c.config.calibration = some calibration) :
    ∃ base, (((c.undistort cv frame (convertToBgr8 cv frame).output
        (c.captureCalibration frame)).1.map Prod.snd).or (c.captureCalibration frame)) = some base ∧
      kAxes base.k = (kAxes calibration.k).follow (captureSteps cv c frame calibration) ∧
      pAxes base.p = (pAxes calibration.p).follow (captureSteps cv c frame calibration) ∧
      OffAxes base calibration := by
  let capture := scaleCalibrationToFrame calibration frame.width frame.height c.calibrationCropY
  have hcapture : c.captureCalibration frame = some capture := by
    rw [Camera.captureCalibration, hcalibration]
    rfl
  obtain ⟨hk, hp⟩ := scaleCalibrationToFrame_axes calibration frame.width frame.height
    c.calibrationCropY
  have hoff := scaleCalibrationToFrame_offAxes calibration frame.width frame.height
    c.calibrationCropY
  unfold captureSteps imageUndistorted
  rw [hcapture]
  cases hundistorted : (c.undistort cv frame (convertToBgr8 cv frame).output (some capture)).1 with
  | none =>
    refine ⟨capture, rfl, ?_, ?_, hoff⟩
    · rw [hk, Axes.follow_append]
      rfl
    · rw [hp, Axes.follow_append]
      rfl
  | some undistorted =>
    obtain ⟨imageData, output⟩ := undistorted
    obtain rfl := undistort_calibration hundistorted
    obtain ⟨hwideK, hwideP⟩ := wideFovOutputCalibration_axes capture c.undistortFocalScale
    refine ⟨_, rfl, ?_, ?_, (wideFovOutputCalibration_offAxes capture _).trans hoff⟩
    · rw [hwideK, hk, Option.isSome_some, if_pos rfl, Axes.follow_append]
    · rw [hwideP, hp, Option.isSome_some, if_pos rfl, Axes.follow_append]

/-- What the rotation makes of a calibration, where there is one. -/
def turned (c : Camera) (frame : CapturedFrame) (calibration : CameraCalibration) :
    CameraCalibration :=
  if c.rotate180 then FrameCalibration.rotate180 calibration frame.width frame.height
  else calibration

theorem turned_kAxes (c : Camera) (frame : CapturedFrame) (calibration : CameraCalibration) :
    kAxes (turned c frame calibration).k = (kAxes calibration.k).follow
      (if c.rotate180 then flipSteps frame.width frame.height else .none) := by
  unfold turned
  split_ifs
  · exact rotate180_kAxes calibration frame.width frame.height
  · rfl

theorem turned_pAxes (c : Camera) (frame : CapturedFrame) (calibration : CameraCalibration) :
    pAxes (turned c frame calibration).p = (pAxes calibration.p).follow
        (if c.rotate180 then flipSteps frame.width frame.height else .none) ↔
      (c.rotate180 = true →
        calibration.k 2 = calibration.p 2 ∧ calibration.k 5 = calibration.p 6) := by
  unfold turned
  split_ifs with hrotate
  · rw [rotate180_pAxes]
    exact ⟨fun h _ => h, fun h => h hrotate⟩
  · exact iff_of_true rfl fun h => absurd h hrotate

theorem turned_offAxes (c : Camera) (frame : CapturedFrame) (calibration : CameraCalibration) :
    OffAxes (turned c frame calibration) calibration := by
  unfold turned
  split_ifs
  · exact rotate180_offAxes calibration frame.width frame.height
  · exact ⟨fun _ _ => rfl, fun _ _ => rfl⟩

theorem publish_cameraInfo {now : ℤ} {bgr : List UInt8}
    {undistorted : Option (List UInt8 × CameraCalibration)} {base : CameraCalibration}
    (hbase : (undistorted.map Prod.snd).or (c.captureCalibration frame) = some base)
    {info : CameraInfo} (h : .cameraInfo info ∈ c.publish cv now frame bgr undistorted) :
    ∃ image imageUndistorted,
      info = cameraInfo image (some (turned c frame base)) imageUndistorted := by
  unfold Camera.publish at h
  dsimp only at h
  rw [hbase] at h
  obtain h | h := List.mem_append.mp h
  · obtain h | h := List.mem_append.mp h
    · split_ifs at h <;> simp at h
    · split_ifs at h <;> simp at h
  · simp only [List.mem_cons, reduceCtorEq, List.not_mem_nil, or_false, false_or,
      Published.cameraInfo.injEq] at h
    refine ⟨_, _, h.trans (congrArg (fun calibration => cameraInfo _ calibration _) ?_)⟩
    unfold turned
    split_ifs <;> rfl

theorem cameraInfo_k (image : Image) (calibration : CameraCalibration) (imageUndistorted : Bool) :
    (cameraInfo image (some calibration) imageUndistorted).k = calibration.k ∧
      (cameraInfo image (some calibration) imageUndistorted).p = calibration.p := by
  unfold cameraInfo
  cases imageUndistorted <;> exact ⟨rfl, rfl⟩

theorem publishFrame_cameraInfo {now : ℤ} {info : CameraInfo}
    (h : .cameraInfo info ∈ (publishFrame cv now c frame).1) :
    .cameraInfo info ∈ c.publish cv now frame (convertToBgr8 cv frame).output
      (c.undistort cv frame (convertToBgr8 cv frame).output (c.captureCalibration frame)).1 := by
  unfold publishFrame at h
  dsimp only at h
  split_ifs at h
  · cases h
  · cases h
  · exact h

/-- The principal points are alike behind the capture exactly where they were before. -/
theorem captured_center {calibration base : CameraCalibration}
    (hk : kAxes base.k = (kAxes calibration.k).follow (captureSteps cv c frame calibration))
    (hp : pAxes base.p = (pAxes calibration.p).follow (captureSteps cv c frame calibration)) :
    base.k 2 = base.p 2 ∧ base.k 5 = base.p 6 ↔
      calibration.k 2 = calibration.p 2 ∧ calibration.k 5 = calibration.p 6 := by
  obtain ⟨hx, hy⟩ := captureSteps_proper cv c frame calibration
  have hkx := congrArg (fun a => a.x.center) hk
  have hky := congrArg (fun a => a.y.center) hk
  have hpx := congrArg (fun a => a.x.center) hp
  have hpy := congrArg (fun a => a.y.center) hp
  have hcenterX := Axis.follow_center (a := (kAxes calibration.k).x) (b := (pAxes calibration.p).x) hx
  have hcenterY := Axis.follow_center (a := (kAxes calibration.k).y) (b := (pAxes calibration.p).y) hy
  exact and_congr ((Iff.of_eq (congrArg₂ Eq hkx hpx)).trans hcenterX)
    ((Iff.of_eq (congrArg₂ Eq hky hpy)).trans hcenterY)

/-- The calibration that is published follows the pixels exactly where the image is not rotated,
or its matrices have the same principal points. -/
theorem follows_iff (cv : OpenCv) (now : ℤ) (c : Camera) (frame : CapturedFrame)
    {calibration : CameraCalibration} (hcalibration : c.config.calibration = some calibration)
    {info : CameraInfo} (hinfo : .cameraInfo info ∈ (publishFrame cv now c frame).1) :
    Follows cv c frame calibration info ↔
      (c.rotate180 = true →
        calibration.k 2 = calibration.p 2 ∧ calibration.k 5 = calibration.p 6) := by
  obtain ⟨base, hbase, hk, hp, hoff⟩ := captured_axes hcalibration
  obtain ⟨image, imageUndistorted, rfl⟩ :=
    publish_cameraInfo hbase (publishFrame_cameraInfo hinfo)
  obtain ⟨hinfoK, hinfoP⟩ := cameraInfo_k image (turned c frame base) imageUndistorted
  have hcamera : kAxes (turned c frame base).k =
      (kAxes calibration.k).follow (appliedSteps cv c frame calibration) := by
    rw [appliedSteps, Axes.follow_append, ← hk]
    exact turned_kAxes c frame base
  have hprojection : pAxes (turned c frame base).p =
      (pAxes calibration.p).follow (appliedSteps cv c frame calibration) ↔
        (c.rotate180 = true →
          calibration.k 2 = calibration.p 2 ∧ calibration.k 5 = calibration.p 6) := by
    rw [appliedSteps, Axes.follow_append, ← hp, ← captured_center hk hp]
    exact turned_pAxes c frame base
  have hrest := (turned_offAxes c frame base).trans hoff
  rw [← hinfoK] at hcamera
  rw [← hinfoP] at hprojection
  constructor
  · exact fun hfollows => hprojection.mp hfollows.projection
  · intro hcond
    have hmoved := hprojection.mpr hcond
    refine ⟨hcamera, hmoved, fun halike => ?_, ?_⟩
    · rw [hcamera, hmoved, halike]
    · rw [hinfoK, hinfoP]
      exact ⟨hrest.camera, hrest.projection⟩

def turnedCamera (calibration : CameraCalibration) : Camera :=
  { frontCamera with
    undistortImage := false, rotate180 := true, config.calibration := some calibration }

def pixel : CapturedFrame := ⟨1, 1, "BGR8", [10, 20, 30]⟩

def calibrationOf (camera projection : ℚ) : CameraCalibration :=
  ⟨1, 1, "plumb_bob", [], ![1, 0, camera, 0, 1, camera, 0, 0, 1], ![1, 0, 0, 0, 1, 0, 0, 0, 1],
    ![1, 0, projection, 0, 0, 1, projection, 0, 0, 0, 1, 0]⟩

def pixelInfo (calibration : CameraCalibration) : CameraInfo :=
  cameraInfo ((turnedCamera calibration).image 0 pixel (rotated black pixel pixel.data))
    (some (turned (turnedCamera calibration) pixel
      (scaleCalibrationToFrame calibration 1 1 (-1)))) false

theorem pixelInfo_mem (calibration : CameraCalibration) :
    .cameraInfo (pixelInfo calibration) ∈
      (publishFrame black 0 (turnedCamera calibration) pixel).1 :=
  List.mem_of_getElem? (i := 1) rfl

theorem follows_alike :
    Follows black (turnedCamera (calibrationOf 3 3)) pixel (calibrationOf 3 3)
        (pixelInfo (calibrationOf 3 3)) ↔
      ((turnedCamera (calibrationOf 3 3)).rotate180 = true →
        (calibrationOf 3 3).k 2 = (calibrationOf 3 3).p 2 ∧
          (calibrationOf 3 3).k 5 = (calibrationOf 3 3).p 6) :=
  follows_iff black 0 (turnedCamera (calibrationOf 3 3)) pixel rfl (pixelInfo_mem _)

/-- A rotation gives the projection matrix the principal point of the camera matrix. -/
theorem follows_parted :
    .cameraInfo (pixelInfo (calibrationOf 3 4)) ∈
        (publishFrame black 0 (turnedCamera (calibrationOf 3 4)) pixel).1 ∧
      ¬ Follows black (turnedCamera (calibrationOf 3 4)) pixel (calibrationOf 3 4)
        (pixelInfo (calibrationOf 3 4)) := by
  refine ⟨pixelInfo_mem _, fun hfollows => ?_⟩
  have hcenter := congrArg (fun a => a.x.center) hfollows.projection
  exact absurd hcenter (by decide +kernel)

end DeviceManager.PublishedCalibration
