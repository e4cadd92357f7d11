import Mathlib.Data.Rat.Defs
import Mathlib.Tactic.Linarith
import Mathlib.Tactic.Ring

namespace DeviceManager.FrameConversion

structure CapturedFrame where
  width : Int32
  height : Int32
  pixelFormat : String
  data : List UInt8

inductive ColorConversion where
  | rgb2Bgr
  | gray2Bgr
  | yuv2BgrNv12
  | yuv2BgrNv21
  | yuv2BgrYuy2
  | yuv2BgrUyvy

/-- What OpenCV writes to each place of a result: byte by byte, and for the two maps pixel by
pixel. -/
structure OpenCv where
  cvtColor : ColorConversion → (rows cols : ℕ) → List UInt8 → ℕ → UInt8
  initUndistortRectifyMap : (fisheye : Bool) → (cameraMatrix : Fin 9 → ℚ) → (distortion : List ℚ) →
    (newCameraMatrix : Fin 9 → ℚ) → (width height : ℕ) → ℕ → ℚ × ℚ
  remap : (rows cols : ℕ) → List UInt8 → (mapX mapY : List ℚ) → ℕ → UInt8
  rotate180 : (rows cols : ℕ) → List UInt8 → ℕ → UInt8

structure Conversion where
  read : ℕ
  output : List UInt8

/-- `static_cast<std::size_t>` of an `int`. -/
def size (n : Int32) : UInt64 := n.toInt64.toUInt64

/-- `static_cast<int>` of a `std::size_t`. -/
def toInt (n : UInt64) : Int32 := Int32.ofNat n.toNat

/-- The names that `convert_to_bgr8` compares with, in its order. -/
inductive PixelFormat where
  | bgr8
  | rgb8
  | mono8
  | nv12
  | nv21
  | yuyv
  | uyvy
  | other

def pixelFormat (name : String) : PixelFormat :=
  if name = "BGR8" ∨ name = "bgr8" then .bgr8
  else if name = "RGB8" ∨ name = "rgb8" then .rgb8
  else if name = "MONO8" ∨ name = "GRAY8" ∨ name = "GREY" then .mono8
  else if name = "NV12" then .nv12
  else if name = "NV21" then .nv21
  else if name = "YUYV" ∨ name = "YUY2" then .yuyv
  else if name = "UYVY" then .uyvy
  else .other

/-- The rows that `cv::cvtColor` makes of those of its input. -/
def bgrRows : ColorConversion → ℕ → ℕ
  | .yuv2BgrNv12, rows | .yuv2BgrNv21, rows => rows * 2 / 3
  | _, rows => rows

variable (cv : OpenCv)

/-- A `cv::Mat` over the data, `cv::cvtColor`, and the copy of what comes of it. -/
def converted (frame : CapturedFrame) (rows cols : Int32) (channels : ℕ) (code : ColorConversion) :
    Conversion :=
  let rows := rows.toInt.toNat
  let cols := cols.toInt.toNat
  ⟨rows * cols * channels,
    (List.range (bgrRows code rows * cols * 3)).map (cv.cvtColor code rows cols frame.data)⟩

/-- `NV12` and `NV21`. -/
def convertedNv (frame : CapturedFrame) (code : ColorConversion) : Conversion :=
  let width := size frame.width
  let height := size frame.height
  let ySize := width * height
  if frame.data.length < (ySize + ySize / 2).toNat then ⟨0, []⟩
  else converted cv frame (toInt (height + height / 2)) (toInt width) 1 code

def convertToBgr8 (frame : CapturedFrame) : Conversion :=
  match pixelFormat frame.pixelFormat with
  | .bgr8 => ⟨frame.data.length, frame.data⟩
  | .rgb8 => converted cv frame frame.height frame.width 3 .rgb2Bgr
  | .mono8 => converted cv frame frame.height frame.width 1 .gray2Bgr
  | .nv12 => convertedNv cv frame .yuv2BgrNv12
  | .nv21 => convertedNv cv frame .yuv2BgrNv21
  | .yuyv => converted cv frame frame.height frame.width 2 .yuv2BgrYuy2
  | .uyvy => converted cv frame frame.height frame.width 2 .yuv2BgrUyvy
  | .other => ⟨0, []⟩

/-- The size that `publish_frame` asks for. -/
def bgrSize (frame : CapturedFrame) : ℕ := (size frame.width * size frame.height * 3).toNat

/-- The bytes of an image of this format. -/
def needed (frame : CapturedFrame) : ℕ :=
  let width := frame.width.toInt.toNat
  let height := frame.height.toInt.toNat
  match pixelFormat frame.pixelFormat with
  | .bgr8 | .rgb8 => height * width * 3
  | .mono8 => height * width
  | .nv12 | .nv21 => (height + height / 2) * width
  | .yuyv | .uyvy => height * width * 2
  | .other => 0

/-- The formats whose data are converted without a look at their number. -/
def PixelFormat.Unchecked : PixelFormat → Prop
  | .rgb8 | .mono8 | .yuyv | .uyvy => True
  | .bgr8 | .nv12 | .nv21 | .other => False

instance : DecidablePred PixelFormat.Unchecked := fun f => by
  cases f <;> unfold PixelFormat.Unchecked <;> infer_instance

theorem toNat_size {n : Int32} (h : 0 < n) : (size n).toNat = n.toInt.toNat := by
  have hle : (0 : Int64) ≤ n.toInt64 := by
    rw [Int64.le_iff_toInt_le, Int32.toInt_toInt64]
    exact le_of_lt (Int32.lt_iff_toInt_lt.mp h)
  rw [size, Int64.toNat_toUInt64_of_le hle, Int64.toNatClampNeg, Int32.toInt_toInt64]

theorem toNat_lt (n : Int32) : n.toInt.toNat < 2 ^ 31 := by
  have hlt := n.toInt_lt
  omega

theorem toNat_toInt_le (n : UInt64) : (toInt n).toInt.toNat ≤ n.toNat := by
  have hsize : ((Int32.size : ℕ) : ℤ) = 4294967296 := rfl
  rw [toInt, Int32.toInt_ofNat', Int.bmod_def, hsize]
  split_ifs <;> omega

structure Positive (frame : CapturedFrame) : Prop where
  width : 0 < frame.width
  height : 0 < frame.height

variable {frame : CapturedFrame}

theorem Positive.toNat_pos (h : Positive frame) :
    0 < frame.width.toInt.toNat ∧ 0 < frame.height.toInt.toNat := by
  have hw := Int32.lt_iff_toInt_lt.mp h.width
  have hh := Int32.lt_iff_toInt_lt.mp h.height
  rw [Int32.toInt_zero] at hw hh
  omega

theorem mul_lt {w h : ℕ} (hw : w < 2 ^ 31) (hh : h < 2 ^ 31) : w * h < 2 ^ 62 := by
  have hlt := Nat.mul_lt_mul'' hw hh
  omega

theorem Positive.bgrSize_eq (h : Positive frame) :
    bgrSize frame = frame.height.toInt.toNat * frame.width.toInt.toNat * 3 := by
  have hlt := mul_lt (toNat_lt frame.height) (toNat_lt frame.width)
  have hthree : (3 : UInt64).toNat = 3 := rfl
  rw [bgrSize, UInt64.toNat_mul, UInt64.toNat_mul, toNat_size h.width, toNat_size h.height, hthree,
    Nat.mul_comm frame.width.toInt.toNat, Nat.mod_eq_of_lt (a := _ * _) (by omega),
    Nat.mod_eq_of_lt (by omega)]

theorem Positive.bgrSize_int (h : Positive frame) :
    (bgrSize frame : ℤ) = frame.width.toInt * frame.height.toInt * 3 := by
  have hw : 0 ≤ frame.width.toInt := le_of_lt (Int32.lt_iff_toInt_lt.mp h.width)
  have hh : 0 ≤ frame.height.toInt := le_of_lt (Int32.lt_iff_toInt_lt.mp h.height)
  rw [h.bgrSize_eq, Nat.mul_comm (Int.toNat _)]
  push_cast
  rw [Int.toNat_of_nonneg hw, Int.toNat_of_nonneg hh]

theorem Positive.toNat_rows (h : Positive frame) :
    (size frame.height + size frame.height / 2).toNat =
      frame.height.toInt.toNat + frame.height.toInt.toNat / 2 := by
  have hlt := toNat_lt frame.height
  have htwo : (2 : UInt64).toNat = 2 := rfl
  rw [UInt64.toNat_add, UInt64.toNat_div, toNat_size h.height, htwo, Nat.mod_eq_of_lt (by omega)]

/-- The bytes that `NV12` and `NV21` are checked for are no fewer than those they need. -/
theorem Positive.needed_le (h : Positive frame) :
    (frame.height.toInt.toNat + frame.height.toInt.toNat / 2) * frame.width.toInt.toNat ≤
      (size frame.width * size frame.height +
        size frame.width * size frame.height / 2).toNat := by
  have hlt := mul_lt (toNat_lt frame.width) (toNat_lt frame.height)
  have htwo : (2 : UInt64).toNat = 2 := rfl
  have hhalf := Nat.div_mul_le_self frame.height.toInt.toNat 2
  have hchroma : frame.height.toInt.toNat / 2 * frame.width.toInt.toNat ≤
      frame.width.toInt.toNat * frame.height.toInt.toNat / 2 := by
    rw [Nat.le_div_iff_mul_le two_pos, Nat.mul_right_comm, Nat.mul_comm frame.width.toInt.toNat]
    exact Nat.mul_le_mul_right _ hhalf
  rw [UInt64.toNat_add, UInt64.toNat_div, UInt64.toNat_mul, toNat_size h.width,
    toNat_size h.height, htwo, Nat.mod_eq_of_lt (a := _ * _) (by omega),
    Nat.mod_eq_of_lt (by omega), Nat.add_mul, Nat.mul_comm frame.height.toInt.toNat]
  exact Nat.add_le_add_left hchroma _

theorem convertedNv_read (h : Positive frame) (code : ColorConversion) :
    (convertedNv cv frame code).read ≤ frame.data.length := by
  unfold convertedNv
  dsimp only
  split_ifs with hshort
  · exact Nat.zero_le _
  · have hrows := (toNat_toInt_le _).trans h.toNat_rows.le
    have hcols := (toNat_toInt_le _).trans (toNat_size h.width).le
    refine le_trans ?_ (h.needed_le.trans (not_lt.mp hshort))
    rw [converted, Nat.mul_one]
    exact Nat.mul_le_mul hrows hcols

theorem convertedNv_short (h : Positive frame) (code : ColorConversion)
    (hshort : frame.data.length <
      (frame.height.toInt.toNat + frame.height.toInt.toNat / 2) * frame.width.toInt.toNat) :
    (convertedNv cv frame code).output = [] := by
  unfold convertedNv
  dsimp only
  rw [if_pos (hshort.trans_le h.needed_le)]

/-- Where the number of bytes is not looked at, as many are read as the format needs. -/
theorem read_unchecked (h : (pixelFormat frame.pixelFormat).Unchecked) :
    (convertToBgr8 cv frame).read = needed frame := by
  unfold convertToBgr8 needed
  cases hformat : pixelFormat frame.pixelFormat with
  | rgb8 | yuyv | uyvy => rfl
  | mono8 => exact Nat.mul_one _
  | bgr8 | nv12 | nv21 | other => exact absurd h (by rw [hformat]; exact id)

/-- Elsewhere the reads stay inside the data. -/
theorem read_checked (h : Positive frame) (hchecked : ¬ (pixelFormat frame.pixelFormat).Unchecked) :
    (convertToBgr8 cv frame).read ≤ frame.data.length := by
  unfold convertToBgr8
  cases hformat : pixelFormat frame.pixelFormat with
  | bgr8 => exact le_rfl
  | nv12 => exact convertedNv_read cv h _
  | nv21 => exact convertedNv_read cv h _
  | other => exact Nat.zero_le _
  | rgb8 | mono8 | yuyv | uyvy => exact absurd (by rw [hformat]; trivial) hchecked

/-- There, what a short frame gives is no image. -/
theorem output_short (h : Positive frame) (hchecked : ¬ (pixelFormat frame.pixelFormat).Unchecked)
    (hshort : frame.data.length < needed frame) :
    (convertToBgr8 cv frame).output.length ≠ bgrSize frame := by
  obtain ⟨hw, hh⟩ := h.toNat_pos
  have hpos := Nat.mul_pos hh hw
  rw [h.bgrSize_eq]
  unfold convertToBgr8
  unfold needed at hshort
  cases hformat : pixelFormat frame.pixelFormat with
  | bgr8 =>
    rw [hformat] at hshort
    exact ne_of_lt hshort
  | nv12 | nv21 =>
    rw [hformat] at hshort
    dsimp only
    rw [convertedNv_short cv h _ hshort, List.length_nil]
    omega
  | other =>
    rw [hformat] at hshort
    exact absurd hshort (Nat.not_lt_zero _)
  | rgb8 | mono8 | yuyv | uyvy => exact absurd (by rw [hformat]; trivial) hchecked

/-- A frame with all its bytes is read inside its data. -/
theorem read_le (h : Positive frame) (hall : needed frame ≤ frame.data.length) :
    (convertToBgr8 cv frame).read ≤ frame.data.length := by
  by_cases hformat : (pixelFormat frame.pixelFormat).Unchecked
  · exact (read_unchecked cv hformat).trans_le hall
  · exact read_checked cv h hformat

end DeviceManager.FrameConversion
