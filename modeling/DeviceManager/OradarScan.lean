import DeviceManager.RoundedWindow
import DeviceManager.SmitPublisher

namespace DeviceManager.OradarScan

open RoundedWindow SmitPublisher

/-- The fields of `OradarLidarConfig` that `to_scan_message` reads. -/
structure ScanConfig where
  angleMinDeg : ℚ
  angleMaxDeg : ℚ
  rangeMinM : ℚ
  rangeMaxM : ℚ
  inverted : Bool

structure FrameData where
  ranges : List UInt16
  intensities : List UInt16

structure ScanFrameData where
  layers : List FrameData

structure LaserScan where
  stamp : ℤ
  frameId : String
  angleMin : ℚ
  angleMax : ℚ
  angleIncrement : ℚ
  timeIncrement : ℚ
  scanTime : ℚ
  rangeMin : ℚ
  rangeMax : ℚ
  ranges : List ℚ
  intensities : List ℚ

def kPhysicalFovDegrees : ℚ := 270

/-- `node_count`: the SDK puts a frame together from six blocks, so that its size is an `int`. -/
def FrameData.nodeCount (layer : FrameData) : ℤ := layer.ranges.length

def count (config : ScanConfig) (nodeCount : ℤ) : ℤ :=
  max 0 (min (llround (nodeCount * (config.angleMaxDeg - config.angleMinDeg) /
    kPhysicalFovDegrees)) nodeCount)

def nodeStart (config : ScanConfig) (nodeCount : ℤ) : ℤ :=
  llround (nodeCount * (135 + config.angleMinDeg) / kPhysicalFovDegrees)

/-- The range of a node and its intensity, zero outside the limits. -/
def limited (config : ScanConfig) (range intensity : ℚ) : ℚ × ℚ :=
  if config.rangeMaxM < range ∨ range < config.rangeMinM then (0, 0) else (range, intensity)

def FrameData.range (layer : FrameData) (node : ℕ) : ℚ := (layer.ranges.getD node 0).toNat * 0.002

/-- Without an intensity it is zero. -/
def FrameData.intensity (layer : FrameData) (node : ℕ) : ℚ := (layer.intensities.getD node 0).toNat

/-- The sample of an index that need not be one of a node. -/
def sample (config : ScanConfig) (layer : FrameData) (currentIndex : ℤ) : ℚ × ℚ :=
  if 0 ≤ currentIndex ∧ currentIndex < layer.nodeCount then
    limited config (layer.range currentIndex.toNat) (layer.intensity currentIndex.toNat)
  else (0, 0)

def targetIndex (config : ScanConfig) (count i : ℕ) : ℕ :=
  if config.inverted then count - 1 - i else i

def samples (config : ScanConfig) (layer : FrameData) : List (ℚ × ℚ) :=
  let size := (count config layer.nodeCount).toNat
  fill (fun i => sample config layer (nodeStart config layer.nodeCount + i))
    (targetIndex config size) size (List.replicate size (0, 0))

/-- `output_node_->now()` before the frame is read is the stamp, and `scanTimeSeconds` is the
time until it has been read. -/
def toScanMessage (config : ScanConfig) (frameId : String) (frame : ScanFrameData) (stamp : ℤ)
    (scanTimeSeconds : ℚ) : LaserScan :=
  let message : LaserScan := {
    stamp, frameId
    angleMin := config.angleMinDeg * kDegreesToRadians
    angleMax := config.angleMaxDeg * kDegreesToRadians
    angleIncrement := 0
    timeIncrement := 0
    scanTime := max 0 scanTimeSeconds
    rangeMin := config.rangeMinM
    rangeMax := config.rangeMaxM
    ranges := []
    intensities := [] }
  match frame.layers with
  | [] => message
  | layer :: _ =>
    if layer.ranges.isEmpty then message
    else
      let count := count config layer.nodeCount
      if count ≤ 0 then message
      else { message with
        angleIncrement :=
          if 1 < count then (message.angleMax - message.angleMin) / (count - 1 : ℤ) else 0
        timeIncrement := max 0 scanTimeSeconds / layer.nodeCount
        ranges := (samples config layer).map Prod.fst
        intensities := (samples config layer).map Prod.snd }

/-- The samples are those of consecutive nodes, from the first one of the window on. -/
structure Windowed (config : ScanConfig) (layer : FrameData) (message : LaserScan) : Prop where
  start : 0 ≤ nodeStart config layer.nodeCount
  within : nodeStart config layer.nodeCount + count config layer.nodeCount ≤ layer.nodeCount
  size : (message.ranges.length : ℤ) = count config layer.nodeCount
  node : ∀ i < message.ranges.length, ∃ node < layer.ranges.length,
    (node : ℤ) = nodeStart config layer.nodeCount + i ∧
      message.ranges[targetIndex config message.ranges.length i]? =
        some (limited config (layer.range node) (layer.intensity node)).1

theorem llround_nonneg {q : ℚ} (h : 0 ≤ q) : llround q = halfUp q := by
  rw [llround, if_pos h, halfUp]

structure InView (config : ScanConfig) : Prop where
  low : -135 ≤ config.angleMinDeg
  order : config.angleMinDeg < config.angleMaxDeg
  high : config.angleMaxDeg ≤ 135

theorem InView.parts {config : ScanConfig} (h : InView config) (layer : FrameData) :
    0 ≤ (layer.nodeCount : ℚ) * (135 + config.angleMinDeg) / kPhysicalFovDegrees ∧
      0 ≤ (layer.nodeCount : ℚ) * (config.angleMaxDeg - config.angleMinDeg) /
        kPhysicalFovDegrees ∧
      (layer.nodeCount : ℚ) * (135 + config.angleMinDeg) / kPhysicalFovDegrees +
        (layer.nodeCount : ℚ) * (config.angleMaxDeg - config.angleMinDeg) / kPhysicalFovDegrees =
          layer.nodeCount * (135 + config.angleMaxDeg) / kPhysicalFovDegrees ∧
      (layer.nodeCount : ℚ) * (135 + config.angleMaxDeg) / kPhysicalFovDegrees ≤
        layer.nodeCount := by
  obtain ⟨hlow, horder, hhigh⟩ := h
  have hcount : (0 : ℚ) ≤ layer.nodeCount := Int.cast_nonneg (Int.natCast_nonneg _)
  have hfov : kPhysicalFovDegrees = 270 := rfl
  rw [hfov]
  refine ⟨?_, ?_, ?_, ?_⟩
  · exact div_nonneg (mul_nonneg hcount (by linarith)) (by norm_num)
  · exact div_nonneg (mul_nonneg hcount (by linarith)) (by norm_num)
  · ring
  · rw [div_le_iff₀ (by norm_num)]
    exact mul_le_mul_of_nonneg_left (by linarith) hcount

theorem InView.count_eq {config : ScanConfig} (h : InView config) (layer : FrameData) :
    count config layer.nodeCount = halfUp (layer.nodeCount *
      (config.angleMaxDeg - config.angleMinDeg) / kPhysicalFovDegrees) := by
  obtain ⟨hstart, hwidth, hsum, hend⟩ := h.parts layer
  have hle := halfUp_le_of_le (n := layer.nodeCount) (by linarith : (layer.nodeCount : ℚ) *
    (config.angleMaxDeg - config.angleMinDeg) / kPhysicalFovDegrees ≤ layer.nodeCount)
  rw [count, llround_nonneg hwidth, min_eq_left hle, max_eq_right (halfUp_nonneg hwidth)]

theorem InView.nodeStart_eq {config : ScanConfig} (h : InView config) (layer : FrameData) :
    nodeStart config layer.nodeCount =
      halfUp (layer.nodeCount * (135 + config.angleMinDeg) / kPhysicalFovDegrees) :=
  llround_nonneg (h.parts layer).1

/-- The window ends with the field of view, and starts in the middle between two nodes. -/
def Overhangs (config : ScanConfig) (layer : FrameData) : Prop :=
  config.angleMaxDeg = 135 ∧
    ∃ k : ℤ, (layer.nodeCount : ℚ) * (135 + config.angleMinDeg) / kPhysicalFovDegrees = k + 1 / 2

theorem InView.within_iff {config : ScanConfig} (h : InView config) {layer : FrameData}
    (hnodes : layer.ranges ≠ []) :
    nodeStart config layer.nodeCount + count config layer.nodeCount ≤ layer.nodeCount ↔
      ¬ Overhangs config layer := by
  obtain ⟨hstart, hwidth, hsum, hend⟩ := h.parts layer
  have hpos : (0 : ℚ) < layer.nodeCount :=
    Int.cast_pos.mpr (Int.natCast_pos.mpr (List.length_pos_iff.mpr hnodes))
  rw [h.nodeStart_eq, h.count_eq, halfUp_add_le_iff (hsum.le.trans hend), hsum, Overhangs]
  refine not_congr (and_congr_left fun _ => ?_)
  rw [div_eq_iff (by norm_num [kPhysicalFovDegrees]), mul_right_inj' hpos.ne', kPhysicalFovDegrees]
  constructor <;> intro heq <;> linarith

theorem length_samples (config : ScanConfig) (layer : FrameData) :
    (samples config layer).length = (count config layer.nodeCount).toNat := by
  rw [samples, length_fill, List.length_replicate]

theorem samples_target (config : ScanConfig) (layer : FrameData) {i : ℕ}
    (hi : i < (samples config layer).length) :
    (samples config layer)[targetIndex config (samples config layer).length i]? =
      some (sample config layer (nodeStart config layer.nodeCount + i)) := by
  rw [length_samples] at hi ⊢
  rw [samples]
  refine fill_place (fun j hj => ?_) (fun j hj k hk heq => ?_) hi
  · rw [List.length_replicate, targetIndex]
    split_ifs <;> omega
  · rw [targetIndex, targetIndex] at heq
    split_ifs at heq <;> omega

theorem toScanMessage_ranges (config : ScanConfig) (frameId : String) {frame : ScanFrameData}
    {layer : FrameData} (hlayer : frame.layers.head? = some layer) (hnodes : layer.ranges ≠ [])
    (stamp : ℤ) (scanTimeSeconds : ℚ) :
    (toScanMessage config frameId frame stamp scanTimeSeconds).ranges =
      (samples config layer).map Prod.fst := by
  obtain ⟨layers⟩ := frame
  cases layers with
  | nil => cases hlayer
  | cons first rest =>
    obtain rfl := Option.some.inj hlayer
    unfold toScanMessage
    simp only [List.isEmpty_eq_false_iff.mpr hnodes, Bool.false_eq_true, if_false]
    by_cases hcount : count config first.nodeCount ≤ 0
    · have hempty := length_samples config first
      rw [Int.toNat_of_nonpos hcount, List.length_eq_zero_iff] at hempty
      rw [if_pos hcount, hempty]
      rfl
    · rw [if_neg hcount]

/-- The samples come from nodes exactly if the window does not overhang. -/
theorem windowed_iff (config : ScanConfig) (hview : InView config) (frameId : String)
    (frame : ScanFrameData) (layer : FrameData) (hlayer : frame.layers.head? = some layer)
    (hnodes : layer.ranges ≠ []) (stamp : ℤ) (scanTimeSeconds : ℚ) :
    Windowed config layer (toScanMessage config frameId frame stamp scanTimeSeconds) ↔
      ¬ Overhangs config layer := by
  refine ⟨fun h => (hview.within_iff hnodes).mp h.within, fun h => ?_⟩
  have hwithin := (hview.within_iff hnodes).mpr h
  have hstart : 0 ≤ nodeStart config layer.nodeCount := by
    rw [hview.nodeStart_eq]
    exact halfUp_nonneg (hview.parts layer).1
  have hsize : ((samples config layer).length : ℤ) = count config layer.nodeCount := by
    rw [length_samples]
    exact Int.toNat_of_nonneg (le_max_left _ _)
  have hcount : layer.nodeCount = layer.ranges.length := rfl
  have hranges := toScanMessage_ranges config frameId hlayer hnodes stamp scanTimeSeconds
  refine ⟨hstart, hwithin, ?_, ?_⟩
  · rw [hranges, List.length_map, hsize]
  · rw [hranges, List.length_map]
    intro i hi
    refine ⟨(nodeStart config layer.nodeCount + i).toNat, by omega, by omega, ?_⟩
    rw [List.getElem?_map, samples_target config layer hi, sample, if_pos (by omega)]
    rfl

def upperHalf : ScanConfig := ⟨-45, 135, 0.05, 30, true⟩

def threeNodes : FrameData := ⟨[500, 1000, 20000], [7, 8, 9]⟩

theorem upperHalf_windowed : Windowed upperHalf threeNodes
    (toScanMessage upperHalf "right_front_laser_link" ⟨[threeNodes]⟩ 0 (1 / 15)) := by
  refine (windowed_iff upperHalf ⟨by decide +kernel, by decide +kernel, by decide +kernel⟩ _ _
    threeNodes rfl (by decide) _ _).mpr ?_
  rintro ⟨-, k, hk⟩
  have hone : (1 : ℚ) = k + 1 / 2 := by
    rw [← hk]
    decide +kernel
  have hodd : (2 * k + 1 : ℤ) = 2 := by
    have hcast : (2 * k + 1 : ℚ) = 2 := by linarith
    exact_mod_cast hcast
  omega

def threeQuarters : ScanConfig := ⟨-67.5, 135, 0.05, 30, false⟩

def twoNodes : FrameData := ⟨[500, 1000], [7, 8]⟩

theorem threeQuarters_padded :
    ¬ Windowed threeQuarters twoNodes
        (toScanMessage threeQuarters "right_front_laser_link" ⟨[twoNodes]⟩ 0 (1 / 15)) ∧
      (toScanMessage threeQuarters "right_front_laser_link" ⟨[twoNodes]⟩ 0 (1 / 15)).ranges =
        [2, 0] :=
  ⟨fun h => absurd h.within (by decide +kernel), by decide +kernel⟩

end DeviceManager.OradarScan
