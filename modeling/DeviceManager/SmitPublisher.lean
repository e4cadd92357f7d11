import DeviceManager.SmitAssembly

namespace DeviceManager.SmitPublisher

open Floating SmitProtocol SmitAssembly

def kPi : ℚ := 3.14159265358979323846

def kDegreesToRadians : ℚ := kPi / 180

def rawAngleToSigned (rawAngleDeg : ℚ) : ℚ :=
  let normalized := normalizeRawAngle rawAngleDeg
  if 180 ≤ normalized then normalized - kFullCircleDegrees else normalized

/-- `std::llround`: halves are rounded away from zero. -/
def llround (q : ℚ) : ℤ := if 0 ≤ q then ⌊q + 1 / 2⌋ else -⌊-q + 1 / 2⌋

/-- The conversion of a `double` to `std::size_t`, where there is one. -/
def toSize (q : ℤ) : Option Nat := if 0 ≤ q ∧ q < 2 ^ 64 then some q.toNat else none

/-- The conversion of an integer to `std::size_t`. -/
def wrapSize (n : ℤ) : Nat := (n % 2 ^ 64).toNat

/-- A sample without a range is infinite. -/
structure LaserScan where
  stamp : ℤ
  frameId : String
  angleMin : ℚ
  angleMax : ℚ
  angleIncrement : ℚ
  timeIncrement : ℚ
  scanTime : ℚ
  rangeMin : ℚ
  rangeMax : ℚ
  ranges : List (Option ℚ)
  intensities : List ℚ

inductive Publication where
  | ignored
  | undefined
  | published (message : LaserScan)

def angleIncrement (scan : SmitScan ℚ) : ℚ := 2 * kPi * scan.motorSpeed / scan.lidarFreq

def isFullCircle (scan : SmitScan ℚ) : Bool := isFullCircleWindow scan.angleMinDeg scan.angleMaxDeg

def windowWidthDeg (scan : SmitScan ℚ) : ℚ :=
  if isFullCircle scan then kFullCircleDegrees else scan.angleMaxDeg - scan.angleMinDeg

def sampleCount (scan : SmitScan ℚ) : Option Nat :=
  (toSize ⌊windowWidthDeg scan * kDegreesToRadians / angleIncrement scan + 1 / 2⌋).map (· + 1)

/-- The offset of a point from the start of the window; nothing if the point is skipped. -/
def offsetDeg (scan : SmitScan ℚ) (point : SmitPoint ℚ) : Option ℚ :=
  let offset := normalizeRawAngle point.angleDeg - normalizeRawAngle scan.angleMinDeg
  let offset := if offset < 0 then offset + kFullCircleDegrees else offset
  if isFullCircle scan then some offset
  else
    let scanAngleDeg := rawAngleToSigned point.angleDeg
    if scanAngleDeg < scan.angleMinDeg ∨ scan.angleMaxDeg < scanAngleDeg then none
    else
      let offset := scanAngleDeg - scan.angleMinDeg
      some (if offset < 0 then offset + kFullCircleDegrees else offset)

def sampleIndex (scan : SmitScan ℚ) (offset : ℚ) : Nat :=
  wrapSize (llround (offset * kDegreesToRadians / angleIncrement scan))

abbrev Samples := List (Option ℚ) × List ℚ

def placePoint (scan : SmitScan ℚ) (sampleCount : Nat) (samples : Samples) (point : SmitPoint ℚ) :
    Samples :=
  match offsetDeg scan point with
  | none => samples
  | some offset =>
    let i := sampleIndex scan offset
    if sampleCount ≤ i then samples
    else if (samples.1.getD i none).all fun range => point.distanceM < range then
      (samples.1.set i (some point.distanceM), samples.2.set i point.intensity)
    else samples

def publishScan (now : ℤ) (frameId : String) (scan : SmitScan ℚ) : Publication :=
  if scan.motorSpeed ≤ 0 ∨ scan.lidarFreq ≤ 0 then .ignored
  else if angleIncrement scan ≤ 0 then .ignored
  else
    match sampleCount scan with
    | none => .undefined
    | some count =>
      let timeIncrement : ℚ := 1 / scan.lidarFreq
      let scanDurationNs := llround (|timeIncrement| * count * 1000000000)
      let samples := scan.points.foldl (placePoint scan count)
        (List.replicate count none, List.replicate count 0)
      .published {
        stamp := now - scanDurationNs / 2
        frameId
        angleMin := scan.angleMinDeg * kDegreesToRadians
        angleMax := scan.angleMaxDeg * kDegreesToRadians
        angleIncrement := angleIncrement scan
        timeIncrement
        scanTime := 1 / scan.motorSpeed
        rangeMin := 0.05
        rangeMax := 50
        ranges := samples.1
        intensities := samples.2 }

end DeviceManager.SmitPublisher
