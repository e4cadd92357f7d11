import DeviceManager.SmitProtocol
import DeviceManager.Transducer

namespace DeviceManager.SmitAssembly

open Floating SmitProtocol Transducer

variable {α : Type} [LE α] [DecidableLE α] [LT α] [DecidableLT α] [Add α] [Sub α] [Floating α]

def kFullCircleDegrees : α := literal 360

def kFullCircleToleranceDegrees : α := literal 0.001

def normalizeRawAngle (angleDeg : α) : α :=
  let normalized := fmod angleDeg kFullCircleDegrees
  if normalized < literal 0 then normalized + kFullCircleDegrees else normalized

def isFullCircleWindow (angleMinDeg angleMaxDeg : α) : Bool :=
  decide ((kFullCircleDegrees - kFullCircleToleranceDegrees : α) ≤ angleMaxDeg - angleMinDeg)

def isRawAngleInWindow (rawAngleDeg startRawDeg endRawDeg : α) (fullCircle : Bool) : Bool :=
  if fullCircle then true
  else
    let normalized := normalizeRawAngle rawAngleDeg
    if startRawDeg ≤ endRawDeg then decide (startRawDeg ≤ normalized ∧ normalized ≤ endRawDeg)
    else decide (startRawDeg ≤ normalized ∨ normalized ≤ endRawDeg)

def didRawAngleCrossBoundary (previousRawDeg currentRawDeg boundaryRawDeg : α) : Bool :=
  if previousRawDeg ≤ currentRawDeg then
    decide (previousRawDeg < boundaryRawDeg ∧ boundaryRawDeg ≤ currentRawDeg)
  else decide (previousRawDeg < boundaryRawDeg ∨ boundaryRawDeg ≤ currentRawDeg)

structure SmitScan (α : Type) where
  points : List (SmitPoint α)
  angleMinDeg : α
  angleMaxDeg : α
  motorSpeed : Nat
  lidarFreq : Nat
  deriving DecidableEq

structure SmitScanAssembler (α : Type) where
  angleMinDeg : α
  angleMaxDeg : α
  motorSpeed : Nat
  lidarFreq : Nat
  hasConfig : Bool
  points : List (SmitPoint α)
  collecting : Bool
  havePrevious : Bool
  previousInWindow : Bool
  previousRawAngleDeg : α

def SmitScanAssembler.create (angleMinDeg angleMaxDeg : α) : SmitScanAssembler α :=
  ⟨angleMinDeg, angleMaxDeg, 0, 0, false, [], false, false, false, literal 0⟩

def SmitScanAssembler.reset (a : SmitScanAssembler α) : SmitScanAssembler α :=
  { a with points := [], collecting := false, havePrevious := false, previousInWindow := false }

def SmitScanAssembler.setWindow (a : SmitScanAssembler α) (angleMinDeg angleMaxDeg : α) :
    SmitScanAssembler α :=
  { a with angleMinDeg, angleMaxDeg }.reset

def SmitScanAssembler.setConfig (a : SmitScanAssembler α) (motorSpeed lidarFreq : Nat) :
    SmitScanAssembler α :=
  { a with motorSpeed, lidarFreq, hasConfig := true }

/-- What `emit_scan` hands to the callback. -/
def SmitScanAssembler.scan (a : SmitScanAssembler α) : SmitScan α :=
  ⟨a.points, a.angleMinDeg, a.angleMaxDeg, a.motorSpeed, a.lidarFreq⟩

/-- The point with its angle folded to one turn. -/
def foldPoint (point : SmitPoint α) : SmitPoint α :=
  ⟨single (normalizeRawAngle point.angleDeg), point.distanceM, point.intensity⟩

/-- The body of the loop for a window of a full circle. -/
def addPointFull (a : SmitScanAssembler α) (point : SmitPoint α) :
    Option (SmitScan α) × SmitScanAssembler α :=
  let rawAngleDeg := normalizeRawAngle point.angleDeg
  let startRawDeg := normalizeRawAngle a.angleMinDeg
  let crossed := a.havePrevious &&
    didRawAngleCrossBoundary a.previousRawAngleDeg rawAngleDeg startRawDeg
  let out := if crossed && a.collecting && !a.points.isEmpty then some a.scan else none
  let a := if crossed then { a with points := [], collecting := true } else a
  let a := if a.collecting then { a with points := a.points ++ [foldPoint point] } else a
  (out, { a with previousRawAngleDeg := rawAngleDeg, havePrevious := true })

/-- The body of the loop for a part of the circle. -/
def addPointPartial (a : SmitScanAssembler α) (point : SmitPoint α) :
    Option (SmitScan α) × SmitScanAssembler α :=
  let rawAngleDeg := normalizeRawAngle point.angleDeg
  let startRawDeg := normalizeRawAngle a.angleMinDeg
  let endRawDeg := normalizeRawAngle a.angleMaxDeg
  let inWindow := isRawAngleInWindow rawAngleDeg startRawDeg endRawDeg false
  let (out, a) :=
    if !a.collecting then
      if a.havePrevious && !a.previousInWindow && inWindow then
        (none, { a with points := [foldPoint point], collecting := true })
      else (none, a)
    else if !inWindow then
      (if !a.points.isEmpty then some a.scan else none,
        { a with points := [], collecting := false })
    else (none, { a with points := a.points ++ [foldPoint point] })
  (out, { a with previousRawAngleDeg := rawAngleDeg, previousInWindow := inWindow,
                 havePrevious := true })

def addPoint (a : SmitScanAssembler α) (point : SmitPoint α) :
    Option (SmitScan α) × SmitScanAssembler α :=
  if isFullCircleWindow a.angleMinDeg a.angleMaxDeg then addPointFull a point
  else addPointPartial a point

/-- The points that the loop reads. -/
def pointsOf (packet : SmitPointPacket α) : List (SmitPoint α) :=
  packet.points.toList.take packet.pointCount

def addPacket (a : SmitScanAssembler α) (packet : SmitPointPacket α) :
    List (SmitScan α) × SmitScanAssembler α :=
  if !a.hasConfig then ([], a)
  else if !packet.crcOk || packet.pointCount > kMaxPoints then ([], a.reset)
  else run addPoint a (pointsOf packet)

inductive Call (α : Type) where
  | setConfig (motorSpeed lidarFreq : Nat)
  | addPacket (packet : SmitPointPacket α)
  | reset

def call (a : SmitScanAssembler α) : Call α → List (SmitScan α) × SmitScanAssembler α
  | .setConfig motorSpeed lidarFreq => ([], a.setConfig motorSpeed lidarFreq)
  | .addPacket packet => addPacket a packet
  | .reset => ([], a.reset)

def assemble : SmitScanAssembler α → List (Call α) → List (SmitScan α) × SmitScanAssembler α
  | a, [] => ([], a)
  | a, c :: calls =>
    ((call a c).1 ++ (assemble (call a c).2 calls).1, (assemble (call a c).2 calls).2)

end DeviceManager.SmitAssembly
