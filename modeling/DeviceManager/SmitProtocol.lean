import DeviceManager.Draining
import DeviceManager.Floating
import Mathlib.Logic.Function.Iterate

namespace DeviceManager.SmitProtocol

open Draining Floating

def kSof1 : UInt8 := 0xA5

def kSof2 : UInt8 := 0x5A

def kMsgIdPointCloud : UInt8 := 0x01

def kMsgIdConfig : UInt8 := 0x02

def kHeaderLength : Nat := 4

def kMaxFrameLength : Nat := 2048

def kMaxBufferLength : Nat := 10000

def kConfigPayloadMinLength : Nat := 33

def kMaxPoints : Nat := 64

def crc8Bit (crc : UInt8) : UInt8 :=
  if crc &&& 0x80 ≠ 0 then (crc <<< 1) ^^^ 0x07 else crc <<< 1

def crc8Byte (crc value : UInt8) : UInt8 := crc8Bit^[8] (crc ^^^ value)

def crc8 (data : List UInt8) : UInt8 := data.foldl crc8Byte 0x00

def readU16Be (high low : UInt8) : Nat := high.toNat * 256 + low.toNat

def readU24Be (high middle low : UInt8) : Nat :=
  high.toNat * 65536 + middle.toNat * 256 + low.toNat

variable {α : Type}

structure SmitConfigInfo (α : Type) where
  sn : List UInt8
  hwVer : List UInt8
  fpgaVer : List UInt8
  mcuVer : List UInt8
  motorSpeed : Nat
  lidarFreq : Nat
  instantSpeed : Nat
  lidarTemp : Nat
  lidarVolt : α
  lidarState : UInt8
  deriving DecidableEq

structure SmitPoint (α : Type) where
  angleDeg : α
  distanceM : α
  intensity : α
  deriving DecidableEq

/-- A packet with a wrong checksum is handed on as well, without points. -/
structure SmitPointPacket (α : Type) where
  points : Vector (SmitPoint α) kMaxPoints
  pointCount : Nat
  timestamp : Nat
  crcOk : Bool
  deriving DecidableEq

inductive Callback (α : Type) where
  | config (config : SmitConfigInfo α)
  | points (packet : SmitPointPacket α)
  deriving DecidableEq

section

variable [LT α] [DecidableLT α] [Add α] [Sub α] [Mul α] [Div α] [Floating α]

def motorSpeedOf (code : UInt8) : Nat := if code = 3 then 20 else if code = 2 then 15 else 10

def lidarFreqOf (code : UInt8) : Nat :=
  if code = 0 then 10000 else if code = 1 then 20000 else 40000

/-- The configuration that `parse_config` reads. -/
def configOf (payload : List UInt8) : SmitConfigInfo α where
  sn := (payload.drop 1).take 14
  hwVer := (payload.drop 15).take 3
  fpgaVer := (payload.drop 18).take 3
  mcuVer := (payload.drop 21).take 3
  motorSpeed := motorSpeedOf (payload.getD 25 0)
  lidarFreq := lidarFreqOf (payload.getD 28 0)
  instantSpeed := readU16Be (payload.getD 26 0) (payload.getD 27 0)
  lidarTemp := (payload.getD 29 0).toNat
  lidarVolt := single (ofNat (payload.getD 30 0).toNat / literal 10)
  lidarState := payload.getD 31 0

def parseConfig (payload : List UInt8) : Option (Callback α) :=
  if payload.length < kConfigPayloadMinLength then none
  else some (.config (configOf payload))

/-- `kDistanceScale`, a literal of type `float`. -/
def kDistanceScale : α := single (literal 0.0025)

def kDeltaAngleMin : α := literal 0.172

def kDeltaAngleMax : α := literal 0.188

def startAngle (payload : List UInt8) : α :=
  single (ofNat (readU16Be (payload.getD 1 0) (payload.getD 2 0)) * single (literal 0.01))

def deltaAngle (payload : List UInt8) : α :=
  single (ofNat (readU16Be (payload.getD 3 0) (payload.getD 4 0)) * single (literal 0.0001))

def pointCountOf (payload : List UInt8) : Nat := (payload.length - 9) / 3

def foldAngle (angle : α) : α :=
  if literal 360 < angle then single (angle - literal 360) else angle

/-- The point at index `i`: three bytes behind the five of the header. -/
def pointOf (payload : List UInt8) (i : Nat) : SmitPoint α where
  angleDeg := foldAngle (single (startAngle payload + single (deltaAngle payload * ofNat i)))
  distanceM := single (ofNat (readU16Be (payload.getD (6 + 3 * i) 0) (payload.getD (7 + 3 * i) 0)) *
    kDistanceScale)
  intensity := ofNat (payload.getD (5 + 3 * i) 0).toNat

def emptyPoint : SmitPoint α := ⟨ofNat 0, ofNat 0, ofNat 0⟩

/-- The packet before `parse_points` writes to it. -/
def emptyPacket (crcOk : Bool) : SmitPointPacket α :=
  ⟨Vector.replicate kMaxPoints emptyPoint, 0, 0, crcOk⟩

def packetOf (payload : List UInt8) : SmitPointPacket α where
  points := Vector.ofFn fun i => if i < pointCountOf payload then pointOf payload i else emptyPoint
  pointCount := pointCountOf payload
  timestamp := readU24Be (payload.getD (payload.length - 4) 0) (payload.getD (payload.length - 3) 0)
    (payload.getD (payload.length - 2) 0)
  crcOk := true

def parsePoints (payload : List UInt8) (crcOk : Bool) : Option (Callback α) :=
  if !crcOk then some (.points (emptyPacket false))
  else if payload.length ≤ 9 then none
  else if pointCountOf payload > kMaxPoints then none
  else if deltaAngle payload < (kDeltaAngleMin : α) ∨ kDeltaAngleMax < (deltaAngle payload : α) then
    none
  else some (.points (packetOf payload))

/-- `process_frame` on what follows the header. -/
def processFrame (payload : List UInt8) : Option (Callback α) :=
  if payload.length < 2 then none
  else
    let crcOk := decide (crc8 (payload.take (payload.length - 1)) =
      payload.getD (payload.length - 1) 0)
    if payload.getD 0 0 = kMsgIdPointCloud then parsePoints payload crcOk
    else if payload.getD 0 0 = kMsgIdConfig then
      if crcOk then parseConfig payload else none
    else none

/-- The length of the frame that starts with the buffer, from its header. -/
def totalLength (buffer : List UInt8) : Nat :=
  readU16Be (buffer.getD 2 0) (buffer.getD 3 0) + kHeaderLength

/-- The body of the loop of `feed`: a byte that starts no frame is dropped, a length that is
too large drops the two start bytes, and a frame that is not complete ends the loop. -/
def turn : Turn UInt8 (Callback α) := fun buffer =>
  if buffer.length < kHeaderLength then none
  else if buffer.getD 0 0 ≠ kSof1 ∨ buffer.getD 1 0 ≠ kSof2 then some ([], 1)
  else if totalLength buffer > kMaxFrameLength then some ([], 2)
  else if buffer.length < totalLength buffer then none
  else
    some ((processFrame ((buffer.take (totalLength buffer)).drop kHeaderLength)).toList,
      totalLength buffer)

/-- `feed`: the callbacks and the buffer that is left; nothing if the loop does not end. -/
def feed (buffer chunk : List UInt8) : Option (List (Callback α) × List UInt8) :=
  let buffer := buffer ++ chunk
  if buffer.length > kMaxBufferLength then some ([], [])
  else drain turn (buffer.length + 1) buffer

/-- One call of `feed` for every chunk. -/
def feedAll : List UInt8 → List (List UInt8) → Option (List (Callback α) × List UInt8)
  | buffer, [] => some ([], buffer)
  | buffer, chunk :: chunks => do
    let (callbacks, buffer) ← feed buffer chunk
    let (more, buffer) ← feedAll buffer chunks
    return (callbacks ++ more, buffer)

end

end DeviceManager.SmitProtocol
