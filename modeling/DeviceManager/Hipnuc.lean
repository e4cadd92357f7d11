import DeviceManager.LittleEndian
import DeviceManager.Transducer
import Mathlib.Data.Nat.Digits.Defs
import Mathlib.Logic.Function.Iterate

namespace DeviceManager.Hipnuc

open LittleEndian Transducer

def kSof1 : UInt8 := 0x5A

def kSof2 : UInt8 := 0xA5

def kTagImuSol : UInt8 := 0x91

def kImuSolLen : Nat := 76

def kG : Float32 := 9.80665

def kDegToRad : Float32 := 3.14159265358979323846 / 180.0

def crc16Bit (crc : UInt16) : UInt16 :=
  if crc &&& 0x8000 ≠ 0 then (crc <<< 1) ^^^ 0x1021 else crc <<< 1

def crc16Byte (crc : UInt16) (value : UInt8) : UInt16 :=
  crc16Bit^[8] (crc ^^^ (value.toUInt16 <<< 8))

def crc16Update (crc : UInt16) (data : List UInt8) : UInt16 := data.foldl crc16Byte crc

structure ImuSolPacket where
  deviceId : UInt8
  temperature : Float32
  pressure : Float32
  timestampMs : UInt32
  accX : Float32
  accY : Float32
  accZ : Float32
  gyroX : Float32
  gyroY : Float32
  gyroZ : Float32
  magX : Float32
  magY : Float32
  magZ : Float32
  roll : Float32
  pitch : Float32
  yaw : Float32
  quatW : Float32
  quatX : Float32
  quatY : Float32
  quatZ : Float32

structure OutOfBounds where
  offset : Nat

def readByte (payload : List UInt8) (offset : Nat) : Except OutOfBounds UInt8 :=
  if offset < payload.length then .ok (payload.getD offset 0) else .error ⟨offset⟩

/-- Four bytes on a machine that stores the low byte first. -/
def valueAt (payload : List UInt8) (offset : Nat) : UInt32 :=
  .ofNat (Nat.ofDigits 256 (((payload.drop offset).take 4).map UInt8.toNat))

def readU32 (payload : List UInt8) (offset : Nat) : Except OutOfBounds UInt32 :=
  if offset + 4 ≤ payload.length then .ok (valueAt payload offset) else .error ⟨offset⟩

def readF32 (payload : List UInt8) (offset : Nat) : Except OutOfBounds Float32 := do
  return Float32.ofBits (← readU32 payload offset)

/-- The end of `process_frame`. -/
def readPacket (payload : List UInt8) : Except OutOfBounds ImuSolPacket := do
  return {
    deviceId := ← readByte payload 1
    temperature := (← readByte payload 3).toInt8.toFloat32
    pressure := ← readF32 payload 4
    timestampMs := ← readU32 payload 8
    accX := (← readF32 payload 12) * kG
    accY := (← readF32 payload 16) * kG
    accZ := (← readF32 payload 20) * kG
    gyroX := (← readF32 payload 24) * kDegToRad
    gyroY := (← readF32 payload 28) * kDegToRad
    gyroZ := (← readF32 payload 32) * kDegToRad
    magX := ← readF32 payload 36
    magY := ← readF32 payload 40
    magZ := ← readF32 payload 44
    roll := ← readF32 payload 48
    pitch := ← readF32 payload 52
    yaw := ← readF32 payload 56
    quatW := ← readF32 payload 60
    quatX := ← readF32 payload 64
    quatY := ← readF32 payload 68
    quatZ := ← readF32 payload 72 }

inductive State where
  | sof1
  | sof2
  | len1
  | len2
  | crc1
  | crc2
  | data
  deriving DecidableEq

structure HipnucDecoder where
  state : State
  payloadLen : UInt16
  crcLo : UInt16
  crcRx : UInt16
  buf : List UInt8
  deriving DecidableEq

def HipnucDecoder.create : HipnucDecoder := ⟨.sof1, 0, 0, 0, []⟩

def checksum (payloadLen : UInt16) (payload : List UInt8) : UInt16 :=
  crc16Update (crc16Update 0 [kSof1, kSof2, lowByte payloadLen, highByte payloadLen]) payload

abbrev Delivery := Except OutOfBounds ImuSolPacket

def processFrame (d : HipnucDecoder) : Option Delivery × HipnucDecoder :=
  let payload := d.buf
  let next := { d with buf := [], state := .sof1, payloadLen := 0 }
  if checksum d.payloadLen payload ≠ d.crcRx then (none, next)
  else if payload.length < kImuSolLen ∨ payload.getD 0 0 ≠ kTagImuSol then (none, next)
  else (some (readPacket payload), next)

/-- The body of the loop of `feed`. -/
def feedByte (d : HipnucDecoder) (b : UInt8) : Option Delivery × HipnucDecoder :=
  match d.state with
  | .sof1 => (none, if b = kSof1 then { d with state := .sof2 } else d)
  | .sof2 => (none, { d with state := if b = kSof2 then .len1 else .sof1 })
  | .len1 => (none, { d with payloadLen := b.toUInt16, state := .len2 })
  | .len2 =>
    (none, { d with payloadLen := d.payloadLen ||| (b.toUInt16 <<< 8), buf := [], state := .crc1 })
  | .crc1 => (none, { d with crcLo := b.toUInt16, state := .crc2 })
  | .crc2 =>
    let d := { d with crcRx := d.crcLo ||| (b.toUInt16 <<< 8) }
    if d.payloadLen = 0 then processFrame d else (none, { d with state := .data })
  | .data =>
    let d := { d with buf := d.buf ++ [b] }
    if d.buf.length = d.payloadLen.toNat then processFrame d else (none, d)

def feed (d : HipnucDecoder) (chunk : List UInt8) : List Delivery × HipnucDecoder :=
  run feedByte d chunk

def feedAll (d : HipnucDecoder) (chunks : List (List UInt8)) : List Delivery × HipnucDecoder :=
  runChunks feedByte d chunks

/-- The packet that a payload of the right size carries, each field at its offset. -/
def packetOf (payload : List UInt8) : ImuSolPacket where
  deviceId := payload.getD 1 0
  temperature := (payload.getD 3 0).toInt8.toFloat32
  pressure := .ofBits (valueAt payload 4)
  timestampMs := valueAt payload 8
  accX := .ofBits (valueAt payload 12) * kG
  accY := .ofBits (valueAt payload 16) * kG
  accZ := .ofBits (valueAt payload 20) * kG
  gyroX := .ofBits (valueAt payload 24) * kDegToRad
  gyroY := .ofBits (valueAt payload 28) * kDegToRad
  gyroZ := .ofBits (valueAt payload 32) * kDegToRad
  magX := .ofBits (valueAt payload 36)
  magY := .ofBits (valueAt payload 40)
  magZ := .ofBits (valueAt payload 44)
  roll := .ofBits (valueAt payload 48)
  pitch := .ofBits (valueAt payload 52)
  yaw := .ofBits (valueAt payload 56)
  quatW := .ofBits (valueAt payload 60)
  quatX := .ofBits (valueAt payload 64)
  quatY := .ofBits (valueAt payload 68)
  quatZ := .ofBits (valueAt payload 72)

theorem readByte_ok {payload : List UInt8} (h : kImuSolLen ≤ payload.length) {offset : Nat}
    (ho : offset < kImuSolLen) : readByte payload offset = .ok (payload.getD offset 0) :=
  if_pos (Nat.lt_of_lt_of_le ho h)

theorem readU32_ok {payload : List UInt8} (h : kImuSolLen ≤ payload.length) {offset : Nat}
    (ho : offset + 4 ≤ kImuSolLen) : readU32 payload offset = .ok (valueAt payload offset) :=
  if_pos (Nat.le_trans ho h)

theorem readF32_ok {payload : List UInt8} (h : kImuSolLen ≤ payload.length) {offset : Nat}
    (ho : offset + 4 ≤ kImuSolLen) :
    readF32 payload offset = .ok (.ofBits (valueAt payload offset)) := by
  rw [readF32, readU32_ok h ho]
  rfl

theorem readPacket_ok {payload : List UInt8} (h : kImuSolLen ≤ payload.length) :
    readPacket payload = .ok (packetOf payload) := by
  have hbyte : ∀ offset < 76, readByte payload offset = .ok (payload.getD offset 0) :=
    fun _ ho => readByte_ok h ho
  have hword : ∀ offset ≤ 72, readU32 payload offset = .ok (valueAt payload offset) :=
    fun _ ho => readU32_ok h (Nat.add_le_add_right ho 4)
  have hfloat : ∀ offset ≤ 72, readF32 payload offset = .ok (.ofBits (valueAt payload offset)) :=
    fun _ ho => readF32_ok h (Nat.add_le_add_right ho 4)
  unfold readPacket
  simp (disch := decide) only [hbyte, hword, hfloat]
  rfl

end DeviceManager.Hipnuc
