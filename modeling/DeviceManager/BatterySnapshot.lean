import DeviceManager.LittleEndian
import DeviceManager.Rounding
import Mathlib.Data.List.DropRight

namespace DeviceManager

open LittleEndian

/-- The nearest `float`. -/
def toFloat (x : ℚ) : ℚ :=
  if 0 ≤ x then Rounding.rounded 2 24 x else -Rounding.rounded 2 24 (-x)

/-- Below `2 ^ 24` the integers are exact. -/
theorem toFloat_natCast {n : ℕ} (h : n < 2 ^ 24) : toFloat n = n := by
  rw [toFloat, if_pos (Nat.cast_nonneg n)]
  by_cases hz : n = 0
  · subst hz
    simp [Rounding.rounded, Rounding.significand, Rounding.roundEven]
  · have hpos : (0 : ℚ) < n := Nat.cast_pos.mpr (Nat.pos_of_ne_zero hz)
    have hshort : Rounding.Short 2 24 (n : ℚ) := ⟨n, 0, h, by simp⟩
    have hclose := Rounding.rounded_closest (by omega) (by omega) hpos hshort
    rw [sub_self, abs_zero] at hclose
    linarith [abs_eq_zero.mp (le_antisymm hclose (abs_nonneg _))]

structure BatterySnapshot where
  connected : Bool := false
  lastError : String := ""
  deviceAddress : UInt16 := 1
  workState : UInt16 := 0
  packVoltageV : ℚ := 0
  packCurrentA : ℚ := 0
  maxCellVoltageV : ℚ := 0
  minCellVoltageV : ℚ := 0
  maxCellTemperatureC : ℚ := 0
  minCellTemperatureC : ℚ := 0
  maxBoardTemperatureC : ℚ := 0
  minBoardTemperatureC : ℚ := 0
  soc : ℚ := 0
  soh : ℚ := 0
  remainCapacityMah : ℚ := 0
  cycleCount : UInt32 := 0
  protectStatus : UInt32 := 0
  ioStatus : UInt32 := 0
  serialNumber : String := ""
  softwareVersion : String := ""
  hardwareVersion : String := ""
  deriving DecidableEq

/-- The printable characters, without the blanks at both ends. -/
def sanitizeIdentityString (rawValue : List UInt8) : String :=
  let sanitized := rawValue.filter fun value => 0x20 ≤ value && value ≤ 0x7E
  let first := sanitized.dropWhile (· == 0x20)
  String.ofList ((first.rdropWhile (· == 0x20)).map fun value => Char.ofNat value.toNat)

def decodeTemperatureC (rawValue : UInt16) : ℚ := toFloat (toFloat rawValue.toNat - 40)

def versionToText (rawValue : UInt16) : String :=
  let low := rawValue.toNat % 256
  "V" ++ toString (rawValue.toNat / 256) ++ "." ++
    (if low < 10 then "0" else "") ++ toString low

def kFastBlockAStart : UInt16 := 0x9000
def kFastBlockACount : UInt16 := 0x0016
def kFastBlockBStart : UInt16 := 0x9028
def kFastBlockBCount : UInt16 := 0x0006
def kIdentityBlockStart : UInt16 := 0x9016
def kIdentityBlockCount : UInt16 := 0x0012

structure BatteryFastRegisterValues where
  workState : UInt16
  packVoltageMv : UInt32
  packCurrentMa : Int32
  maxCellVoltageMv : UInt16
  minCellVoltageMv : UInt16
  maxCellTemp : UInt16
  minCellTemp : UInt16
  maxBoardTemp : UInt16
  minBoardTemp : UInt16
  protectStatus : UInt32
  ioStatus : UInt32
  soc : UInt16
  soh : UInt16
  remainCapacityMah : UInt32
  cycleCount : UInt32

structure BatteryIdentityRegisterValues where
  serialNumberBytes : List UInt8
  softwareVersion : UInt16
  hardwareVersion : UInt16

def decodeBlockU16 (bytes : List UInt8) (offset : ℕ) : UInt16 :=
  word (bytes.getD offset 0) (bytes.getD (offset + 1) 0)

def decodeBlockU32 (bytes : List UInt8) (offset : ℕ) : UInt32 :=
  (decodeBlockU16 bytes offset).toUInt32 ||| ((decodeBlockU16 bytes (offset + 2)).toUInt32 <<< 16)

def blockLengthError (name : String) (expected actual : ℕ) : String :=
  name ++ "长度异常，期望 " ++ toString expected ++ " 字节，实际 " ++ toString actual ++ " 字节"

def decodeFastRegisterBlocks (blockA blockB : List UInt8) :
    Except String BatteryFastRegisterValues :=
  if blockA.length ≠ 2 * kFastBlockACount.toNat then
    .error (blockLengthError "快速寄存器块 A " (2 * kFastBlockACount.toNat) blockA.length)
  else if blockB.length ≠ 2 * kFastBlockBCount.toNat then
    .error (blockLengthError "快速寄存器块 B " (2 * kFastBlockBCount.toNat) blockB.length)
  else .ok
    { workState := decodeBlockU16 blockA 0
      packVoltageMv := decodeBlockU32 blockA 4
      packCurrentMa := (decodeBlockU32 blockA 8).toInt32
      maxCellVoltageMv := decodeBlockU16 blockA 12
      minCellVoltageMv := decodeBlockU16 blockA 14
      maxCellTemp := decodeBlockU16 blockA 16
      minCellTemp := decodeBlockU16 blockA 18
      maxBoardTemp := decodeBlockU16 blockA 20
      minBoardTemp := decodeBlockU16 blockA 22
      protectStatus := decodeBlockU32 blockA 24
      ioStatus := decodeBlockU32 blockA 40
      soc := decodeBlockU16 blockB 0
      soh := decodeBlockU16 blockB 2
      remainCapacityMah := decodeBlockU32 blockB 4
      cycleCount := decodeBlockU32 blockB 8 }

def decodeIdentityRegisterBlock (block : List UInt8) :
    Except String BatteryIdentityRegisterValues :=
  if block.length ≠ 2 * kIdentityBlockCount.toNat then
    .error (blockLengthError "身份寄存器块" (2 * kIdentityBlockCount.toNat) block.length)
  else .ok
    { serialNumberBytes := block.take 32
      softwareVersion := decodeBlockU16 block 32
      hardwareVersion := decodeBlockU16 block 34 }

inductive BatteryStatusTransitionType where
  | online
  | offline
  | workStateChanged
  deriving DecidableEq

structure BatteryStatusTransitionEvent where
  type : BatteryStatusTransitionType
  previousWorkState : UInt16
  currentWorkState : UInt16
  errorMessage : String
  deriving DecidableEq

structure BatteryStatusTransitionTracker where
  online : Bool := false
  currentWorkState : UInt16 := 0
  deriving DecidableEq

namespace BatteryStatusTransitionTracker

def observeOnline (tracker : BatteryStatusTransitionTracker) (workState : UInt16) :
    Option BatteryStatusTransitionEvent × BatteryStatusTransitionTracker :=
  if !tracker.online then (some ⟨.online, workState, workState, ""⟩, ⟨true, workState⟩)
  else if workState = tracker.currentWorkState then (none, tracker)
  else
    (some ⟨.workStateChanged, tracker.currentWorkState, workState, ""⟩,
      { tracker with currentWorkState := workState })

def observeOffline (tracker : BatteryStatusTransitionTracker) (errorMessage : String) :
    Option BatteryStatusTransitionEvent × BatteryStatusTransitionTracker :=
  if !tracker.online then (none, tracker)
  else
    (some ⟨.offline, tracker.currentWorkState, tracker.currentWorkState, errorMessage⟩,
      { tracker with online := false })

end BatteryStatusTransitionTracker

structure BatterySocTransitionEvent where
  previousSoc : ℚ
  currentSoc : ℚ

structure BatterySocTransitionTracker where
  currentSoc : Option ℚ := none

def BatterySocTransitionTracker.observe (tracker : BatterySocTransitionTracker) (soc : ℚ) :
    Option BatterySocTransitionEvent × BatterySocTransitionTracker :=
  match tracker.currentSoc with
  | none => (none, ⟨some soc⟩)
  | some previousSoc =>
    if soc = previousSoc then (none, tracker) else (some ⟨previousSoc, soc⟩, ⟨some soc⟩)

structure SocSpikeFilter where
  hasAcceptedSoc : Bool := false
  acceptedSoc : ℚ := 0
  pendingFullSocCount : UInt64 := 0

namespace SocSpikeFilter

def kFullSoc : ℚ := 100
def kNearFullSoc : ℚ := 99
def kFullSocConfirmCount : UInt64 := 3

def accept (_ : SocSpikeFilter) (soc : ℚ) : ℚ × SocSpikeFilter := (soc, ⟨true, soc, 0⟩)

def filter (f : SocSpikeFilter) (rawSoc : ℚ) : ℚ × SocSpikeFilter :=
  if !f.hasAcceptedSoc then f.accept rawSoc
  else if kFullSoc ≤ rawSoc ∧ f.acceptedSoc < kNearFullSoc then
    let f := { f with pendingFullSocCount := f.pendingFullSocCount + 1 }
    if kFullSocConfirmCount ≤ f.pendingFullSocCount then f.accept rawSoc else (f.acceptedSoc, f)
  else f.accept rawSoc

end SocSpikeFilter

inductive BatteryStatusLogLevel where
  | info
  | warn
  deriving DecidableEq

structure BatteryStatusLogRecord where
  level : BatteryStatusLogLevel
  message : String
  deriving DecidableEq

def batteryWorkStateToText (workState : UInt16) : String :=
  match workState.toNat with
  | 0 => "EM_IDLE"
  | 1 => "EM_CHARGE"
  | 2 => "EM_DISCHARGE"
  | 3 => "EM_SLEEP"
  | 4 => "EM_PROTECT"
  | 5 => "EM_SHUTDOWN"
  | _ => "UNKNOWN"

def formatWorkState (workState : UInt16) : String :=
  batteryWorkStateToText workState ++ "(" ++ toString workState.toNat ++ ")"

def formatSoc (soc : ℚ) : String :=
  let tenths := Rounding.roundEven (|soc| * 10)
  (if soc < 0 then "-" else "") ++ toString (tenths / 10) ++ "." ++ toString (tenths % 10) ++ "%"

def makeBatterySocLogRecord (event : BatterySocTransitionEvent) : BatteryStatusLogRecord :=
  ⟨.info, "电池电量变化: " ++ formatSoc event.previousSoc ++ " -> " ++ formatSoc event.currentSoc⟩

def makeBatteryStatusLogRecord (event : BatteryStatusTransitionEvent) : BatteryStatusLogRecord :=
  match event.type with
  | .online => ⟨.info, "电池上线: work_state=" ++ formatWorkState event.currentWorkState⟩
  | .offline => ⟨.warn, "电池掉线: " ++ event.errorMessage⟩
  | .workStateChanged =>
    ⟨.info, "电池工作状态变化: " ++ formatWorkState event.previousWorkState ++ " -> " ++
      formatWorkState event.currentWorkState⟩

end DeviceManager
