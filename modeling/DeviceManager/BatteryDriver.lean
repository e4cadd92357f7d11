import DeviceManager.BatterySnapshot
import DeviceManager.Lockstep

namespace DeviceManager

open Lockstep

structure BatteryDriverConfig where
  canInterface : String := "can1"
  canId : UInt32 := 0x41
  useExtendedFrame : Bool := true
  timeoutMs : Int32 := 600
  pollIntervalMs : Int32 := 1000
  identityPollDivider : Int32 := 30
  deviceAddress : UInt8 := 0x01
  deriving DecidableEq

structure BatteryPollResult where
  ok : Bool
  reportFailureEvent : Bool
  errorMessage : String
  snapshot : BatterySnapshot
  logRecords : List BatteryStatusLogRecord

/-- What the transport does in one call of the driver: whether the factory returns one, and
how it answers. A read is asked for a device address, the first register and their number. -/
structure BatteryTransport where
  created : Bool
  isConnected : Bool
  connect : Except String Unit
  readHoldingRegisters : UInt8 → UInt16 → UInt16 → Except String (List UInt8)

def BatteryTransport.available (t : BatteryTransport) : Bool :=
  t.created && (t.isConnected || t.connect.isOk)

/-- `transport` says whether the driver holds one. -/
structure TwsBatteryDriver where
  config : BatteryDriverConfig
  transport : Bool
  statusTransitionTracker : BatteryStatusTransitionTracker
  socTransitionTracker : BatterySocTransitionTracker
  socFilter : SocSpikeFilter
  lastSnapshot : BatterySnapshot
  hasSuccessfulPoll : Bool
  consecutivePollFailures : UInt64
  pollCounter : UInt64

namespace TwsBatteryDriver

def kConsecutivePollFailuresToOffline : UInt64 := 3

def kMilliToUnit : ℚ := 1000

def milliToUnit (value : ℚ) : ℚ := toFloat (toFloat value / kMilliToUnit)

def create (config : BatteryDriverConfig) : TwsBatteryDriver where
  config := config
  transport := false
  statusTransitionTracker := {}
  socTransitionTracker := {}
  socFilter := {}
  lastSnapshot := { deviceAddress := config.deviceAddress.toUInt16 }
  hasSuccessfulPoll := false
  consecutivePollFailures := 0
  pollCounter := 0

def disconnected (d : TwsBatteryDriver) (errorMessage : String) : TwsBatteryDriver :=
  { d with lastSnapshot := { d.lastSnapshot with connected := false, lastError := errorMessage } }

def ensureConnected (d : TwsBatteryDriver) (t : BatteryTransport) :
    Except String Unit × TwsBatteryDriver :=
  if !d.transport && !t.created then
    (.error "battery transport factory returned null",
      d.disconnected "battery transport factory returned null")
  else
    let d := { d with transport := true }
    if t.isConnected then (.ok (), d)
    else
      match t.connect with
      | .ok () => (.ok (), d)
      | .error errorMessage => (.error errorMessage, d.disconnected errorMessage)

def cleanup (d : TwsBatteryDriver) : TwsBatteryDriver :=
  { d with transport := false, hasSuccessfulPoll := false, consecutivePollFailures := 0
           pollCounter := 0 }

def configure (d : TwsBatteryDriver) (config : BatteryDriverConfig) (t : BatteryTransport) :
    Except String Unit × TwsBatteryDriver :=
  let d := d.cleanup
  let d := { d with
    config
    lastSnapshot := { d.lastSnapshot with deviceAddress := config.deviceAddress.toUInt16 } }
  let d := { d with transport := t.created }
  if !d.transport then
    (.error "battery transport factory returned null",
      d.disconnected "battery transport factory returned null")
  else d.ensureConnected t

/-- The registers that `read_fast_snapshot` reads. -/
def fastRegisterValues (config : BatteryDriverConfig) (t : BatteryTransport) :
    Except String BatteryFastRegisterValues := do
  let blockA ← t.readHoldingRegisters config.deviceAddress kFastBlockAStart kFastBlockACount
  let blockB ← t.readHoldingRegisters config.deviceAddress kFastBlockBStart kFastBlockBCount
  decodeFastRegisterBlocks blockA blockB

/-- What `read_fast_snapshot` makes of the registers. -/
def storeFastValues (snapshot : BatterySnapshot) (values : BatteryFastRegisterValues) (soc : ℚ) :
    BatterySnapshot :=
  { snapshot with
    workState := values.workState
    packVoltageV := milliToUnit values.packVoltageMv.toNat
    packCurrentA := milliToUnit values.packCurrentMa.toInt
    maxCellVoltageV := milliToUnit values.maxCellVoltageMv.toNat
    minCellVoltageV := milliToUnit values.minCellVoltageMv.toNat
    maxCellTemperatureC := decodeTemperatureC values.maxCellTemp
    minCellTemperatureC := decodeTemperatureC values.minCellTemp
    maxBoardTemperatureC := decodeTemperatureC values.maxBoardTemp
    minBoardTemperatureC := decodeTemperatureC values.minBoardTemp
    protectStatus := values.protectStatus
    ioStatus := values.ioStatus
    soc
    soh := toFloat values.soh.toNat
    remainCapacityMah := toFloat values.remainCapacityMah.toNat
    cycleCount := values.cycleCount }

def readFastSnapshot (d : TwsBatteryDriver) (t : BatteryTransport) (snapshot : BatterySnapshot) :
    Except String (BatterySnapshot × TwsBatteryDriver) := do
  let values ← fastRegisterValues d.config t
  let filtered := d.socFilter.filter (toFloat values.soc.toNat)
  return (storeFastValues snapshot values filtered.1, { d with socFilter := filtered.2 })

def readIdentitySnapshot (d : TwsBatteryDriver) (t : BatteryTransport)
    (snapshot : BatterySnapshot) : List BatteryStatusLogRecord × BatterySnapshot :=
  match t.readHoldingRegisters d.config.deviceAddress kIdentityBlockStart kIdentityBlockCount with
  | .error errorMessage => ([⟨.warn, "读取电池身份信息失败: " ++ errorMessage⟩], snapshot)
  | .ok block =>
    match decodeIdentityRegisterBlock block with
    | .error errorMessage => ([⟨.warn, "解析电池身份信息失败: " ++ errorMessage⟩], snapshot)
    | .ok values =>
      ([], { snapshot with
        serialNumber := sanitizeIdentityString values.serialNumberBytes
        softwareVersion := versionToText values.softwareVersion
        hardwareVersion := versionToText values.hardwareVersion })

def makePollFailureResult (d : TwsBatteryDriver) (errorMessage : String) :
    BatteryPollResult × TwsBatteryDriver :=
  let snapshot := { d.lastSnapshot with deviceAddress := d.config.deviceAddress.toUInt16 }
  let d := { d with consecutivePollFailures := d.consecutivePollFailures + 1 }
  if d.lastSnapshot.connected ∧ d.consecutivePollFailures < kConsecutivePollFailuresToOffline then
    ({ ok := false, reportFailureEvent := false, errorMessage, snapshot
       logRecords := [⟨.warn, "电池轮询失败，暂不判定掉线: " ++ errorMessage⟩] }, d)
  else
    let snapshot := { snapshot with connected := false, lastError := errorMessage }
    let transition := d.statusTransitionTracker.observeOffline errorMessage
    ({ ok := false, reportFailureEvent := transition.1.isSome || !d.hasSuccessfulPoll, errorMessage
       snapshot, logRecords := transition.1.toList.map makeBatteryStatusLogRecord },
      { d with statusTransitionTracker := transition.2, lastSnapshot := snapshot })

def identityDue (d : TwsBatteryDriver) : Bool :=
  0 < d.config.identityPollDivider.toInt &&
    d.pollCounter.toNat % d.config.identityPollDivider.toInt.toNat == 0

def makePollResult (d : TwsBatteryDriver) (t : BatteryTransport) (snapshot : BatterySnapshot) :
    BatteryPollResult × TwsBatteryDriver :=
  let identity := if d.identityDue then d.readIdentitySnapshot t snapshot else ([], snapshot)
  let snapshot := { identity.2 with connected := true, lastError := "" }
  let status := d.statusTransitionTracker.observeOnline snapshot.workState
  let soc := d.socTransitionTracker.observe snapshot.soc
  ({ ok := true, reportFailureEvent := false, errorMessage := "", snapshot
     logRecords := identity.1 ++ status.1.toList.map makeBatteryStatusLogRecord ++
       soc.1.toList.map makeBatterySocLogRecord },
    { d with
      hasSuccessfulPoll := true
      consecutivePollFailures := 0
      statusTransitionTracker := status.2
      socTransitionTracker := soc.2
      lastSnapshot := snapshot
      pollCounter := d.pollCounter + 1 })

def pollOnce (d : TwsBatteryDriver) (t : BatteryTransport) : BatteryPollResult × TwsBatteryDriver :=
  let snapshot := { d.lastSnapshot with deviceAddress := d.config.deviceAddress.toUInt16 }
  match d.ensureConnected t with
  | (.error errorMessage, d) => d.makePollFailureResult errorMessage
  | (.ok (), d) =>
    match d.readFastSnapshot t snapshot with
    | .error errorMessage => d.makePollFailureResult errorMessage
    | .ok (snapshot, d) => d.makePollResult t snapshot

def connects (d : TwsBatteryDriver) (t : BatteryTransport) : Bool :=
  (d.transport || t.created) && (t.isConnected || t.connect.isOk)

def Disconnected (d e : TwsBatteryDriver) (errorMessage : String) : Prop :=
  e = d.disconnected errorMessage ∨ e = { d with transport := true }.disconnected errorMessage

theorem ensureConnected_cases (d : TwsBatteryDriver) (t : BatteryTransport) :
    (d.connects t = false ∧ ∃ errorMessage e,
      d.Disconnected e errorMessage ∧ d.ensureConnected t = (.error errorMessage, e)) ∨
    d.connects t = true ∧ d.ensureConnected t = (.ok (), { d with transport := true }) := by
  unfold ensureConnected connects
  by_cases hheld : (d.transport || t.created) = true
  · have hnone : (!d.transport && !t.created) = false := by
      rw [← Bool.not_or, hheld]
      rfl
    rw [hnone, hheld]
    by_cases hup : t.isConnected = true
    · exact Or.inr ⟨by rw [hup]; rfl, by simp [hup]⟩
    · cases hc : t.connect with
      | ok u => exact Or.inr ⟨by simp [Except.isOk, Except.toBool], by simp [hup]⟩
      | error errorMessage =>
        exact Or.inl ⟨by simp [hup, Except.isOk, Except.toBool], errorMessage, _, Or.inr rfl,
          by simp [hup]⟩
  · rw [Bool.not_eq_true] at hheld
    have hnone : (!d.transport && !t.created) = true := by
      rw [← Bool.not_or, hheld]
      rfl
    rw [hnone, hheld]
    exact Or.inl ⟨rfl, _, _, Or.inl rfl, rfl⟩

/-- `configure` starts over with the transport, and keeps the trackers, the filter and what was
measured. -/
theorem configure_spec (d : TwsBatteryDriver) (config : BatteryDriverConfig)
    (t : BatteryTransport) : ∃ lastError, (d.configure config t).2 =
      { d.cleanup with
        config
        transport := t.created
        lastSnapshot := { d.lastSnapshot with
          deviceAddress := config.deviceAddress.toUInt16
          connected := d.lastSnapshot.connected && t.available
          lastError } } := by
  unfold configure BatteryTransport.available
  by_cases hc : t.created = true
  · dsimp only
    rw [hc, Bool.not_true, if_neg Bool.false_ne_true]
    obtain ⟨hlost, errorMessage, e, he, h⟩ | ⟨hup, h⟩ := ensureConnected_cases
      { d.cleanup with
        config
        lastSnapshot :=
          { d.cleanup.lastSnapshot with deviceAddress := config.deviceAddress.toUInt16 }
        transport := true } t
    · have hnone : (t.isConnected || t.connect.isOk) = false := by simpa [connects] using hlost
      refine ⟨errorMessage, ?_⟩
      rw [h, hnone]
      obtain rfl | rfl := he <;> simp [disconnected, cleanup]
    · have hany : (t.isConnected || t.connect.isOk) = true := by simpa [connects] using hup
      refine ⟨d.lastSnapshot.lastError, ?_⟩
      rw [h, hany]
      simp [cleanup]
  · rw [Bool.not_eq_true] at hc
    refine ⟨"battery transport factory returned null", ?_⟩
    simp [hc, disconnected, cleanup]

def fresh (d : TwsBatteryDriver) : BatterySnapshot :=
  { d.lastSnapshot with deviceAddress := d.config.deviceAddress.toUInt16 }

def filtered (d : TwsBatteryDriver) (values : BatteryFastRegisterValues) : ℚ × SocSpikeFilter :=
  d.socFilter.filter (toFloat values.soc.toNat)

theorem pollOnce_cases (d : TwsBatteryDriver) (t : BatteryTransport) :
    (d.connects t = false ∧ ∃ errorMessage e,
      d.Disconnected e errorMessage ∧ d.pollOnce t = e.makePollFailureResult errorMessage) ∨
    (d.connects t = true ∧ ∃ errorMessage, fastRegisterValues d.config t = .error errorMessage ∧
      d.pollOnce t = { d with transport := true }.makePollFailureResult errorMessage) ∨
    d.connects t = true ∧ ∃ values, fastRegisterValues d.config t = .ok values ∧
      d.pollOnce t = { d with transport := true, socFilter := (d.filtered values).2 }.makePollResult t
        (storeFastValues d.fresh values (d.filtered values).1) := by
  obtain ⟨hlost, errorMessage, e, he, hensure⟩ | ⟨hup, hensure⟩ := ensureConnected_cases d t
  · refine Or.inl ⟨hlost, errorMessage, e, he, ?_⟩
    rw [pollOnce, hensure]
  · cases hread : fastRegisterValues d.config t with
    | error errorMessage =>
      refine Or.inr (Or.inl ⟨hup, errorMessage, rfl, ?_⟩)
      simp only [pollOnce, hensure, readFastSnapshot, hread]
      rfl
    | ok values =>
      refine Or.inr (Or.inr ⟨hup, values, rfl, ?_⟩)
      simp only [pollOnce, hensure, readFastSnapshot, hread]
      rfl

def answers (config : BatteryDriverConfig) (t : BatteryTransport) : Bool :=
  (fastRegisterValues config t).isOk

theorem makePollFailureResult_ok (d : TwsBatteryDriver) (errorMessage : String) :
    (d.makePollFailureResult errorMessage).1.ok = false := by
  unfold makePollFailureResult
  dsimp only
  split_ifs <;> rfl

/-- A poll succeeds exactly when it gets to the registers and can read them. -/
theorem pollOnce_ok (d : TwsBatteryDriver) (t : BatteryTransport) :
    (d.pollOnce t).1.ok = (d.connects t && answers d.config t) := by
  obtain ⟨hlost, errorMessage, e, -, h⟩ | ⟨hup, errorMessage, hread, h⟩ | ⟨hup, values, hread, h⟩ :=
    pollOnce_cases d t
  · rw [h, makePollFailureResult_ok, hlost, Bool.false_and]
  · rw [h, makePollFailureResult_ok, hup, answers, hread]
    rfl
  · rw [h, hup, answers, hread]
    rfl

inductive Call where
  | configure (config : BatteryDriverConfig) (t : BatteryTransport)
  | cleanup
  | poll (t : BatteryTransport)

def step (d : TwsBatteryDriver) : Call → List BatteryPollResult × TwsBatteryDriver
  | .configure config t => ([], (d.configure config t).2)
  | .cleanup => ([], d.cleanup)
  | .poll t => ([(d.pollOnce t).1], (d.pollOnce t).2)

def after (config : BatteryDriverConfig) (calls : List Call) : TwsBatteryDriver :=
  (play step (create config) calls).2

theorem after_snoc (config : BatteryDriverConfig) (done : List Call) (call : Call) :
    after config (done ++ [call]) = (step (after config done) call).2 := play_snoc _ done call

end TwsBatteryDriver

end DeviceManager
