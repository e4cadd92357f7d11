import DeviceManager.CallLog
import DeviceManager.DriverConfigs
import DeviceManager.OtpDecode

namespace DeviceManager.OtpAccess

open Fallible CallLog ByteImage OtpDecode GmslRuntime

inductive Action where
  | openBus (path : String)
  | write (address register : UInt16) (value : UInt8)
  | read (address register : UInt16) (size : Nat)
  | sleep (ms : Nat)
  | closeBus

structure Bus where
  answer : Answers Action (List UInt8) String
  length_read : ∀ {address register size log bytes},
    answer (.read address register size :: log) = .ok bytes → bytes.length = size

abbrev Session : Type → Type := EStateM String (List Action)

variable (bus : Bus) (address : UInt16)

def i2cWriteRegister8 (register : UInt16) (value : UInt8) : Session Unit := do
  let _ ← call bus.answer (.write address register value)

def i2cReadRegisterBlock16 (register : UInt16) (size : Nat) : Session (List UInt8) :=
  call bus.answer (.read address register size)

def writeFailed (stage : String) (register : UInt16) (error : String) : String :=
  stage ++ ": write 0x" ++ hex register.toUInt32 ++ " failed: " ++ error

def ox01f10WriteRegisters (registers : List (UInt16 × UInt8)) (stage : String) : Session Unit :=
  forM registers fun (register, value) =>
    reword (writeFailed stage register) (i2cWriteRegister8 bus address register value)

def ox01f10TriggerCommand (stage : String) : Session Unit := do
  reword (stage ++ ": trigger failed: " ++ ·) (i2cWriteRegister8 bus address 0x8160 0x01)
  note (.sleep 80)

def setupRegisters : List (UInt16 × UInt8) :=
  [(0xA10A, 0x00), (0xA11E, 0x7F), (0xA11D, 0x00), (0xA110, 0x80), (0xA10F, 0x18), (0xA10E, 0x4C),
    (0xA10D, 0x00), (0x8181, 0x00), (0xE400, 0x81), (0xE401, 0x00), (0xE402, 0x00), (0xE403, 0x01),
    (0xE404, 0x15), (0xE410, 0x33), (0xE411, 0x44)]

def initializeOx01f10OtpAccess : Session Unit := do
  ox01f10WriteRegisters bus address setupRegisters "initialize OX01F10 OTP access"
  ox01f10TriggerCommand bus address "initialize OX01F10 OTP access"

/-- `static_cast<std::uint8_t>((number >> shift) & 0xff)`. -/
def byteAt (number shift : Int32) : UInt8 := ((number >>> shift).toUInt32 &&& 0xFF).toUInt8

def commandRegisters (flashAddress size : Int32) : List (UInt16 × UInt8) :=
  [(0x8181, 0x00), (0xE400, 0x81), (0xE401, 0x00), (0xE402, 0x00), (0xE403, 0x05), (0xE404, 0x12),
    (0xE405, byteAt flashAddress 16), (0xE406, byteAt flashAddress 8), (0xE407, byteAt flashAddress 0),
    (0xE408, byteAt size 8), (0xE409, byteAt size 0)]

def readOx01f10OtpWindow (flashAddress : Int32) (size : Nat) : Session (List UInt8) := do
  if size = 0 ∨ 256 < size then
    throw "OX01F10 OTP window size must be between 1 and 256 bytes"
  ox01f10WriteRegisters bus address (commandRegisters flashAddress (.ofNat size))
    "read OX01F10 OTP window"
  ox01f10TriggerCommand bus address "read OX01F10 OTP window"
  reword ("read OX01F10 OTP window 0x" ++ hex flashAddress.toUInt32 ++ " failed: " ++ ·)
    (i2cReadRegisterBlock16 bus address 0xE700 size)

def resetRegisters : List (UInt16 × UInt8) :=
  [(0x0107, 0x01), (0x8018, 0x00), (0x8019, 0x00), (0x801A, 0x00), (0x801B, 0xC0), (0x0100, 0x00),
    (0x0100, 0x01)]

def softResetOx01f10Sensor : Session Unit := do
  forM resetRegisters fun (register, value) => do
    reword (writeFailed "soft reset OX01F10" register) (i2cWriteRegister8 bus address register value)
    note (.sleep (if register = 0x0107 then 150 else 80))
  note (.sleep 220)

def kChunkSize : Nat := 256

/-- The loop of `read_otp_from_bus` over the windows. -/
def readWindows (otpReadOffset : Int32) (readSize : Nat) : Session (List UInt8) :=
  (List.range ((readSize + (kChunkSize - 1)) / kChunkSize)).foldlM
    (fun data turn => do
      let offset := turn * kChunkSize
      let chunk ← readOx01f10OtpWindow bus address (otpReadOffset + .ofNat offset)
        (min kChunkSize (readSize - offset))
      return overwrite data offset chunk)
    (List.replicate readSize 0)

/-- `std::max(0, config.otp_read_size)`. -/
def readSizeOf (otpReadSize : Int32) : Nat := otpReadSize.toInt.toNat

def busPath (busNumber : Int32) : String := "/dev/i2c-" ++ toString busNumber.toInt

variable {Calibration : Type}

/-- `read_otp_from_bus`. -/
def readOtpFromBus (config : DriverConfigs.GmslV4l2CameraConfig Calibration) (busNumber : Int32)
    (log : List Action) : List Action × OtpReadResult :=
  let path := busPath busNumber
  let address := config.otpI2cAddress.toUInt32.toUInt16
  let failed (message : String) : OtpReadResult := ⟨false, [], busNumber, message⟩
  match exit (call bus.answer (.openBus path)) log with
  | (log, .error message) => (log, failed (path ++ ": " ++ message))
  | (log, .ok _) =>
    match exit (initializeOx01f10OtpAccess bus address) log with
    | (log, .error message) => (.closeBus :: log, failed (path ++ ": " ++ message))
    | (log, .ok _) =>
      match exit (readWindows bus address config.otpReadOffset (readSizeOf config.otpReadSize)) log with
      | (log, .error message) =>
        match exit (softResetOx01f10Sensor bus address) log with
        | (log, .error resetError) =>
          (.closeBus :: log, failed (path ++ ": " ++ message ++ "; " ++ resetError))
        | (log, .ok _) => (.closeBus :: log, failed (path ++ ": " ++ message))
      | (log, .ok data) =>
        match exit (softResetOx01f10Sensor bus address) log with
        | (log, .error message) => (.closeBus :: log, failed (path ++ ": " ++ message))
        | (log, .ok _) => (.closeBus :: log, ⟨true, data, busNumber, ""⟩)

/-- `I2cOtpReader::read`; there is one bus to be tried. -/
def read (config : DriverConfigs.GmslV4l2CameraConfig Calibration) (log : List Action) :
    List Action × OtpReadResult :=
  if config.otpReadSize ≤ 0 then
    (log, ⟨false, [], config.otpI2cBus, "otp_read_size must be positive"⟩)
  else if config.otpI2cBus < 0 then
    (log, ⟨false, [], config.otpI2cBus,
      "camera.driver.otp_i2c_bus must be configured to read GMSL OTP"⟩)
  else
    let (log, result) := readOtpFromBus bus config config.otpI2cBus log
    let lastResult := if result.ok then
        match decodeOx01f10Otp result.data with
        | .ok _ => result
        | .error message => { result with ok := false, errorMessage := message }
      else result
    if !lastResult.ok ∧ lastResult.errorMessage = "" then
      (log, { lastResult with errorMessage := "no readable OX01F10 OTP data" })
    else (log, lastResult)

def isTransfer : Action → Bool
  | .sleep _ => false
  | .closeBus => false
  | _ => true

inductive Command (address : UInt16) : Action → Prop where
  | write {register : UInt16} {value : UInt8} (keeps : register ≠ 0x0107) :
    Command address (.write address register value)
  | sleep {ms : Nat} : Command address (.sleep ms)

inductive Use (address : UInt16) : Action → Prop where
  | command {a : Action} (h : Command address a) : Use address a
  | read {register : UInt16} {size : Nat} : Use address (.read address register size)

inductive Reset (address : UInt16) : Action → Prop where
  | write {register : UInt16} {value : UInt8} : Reset address (.write address register value)
  | sleep {ms : Nat} : Reset address (.sleep ms)

variable {bus address}

theorem runs_write {P : Action → Prop} {register : UInt16} {value : UInt8}
    (hP : P (.write address register value)) :
    Runs bus.answer isTransfer P (i2cWriteRegister8 bus address register value) :=
  runs_bind (runs_call hP rfl) fun _ => runs_pure ()

theorem runs_writeRegisters {registers : List (UInt16 × UInt8)}
    (hkeeps : ∀ pair ∈ registers, pair.1 ≠ 0x0107) (stage : String) :
    Runs bus.answer isTransfer (Command address) (ox01f10WriteRegisters bus address registers stage) :=
  runs_forM fun pair hpair => runs_reword _ (runs_write (.write (hkeeps pair hpair)))

theorem runs_trigger (stage : String) :
    Runs bus.answer isTransfer (Command address) (ox01f10TriggerCommand bus address stage) :=
  runs_bind (runs_reword _ (runs_write (.write (by decide)))) fun _ => runs_note .sleep rfl

theorem setupRegisters_keep : ∀ pair ∈ setupRegisters, pair.1 ≠ 0x0107 := by
  simp [setupRegisters]

theorem runs_initializeOtpAccess (bus : Bus) (address : UInt16) :
    Runs bus.answer isTransfer (Command address) (initializeOx01f10OtpAccess bus address) :=
  runs_bind (runs_writeRegisters setupRegisters_keep _) fun _ => runs_trigger _

theorem commandRegisters_keep (flashAddress size : Int32) :
    ∀ pair ∈ commandRegisters flashAddress size, pair.1 ≠ 0x0107 := by
  simp [commandRegisters]

theorem runs_readWindow (flashAddress : Int32) {size : Nat} (hpos : 0 < size) (hmax : size ≤ 256) :
    Runs bus.answer isTransfer (Use address)
      (readOx01f10OtpWindow bus address flashAddress size) := by
  have hsize : ¬(size = 0 ∨ 256 < size) := by omega
  unfold readOx01f10OtpWindow
  rw [if_neg hsize]
  exact runs_bind (runs_mono (fun _ => .command)
      (runs_writeRegisters (commandRegisters_keep _ _) _)) fun _ =>
    runs_bind (runs_mono (fun _ => .command) (runs_trigger _)) fun _ =>
      runs_reword _ (runs_call .read rfl)

theorem runs_readWindows (bus : Bus) (address : UInt16) (otpReadOffset : Int32) (readSize : Nat) :
    Runs bus.answer isTransfer (Use address) (readWindows bus address otpReadOffset readSize) := by
  apply runs_foldlM
  intro data turn hturn
  have hlt := List.mem_range.mp hturn
  unfold kChunkSize at hlt
  have hoffset : turn * 256 < readSize := by omega
  refine runs_bind (runs_readWindow _ ?_ ?_) fun _ => runs_pure _
  · unfold kChunkSize
    omega
  · exact Nat.min_le_left _ _

theorem runs_resetTurn (register : UInt16) (value : UInt8) (ms : Nat) :
    Runs bus.answer isTransfer (Reset address)
      (reword (writeFailed "soft reset OX01F10" register)
        (i2cWriteRegister8 bus address register value) >>= fun _ => note (.sleep ms)) :=
  runs_bind (runs_reword _ (runs_write .write)) fun _ => runs_note .sleep rfl

theorem runs_reset (bus : Bus) (address : UInt16) :
    Runs bus.answer isTransfer (Reset address) (softResetOx01f10Sensor bus address) :=
  runs_bind (runs_forM fun _ _ => runs_resetTurn _ _ _) fun _ => runs_note .sleep rfl

theorem startsWith_reset :
    StartsWith (.write address 0x0107 0x01) (softResetOx01f10Sensor bus address) := by
  have hsleep : ∀ ms, Runs bus.answer isTransfer (Reset address)
      (note (.sleep ms) : Session Unit) := fun ms => runs_note .sleep rfl
  have hrest : Runs bus.answer isTransfer (Reset address)
      (forM resetRegisters.tail fun (register, value) => do
        reword (writeFailed "soft reset OX01F10" register)
          (i2cWriteRegister8 bus address register value)
        note (.sleep (if register = 0x0107 then 150 else 80))) :=
    runs_forM fun _ _ => runs_resetTurn _ _ _
  have hwrite : StartsWith (.write address 0x0107 0x01)
      (i2cWriteRegister8 bus address 0x0107 0x01) :=
    startsWith_bind (startsWith_call _ _) fun _ log => ⟨[], rfl⟩
  refine startsWith_bind (startsWith_bind (startsWith_bind (startsWith_reword _ hwrite) ?_) ?_) ?_
  · exact fun _ => runs_grows (hsleep _)
  · exact fun _ => runs_grows hrest
  · exact fun _ => runs_grows (hsleep _)

/-- The bytes of the blocks that have been answered, one after the other. -/
def blocks (bus : Bus) (log : List Action) : List Action → List UInt8
  | [] => []
  | .read address register size :: new =>
    blocks bus log new ++
      match bus.answer (.read address register size :: (new ++ log)) with
      | .ok bytes => bytes
      | .error _ => []
  | _ :: new => blocks bus log new

theorem blocks_append (log first second : List Action) :
    blocks bus log (second ++ first) = blocks bus log first ++ blocks bus (first ++ log) second := by
  induction second with
  | nil => exact (List.append_nil _).symm
  | cons a second ih =>
    cases a with
    | read address register size =>
      rw [List.cons_append, blocks, blocks, ih, List.append_assoc, List.append_assoc]
    | openBus | write | sleep | closeBus => exact ih

theorem blocks_command {log new : List Action} (h : ∀ a ∈ new, Command address a) :
    blocks bus log new = [] := by
  induction new with
  | nil => rfl
  | cons a new ih =>
    obtain ⟨hhere, hrest⟩ := List.forall_mem_cons.mp h
    cases hhere with
    | write => exact ih hrest
    | sleep => exact ih hrest

theorem blocks_reset {log new : List Action} (h : ∀ a ∈ new, Reset address a) :
    blocks bus log new = [] := by
  induction new with
  | nil => rfl
  | cons a new ih =>
    obtain ⟨hhere, hrest⟩ := List.forall_mem_cons.mp h
    cases hhere with
    | write => exact ih hrest
    | sleep => exact ih hrest

/-- What a read leaves on the bus, the newest action first. A bus that has been opened is closed
at the end, and a sensor that has been set up is reset before. -/
inductive Transaction (bus : Bus) (path : String) (address : UInt16) (log : List Action) :
    List Action → Prop where
  | unopened : Transaction bus path address log [.openBus path]
  | unprepared {setup : List Action} (uses : ∀ a ∈ setup, Use address a)
    (fails : ¬Smooth bus.answer isTransfer (.openBus path :: log) setup) :
    Transaction bus path address log (.closeBus :: (setup ++ [.openBus path]))
  | finished {setup reading resetting : List Action} (uses : ∀ a ∈ reading ++ setup, Use address a)
    (prepared : Smooth bus.answer isTransfer (.openBus path :: log) setup)
    (resets : ∀ a ∈ resetting, Reset address a) (starts : .write address 0x0107 0x01 ∈ resetting) :
    Transaction bus path address log
      (.closeBus :: (resetting ++ (reading ++ (setup ++ [.openBus path]))))

theorem smooth_close (log new : List Action) :
    Smooth bus.answer isTransfer log (.closeBus :: new) ↔ Smooth bus.answer isTransfer log new := by
  simp [Smooth, isTransfer]

theorem smooth_open {path : String} {log : List Action} {bytes : List UInt8}
    (h : bus.answer (.openBus path :: log) = .ok bytes) :
    Smooth bus.answer isTransfer log [.openBus path] := by
  refine ⟨trivial, fun _ => ?_⟩
  rw [List.nil_append, h]
  rfl

theorem readWindow_returns {flashAddress : Int32} {size : Nat} {log log' : List Action}
    {bytes : List UInt8}
    (h : exit (readOx01f10OtpWindow bus address flashAddress size) log = (log', .ok bytes)) :
    ∃ commanded triggered,
      exit (ox01f10WriteRegisters bus address (commandRegisters flashAddress (.ofNat size))
        "read OX01F10 OTP window") log = (commanded, .ok ()) ∧
      exit (ox01f10TriggerCommand bus address "read OX01F10 OTP window") commanded =
        (triggered, .ok ()) ∧
      log' = .read address 0xE700 size :: triggered ∧
      bus.answer (.read address 0xE700 size :: triggered) = .ok bytes := by
  unfold readOx01f10OtpWindow at h
  split at h
  · cases h
  · obtain ⟨_, commanded, hcommand, h⟩ := bind_returns h
    obtain ⟨_, triggered, htrigger, h⟩ := bind_returns h
    obtain ⟨hlog, hanswer⟩ := call_returns (reword_returns h)
    exact ⟨commanded, triggered, hcommand, htrigger, hlog, hanswer⟩

theorem readWindow_blocks {flashAddress : Int32} {size : Nat} {log log' : List Action}
    {bytes : List UInt8}
    (h : exit (readOx01f10OtpWindow bus address flashAddress size) log = (log', .ok bytes)) :
    ∃ new, log' = new ++ log ∧ blocks bus log new = bytes := by
  obtain ⟨commanded, triggered, hcommand, htrigger, hlog, hanswer⟩ := readWindow_returns h
  have hwrites := @runs_writeRegisters bus address _
    (commandRegisters_keep flashAddress (.ofNat size)) "read OX01F10 OTP window"
  obtain ⟨first, _, hfirst, hcommands, -⟩ := runs_exit hwrites log
  rw [hcommand] at hfirst
  obtain ⟨rfl, -⟩ := Prod.mk.inj hfirst
  obtain ⟨second, _, hsecond, hcommands', -⟩ :=
    runs_exit (@runs_trigger bus address "read OX01F10 OTP window") (first ++ log)
  rw [htrigger] at hsecond
  obtain ⟨rfl, -⟩ := Prod.mk.inj hsecond
  refine ⟨.read address 0xE700 size :: (second ++ first), ?_, ?_⟩
  · rw [hlog, List.cons_append, List.append_assoc]
  · have hquiet : ∀ a ∈ second ++ first, Command address a := fun a ha =>
      (List.mem_append.mp ha).elim (hcommands' a) (hcommands a)
    rw [blocks, blocks_command hquiet, List.append_assoc, hanswer]
    rfl

/-- A chunk behind those that have been copied. -/
theorem overwrite_next {copied chunk : List UInt8} {start : Nat} (hstart : copied.length = start)
    (n : Nat) : overwrite (copied ++ List.replicate n 0) start chunk =
      copied ++ chunk ++ List.replicate (n - chunk.length) 0 := by
  rw [overwrite, List.take_left' hstart, ← List.drop_drop, List.drop_left' hstart,
    List.drop_replicate]

theorem min_next {turn n : Nat} (h : turn * 256 ≤ n) :
    min ((turn + 1) * 256) n = turn * 256 + min 256 (n - turn * 256) := by
  rw [Nat.succ_mul]
  omega

/-- The blocks so far, and zeros behind them. -/
structure Copied (bus : Bus) (log : List Action) (readSize turn : Nat) (data : List UInt8)
    (log' : List Action) : Prop where
  copied : ∃ new, log' = new ++ log ∧ (blocks bus log new).length = min (turn * 256) readSize ∧
    data = blocks bus log new ++ List.replicate (readSize - min (turn * 256) readSize) 0

theorem readWindows_blocks {otpReadOffset : Int32} {readSize : Nat} {log log' : List Action}
    {data : List UInt8}
    (h : exit (readWindows bus address otpReadOffset readSize) log = (log', .ok data)) :
    ∃ new, log' = new ++ log ∧ data = blocks bus log new ∧ data.length = readSize := by
  have hcopied := foldlM_range_returns (Copied bus log readSize) ⟨[], rfl, by simp [blocks], by
    simp [blocks]⟩ ?_ h
  · obtain ⟨new, hlog, hlength, hdata⟩ := hcopied.copied
    have hall : min ((readSize + (kChunkSize - 1)) / kChunkSize * 256) readSize = readSize := by
      unfold kChunkSize
      omega
    rw [hall] at hlength hdata
    rw [Nat.sub_self, List.replicate_zero, List.append_nil] at hdata
    exact ⟨new, hlog, hdata, by rw [hdata, hlength]⟩
  · intro turn hturn data data' before log'' hturn' hturned
    unfold kChunkSize at hturn hturned
    obtain ⟨new, hlog, hlength, hdata⟩ := hturn'.copied
    obtain ⟨chunk, mid, hread, hcopy⟩ := bind_returns hturned
    obtain ⟨more, hmore, hblock⟩ := readWindow_blocks hread
    obtain ⟨_, _, -, -, -, hanswer⟩ := readWindow_returns hread
    have hchunk := bus.length_read hanswer
    cases hcopy
    have hle : turn * 256 ≤ readSize := by omega
    have hnext := min_next hle
    rw [Nat.min_eq_left hle] at hlength hdata
    refine ⟨more ++ new, by rw [hmore, hlog, List.append_assoc], ?_, ?_⟩
    · rw [blocks_append, ← hlog, hblock, List.length_append, hlength, hchunk, hnext]
    · rw [blocks_append, ← hlog, hblock, hdata, overwrite_next hlength, hnext, hchunk, Nat.sub_sub]

/-- The end of a read whose setup has been answered. -/
theorem readOtpFromBus_prepared {config : DriverConfigs.GmslV4l2CameraConfig Calibration}
    {busNumber : Int32} {log prepared afterRead afterReset : List Action} {bytes : List UInt8}
    {ending : Except String (List UInt8)} {resetEnding : Except String Unit}
    (hopen : bus.answer (.openBus (busPath busNumber) :: log) = .ok bytes)
    (hsetup : exit (initializeOx01f10OtpAccess bus config.otpI2cAddress.toUInt32.toUInt16)
      (.openBus (busPath busNumber) :: log) = (prepared, .ok ()))
    (hreading : exit (readWindows bus config.otpI2cAddress.toUInt32.toUInt16 config.otpReadOffset
      (readSizeOf config.otpReadSize)) prepared = (afterRead, ending))
    (hresetting : exit (softResetOx01f10Sensor bus config.otpI2cAddress.toUInt32.toUInt16)
      afterRead = (afterReset, resetEnding)) :
    ∃ result, readOtpFromBus bus config busNumber log = (.closeBus :: afterReset, result) ∧
      (result.ok = true ↔ returns ending = true ∧ returns resetEnding = true) ∧
      if result.ok then ending = .ok result.data else result.data = [] := by
  cases ending with
  | error message =>
    cases resetEnding with
    | error resetError =>
      simp only [readOtpFromBus, exit_call, hopen, hsetup, hreading, hresetting]
      exact ⟨_, rfl, by simp, rfl⟩
    | ok _ =>
      simp only [readOtpFromBus, exit_call, hopen, hsetup, hreading, hresetting]
      exact ⟨_, rfl, by simp, rfl⟩
  | ok data =>
    cases resetEnding with
    | error message =>
      simp only [readOtpFromBus, exit_call, hopen, hsetup, hreading, hresetting]
      exact ⟨_, rfl, by simp, rfl⟩
    | ok _ =>
      simp only [readOtpFromBus, exit_call, hopen, hsetup, hreading, hresetting]
      exact ⟨_, rfl, by simp, rfl⟩

theorem blocks_finished {path : String} {log setup reading resetting : List Action}
    (hsetup : ∀ a ∈ setup, Command address a) (hresets : ∀ a ∈ resetting, Reset address a) :
    blocks bus log (.closeBus :: (resetting ++ (reading ++ (setup ++ [.openBus path])))) =
      blocks bus (setup ++ .openBus path :: log) reading := by
  have hopened : blocks bus log [Action.openBus path] = [] := rfl
  change blocks bus log (resetting ++ (reading ++ (setup ++ [.openBus path]))) = _
  rw [blocks_append, blocks_reset hresets, List.append_nil, blocks_append, blocks_append, hopened,
    blocks_command hsetup, List.nil_append, List.nil_append, List.append_assoc, List.singleton_append]

/-- However the bus answers, a read of the memory keeps to the protocol, succeeds exactly when no
transfer fails, and hands out the blocks that have been answered, all of them or none. -/
theorem readOtpFromBus_run (bus : Bus) (config : DriverConfigs.GmslV4l2CameraConfig Calibration)
    (busNumber : Int32) (log : List Action) :
    let (log', result) := readOtpFromBus bus config busNumber log
    ∃ new, log' = new ++ log ∧
      Transaction bus (busPath busNumber) config.otpI2cAddress.toUInt32.toUInt16 log new ∧
      (result.ok = true ↔ Smooth bus.answer isTransfer log new) ∧
      result.data = (if result.ok then blocks bus log new else []) ∧
      (result.ok = true → result.data.length = readSizeOf config.otpReadSize) := by
  cases hopen : bus.answer (.openBus (busPath busNumber) :: log) with
  | error message =>
    simp only [readOtpFromBus, exit_call, hopen]
    refine ⟨[.openBus (busPath busNumber)], rfl, .unopened, ?_, rfl, by simp⟩
    simp [Smooth, isTransfer, hopen]
  | ok bytes =>
    have hfirst := smooth_open hopen
    obtain ⟨setup, ending, hsetup, husesSetup, hokSetup⟩ :=
      runs_exit (runs_initializeOtpAccess bus config.otpI2cAddress.toUInt32.toUInt16)
        (.openBus (busPath busNumber) :: log)
    cases ending with
    | error message =>
      have hfails : ¬Smooth bus.answer isTransfer (.openBus (busPath busNumber) :: log) setup :=
        fun hsmooth => absurd (hokSetup.mpr hsmooth) (by simp)
      simp only [readOtpFromBus, exit_call, hopen, hsetup]
      refine ⟨.closeBus :: (setup ++ [.openBus (busPath busNumber)]), by simp,
        .unprepared (fun a ha => .command (husesSetup a ha)) hfails, ?_, rfl, by simp⟩
      rw [smooth_close, smooth_append]
      simp [hfails]
    | ok _ =>
      have hprepared := hokSetup.mp rfl
      obtain ⟨reading, ending, hreading, husesReading, hokReading⟩ :=
        runs_exit (runs_readWindows bus config.otpI2cAddress.toUInt32.toUInt16
          config.otpReadOffset (readSizeOf config.otpReadSize))
          (setup ++ .openBus (busPath busNumber) :: log)
      obtain ⟨resetting, resetEnding, hresetting, hresets, hokResetting, hstarts⟩ :=
        runs_exit_startsWith (runs_reset bus config.otpI2cAddress.toUInt32.toUInt16)
          startsWith_reset
          (reading ++ (setup ++ .openBus (busPath busNumber) :: log))
      have huses : ∀ a ∈ reading ++ setup, Use config.otpI2cAddress.toUInt32.toUInt16 a :=
        fun a ha => (List.mem_append.mp ha).elim (husesReading a) fun hs => .command (husesSetup a hs)
      have hsmooth : Smooth bus.answer isTransfer log
            (.closeBus :: (resetting ++ (reading ++ (setup ++ [.openBus (busPath busNumber)])))) ↔
          returns ending = true ∧ returns resetEnding = true := by
        rw [hokReading, hokResetting]
        simp [smooth_close, smooth_append, hfirst, hprepared]
      obtain ⟨result, hread, hok, hdata⟩ :=
        readOtpFromBus_prepared hopen hsetup hreading hresetting
      rw [hread]
      refine ⟨_, ?_, .finished huses hprepared hresets hstarts, hok.trans hsmooth.symm, ?_⟩
      · simp
      · cases hended : result.ok with
        | false =>
          rw [hended] at hdata
          exact ⟨hdata, fun hnot => by cases hnot⟩
        | true =>
          rw [hended] at hdata
          obtain rfl : ending = .ok result.data := hdata
          obtain ⟨new, hnew, hblocks, hlength⟩ := readWindows_blocks hreading
          obtain rfl := List.append_cancel_right hnew
          refine ⟨?_, fun _ => hlength⟩
          rw [if_pos rfl, blocks_finished husesSetup hresets, ← hblocks]

end DeviceManager.OtpAccess
