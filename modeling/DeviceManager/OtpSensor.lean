import DeviceManager.OtpAccess
import DeviceManager.OtpImage

namespace DeviceManager.OtpSensor

open Fallible CallLog ShiftRegister ByteImage OtpDecode OtpImage GmslRuntime OtpAccess

variable (bus : Bus) (sensor : UInt16)

/-- What is known of a register: the last value that was written to it, if that write was answered.
A soft reset forgets the registers. -/
def held (register : UInt16) : List Action → Option UInt8
  | [] => none
  | .write address r value :: log =>
    if address = sensor then
      if r = 0x0107 then none
      else if r = register then
        if returns (bus.answer (.write address r value :: log)) then some value else none
      else held register log
    else held register log
  | _ :: log => held register log

/-- The window that the registers name, once they hold the command of a read. -/
def named (log : List Action) : Option (Nat × Nat) := do
  guard (held bus sensor 0xE404 log = some 0x12)
  let high ← held bus sensor 0xE405 log
  let middle ← held bus sensor 0xE406 log
  let low ← held bus sensor 0xE407 log
  let sizeHigh ← held bus sensor 0xE408 log
  let sizeLow ← held bus sensor 0xE409 log
  return (high.toNat * 65536 + middle.toNat * 256 + low.toNat, sizeHigh.toNat * 256 + sizeLow.toNat)

/-- The window that the last trigger has loaded. -/
def loaded : List Action → Option (Nat × Nat)
  | [] => none
  | .write address r value :: log =>
    if address = sensor then
      if r = 0x0107 then none
      else if r = 0x8160 then
        if value = 0x01 ∧ returns (bus.answer (.write address r value :: log)) then
          named bus sensor log
        else none
      else loaded log
    else loaded log
  | _ :: log => loaded log

def window (memory : Nat → UInt8) (first size : Nat) : List UInt8 :=
  (List.range size).map fun i => memory (first + i)

/-- A sensor whose memory is read through windows. Its transfers may fail at any time. -/
structure Reads (memory : Nat → UInt8) : Prop where
  block : ∀ {log first size n bytes}, loaded bus sensor log = some (first, size) → n ≤ size →
    bus.answer (.read sensor 0xE700 n :: log) = .ok bytes → bytes = window memory first n

variable {bus sensor} {memory : Nat → UInt8}

theorem held_writeRegisters {registers : List (UInt16 × UInt8)}
    (hkeeps : ∀ pair ∈ registers, pair.1 ≠ 0x0107) {stage : String} {log log' : List Action}
    (h : exit (ox01f10WriteRegisters bus sensor registers stage) log = (log', .ok ()))
    (register : UInt16) :
    held bus sensor register log' =
      ((registers.reverse.find? (·.1 == register)).map Prod.snd).or
        (held bus sensor register log) := by
  induction registers generalizing log with
  | nil =>
    cases h
    rfl
  | cons pair registers ih =>
    obtain ⟨_, mid, hwrite, hrest⟩ := bind_returns h
    obtain ⟨_, written, hcall, hdone⟩ := bind_returns (reword_returns hwrite)
    obtain ⟨hlog, hanswer⟩ := call_returns hcall
    cases hdone
    have hkeep := hkeeps pair (List.mem_cons_self ..)
    have hheld : held bus sensor register mid =
        if pair.1 = register then some pair.2 else held bus sensor register log := by
      rw [hlog, held, if_pos rfl, if_neg hkeep, hanswer]
      rfl
    rw [ih (fun p hp => hkeeps p (List.mem_cons_of_mem _ hp)) hrest, hheld, List.reverse_cons,
      List.find?_append]
    cases registers.reverse.find? (·.1 == register) with
    | some found => rfl
    | none =>
      by_cases heq : pair.1 = register
      · simp [heq]
      · simp [heq]

theorem toNat_byteAt {number : Int32} (hpos : 0 ≤ number.toInt) (shift : Int32) (n : Nat)
    (hshift : shift.toBitVec.smod 32 = BitVec.ofNat 32 n) (hn : n < 32) :
    (byteAt number shift).toNat = number.toInt.toNat / 2 ^ n % 256 := by
  have hmsb : number.toBitVec.msb = false := by
    have htoInt := BitVec.toInt_eq_toNat_cond number.toBitVec
    rw [BitVec.msb_eq_false_iff_two_mul_lt]
    rw [Int32.toInt] at hpos
    split at htoInt <;> omega
  have hnat : number.toInt.toNat = number.toBitVec.toNat := by
    rw [Int32.toInt, BitVec.toInt_eq_toNat_of_msb hmsb]
    rfl
  have hbits : (number >>> shift).toUInt32.toBitVec = number.toBitVec >>> n := by
    change (number >>> shift).toBitVec = _
    rw [Int32.toBitVec_shiftRight, hshift, BitVec.sshiftRight_eq',
      BitVec.sshiftRight_eq_of_msb_false hmsb, BitVec.toNat_ofNat, Nat.mod_eq_of_lt (by omega)]
  have hand : ∀ m : Nat, m &&& 255 = m % 256 := fun m => Nat.and_two_pow_sub_one_eq_mod m 8
  rw [byteAt, UInt32.toNat_toUInt8, UInt32.toNat_and, hnat, ← UInt32.toNat_toBitVec, hbits,
    BitVec.toNat_ushiftRight, Nat.shiftRight_eq_div_pow]
  change (_ &&& 255) % 256 = _
  rw [hand, Nat.mod_mod]

theorem named_command {flashAddress size : Int32} (haddress : 0 ≤ flashAddress.toInt)
    (hmemory : flashAddress.toInt < 2 ^ 24) (hsize : 0 ≤ size.toInt) (hmax : size.toInt < 2 ^ 16)
    {stage : String} {log log' : List Action}
    (h : exit (ox01f10WriteRegisters bus sensor (commandRegisters flashAddress size) stage) log =
      (log', .ok ())) :
    named bus sensor log' = some (flashAddress.toInt.toNat, size.toInt.toNat) := by
  have hheld := held_writeRegisters (commandRegisters_keep flashAddress size) h
  have hcommand : held bus sensor 0xE404 log' = some 0x12 := hheld 0xE404
  have hhigh : held bus sensor 0xE405 log' = some (byteAt flashAddress 16) := hheld 0xE405
  have hmiddle : held bus sensor 0xE406 log' = some (byteAt flashAddress 8) := hheld 0xE406
  have hlow : held bus sensor 0xE407 log' = some (byteAt flashAddress 0) := hheld 0xE407
  have hsizeHigh : held bus sensor 0xE408 log' = some (byteAt size 8) := hheld 0xE408
  have hsizeLow : held bus sensor 0xE409 log' = some (byteAt size 0) := hheld 0xE409
  have hat16 := toNat_byteAt haddress 16 16 (by decide) (by decide)
  have hat8 := toNat_byteAt haddress 8 8 (by decide) (by decide)
  have hat0 := toNat_byteAt haddress 0 0 (by decide) (by decide)
  have hsize8 := toNat_byteAt hsize 8 8 (by decide) (by decide)
  have hsize0 := toNat_byteAt hsize 0 0 (by decide) (by decide)
  rw [named, hcommand, hhigh, hmiddle, hlow, hsizeHigh, hsizeLow]
  change some (_, _) = _
  rw [hat16, hat8, hat0, hsize8, hsize0, Option.some.injEq, Prod.mk.injEq]
  constructor
  · omega
  · omega

theorem loaded_trigger {stage : String} {log log' : List Action}
    (h : exit (ox01f10TriggerCommand bus sensor stage) log = (log', .ok ())) :
    loaded bus sensor log' = named bus sensor log := by
  obtain ⟨_, mid, hwrite, hsleep⟩ := bind_returns h
  obtain ⟨_, written, hcall, hdone⟩ := bind_returns (reword_returns hwrite)
  obtain ⟨hlog, hanswer⟩ := call_returns hcall
  cases hdone
  cases hsleep
  have hnamed : loaded bus sensor mid = named bus sensor log := by
    rw [hlog, loaded, if_pos rfl, hanswer]
    rfl
  exact hnamed

theorem toInt_add_ofNat {number : Int32} (hpos : 0 ≤ number.toInt) {n : Nat}
    (hlt : number.toInt + n < 2 ^ 31) : (number + .ofNat n).toInt = number.toInt + n := by
  have hn : (Int32.ofNat n).toInt = n := Int32.toInt_ofNat_of_lt (by omega)
  rw [Int32.toInt_add, hn]
  exact Int.bmod_eq_of_le (by omega) (by omega)

theorem readWindow_memory (hreads : Reads bus sensor memory) {flashAddress : Int32} {size : Nat}
    (haddress : 0 ≤ flashAddress.toInt) (hmemory : flashAddress.toInt < 2 ^ 24) (hmax : size ≤ 256)
    {log log' : List Action} {bytes : List UInt8}
    (h : exit (readOx01f10OtpWindow bus sensor flashAddress size) log = (log', .ok bytes)) :
    bytes = window memory flashAddress.toInt.toNat size := by
  obtain ⟨commanded, triggered, hcommand, htrigger, -, hanswer⟩ := readWindow_returns h
  have hsize : (Int32.ofNat size).toInt = size := Int32.toInt_ofNat_of_lt (by omega)
  have hnamed := named_command haddress hmemory (by omega) (by omega) hcommand
  rw [← loaded_trigger htrigger, hsize] at hnamed
  exact hreads.block hnamed (le_refl size) hanswer

theorem window_append (memory : Nat → UInt8) (first m n : Nat) :
    window memory first (m + n) = window memory first m ++ window memory (first + m) n := by
  rw [window, window, window, List.range_add, List.map_append, List.map_map]
  congr 2
  funext i
  exact congrArg memory (Nat.add_assoc first m i).symm

theorem length_window (memory : Nat → UInt8) (first size : Nat) :
    (window memory first size).length = size := by
  rw [window, List.length_map, List.length_range]

theorem readWindows_memory (hreads : Reads bus sensor memory) {otpReadOffset : Int32}
    {readSize : Nat} (hoffset : 0 ≤ otpReadOffset.toInt)
    (hmemory : otpReadOffset.toInt + readSize ≤ 2 ^ 24) {log log' : List Action}
    {data : List UInt8}
    (h : exit (readWindows bus sensor otpReadOffset readSize) log = (log', .ok data)) :
    data = window memory otpReadOffset.toInt.toNat readSize := by
  have hcopied := foldlM_range_returns
    (fun turn data _ => data = window memory otpReadOffset.toInt.toNat (min (turn * 256) readSize) ++
      List.replicate (readSize - min (turn * 256) readSize) 0) (by simp [window]) ?_ h
  · have hall : min ((readSize + (kChunkSize - 1)) / kChunkSize * 256) readSize = readSize := by
      unfold kChunkSize
      omega
    rw [hall, Nat.sub_self, List.replicate_zero, List.append_nil] at hcopied
    exact hcopied
  · intro turn hturn data data' log log' hdata hturned
    unfold kChunkSize at hturn hturned
    obtain ⟨chunk, mid, hread, hcopy⟩ := bind_returns hturned
    have haddress : (otpReadOffset + .ofNat (turn * 256)).toInt =
        otpReadOffset.toInt + (turn * 256 : Nat) := toInt_add_ofNat hoffset (by omega)
    have hchunk := readWindow_memory hreads (by omega) (by omega) (Nat.min_le_left _ _) hread
    cases hcopy
    have hle : turn * 256 ≤ readSize := by omega
    have hmin : min (turn * 256) readSize = turn * 256 := Nat.min_eq_left hle
    have hnext := min_next hle
    have hplace : (otpReadOffset.toInt + (turn * 256 : Nat)).toNat =
        otpReadOffset.toInt.toNat + turn * 256 := by omega
    rw [haddress, hplace] at hchunk
    have hlength : chunk.length = min 256 (readSize - turn * 256) := by
      rw [hchunk, length_window]
    rw [hmin] at hdata
    rw [hdata, overwrite_next (length_window ..), hnext, window_append, ← hchunk, hlength,
      Nat.sub_sub]

variable {Calibration : Type}

structure Placed (config : DriverConfigs.GmslV4l2CameraConfig Calibration) : Prop where
  nonneg : 0 ≤ config.otpReadOffset.toInt
  within : config.otpReadOffset.toInt + readSizeOf config.otpReadSize ≤ 2 ^ 24

def readout (config : DriverConfigs.GmslV4l2CameraConfig Calibration) (memory : Nat → UInt8) :
    List UInt8 :=
  window memory config.otpReadOffset.toInt.toNat (readSizeOf config.otpReadSize)

def withFields (config : DriverConfigs.GmslV4l2CameraConfig Calibration)
    (fields : GmslV4l2CameraConfig Calibration) : DriverConfigs.GmslV4l2CameraConfig Calibration :=
  { config with toGmslV4l2CameraConfig := fields }

section Reading

variable (config : DriverConfigs.GmslV4l2CameraConfig Calibration)

/-- Whatever fails: what is handed out is what stands in the memory. -/
theorem readOtpFromBus_memory
    (hreads : Reads bus config.otpI2cAddress.toUInt32.toUInt16 memory) (hplaced : Placed config)
    (busNumber : Int32) (log : List Action)
    (hok : (readOtpFromBus bus config busNumber log).2.ok = true) :
    (readOtpFromBus bus config busNumber log).2.data = readout config memory := by
  revert hok
  unfold readOtpFromBus
  dsimp only
  split
  · simp
  · split
    · simp
    · split
      · split <;> simp
      · next hread =>
        split
        · simp
        · intro _
          exact readWindows_memory hreads hplaced.nonneg hplaced.within hread

theorem readOtpFromBus_answered (hall : ∀ log, returns (bus.answer log) = true) (busNumber : Int32)
    (log : List Action) : (readOtpFromBus bus config busNumber log).2.ok = true := by
  have hopen := hall (.openBus (busPath busNumber) :: log)
  obtain ⟨prepared, _, hprepared⟩ := runs_returns
    (runs_initializeOtpAccess bus config.otpI2cAddress.toUInt32.toUInt16) hall
    (.openBus (busPath busNumber) :: log)
  obtain ⟨readAll, data, hreadAll⟩ := runs_returns (runs_readWindows bus
    config.otpI2cAddress.toUInt32.toUInt16 config.otpReadOffset (readSizeOf config.otpReadSize)) hall
    prepared
  obtain ⟨reset, _, hreset⟩ := runs_returns
    (runs_reset bus config.otpI2cAddress.toUInt32.toUInt16) hall readAll
  cases hanswer : bus.answer (.openBus (busPath busNumber) :: log) with
  | error message =>
    rw [hanswer] at hopen
    cases hopen
  | ok bytes =>
    simp only [readOtpFromBus, exit_call, hanswer, hprepared, hreadAll, hreset]

theorem read_memory (hreads : Reads bus config.otpI2cAddress.toUInt32.toUInt16 memory)
    (hplaced : Placed config) (log : List Action) (hok : (read bus config log).2.ok = true) :
    (read bus config log).2.data = readout config memory ∧
      ∃ r, decodeOx01f10Otp (readout config memory) = .ok r := by
  have hdata := readOtpFromBus_memory config hreads hplaced config.otpI2cBus log
  revert hok
  unfold OtpAccess.read
  dsimp only
  split
  · simp
  · split
    · simp
    · split
      · next hbus =>
        rw [hdata hbus]
        cases hdecode : decodeOx01f10Otp (readout config memory) with
        | ok r => simpa [hbus] using hdata hbus
        | error message =>
          dsimp only
          split <;> simp
      · next hbus => split <;> simp [hbus]

theorem read_answered (hreads : Reads bus config.otpI2cAddress.toUInt32.toUInt16 memory)
    (hplaced : Placed config) (hall : ∀ log, returns (bus.answer log) = true)
    (hsize : ¬config.otpReadSize ≤ 0) (hbus : ¬config.otpI2cBus < 0) {r : String × CameraCalibration}
    (hdecode : decodeOx01f10Otp (readout config memory) = .ok r) (log : List Action) :
    (read bus config log).2.ok = true := by
  have hok := readOtpFromBus_answered config hall config.otpI2cBus log
  have hdata := readOtpFromBus_memory config hreads hplaced config.otpI2cBus log hok
  unfold OtpAccess.read
  rw [if_neg hsize, if_neg hbus]
  dsimp only
  rw [if_pos hok, hdata, hdecode]
  simp [hok]

end Reading

theorem readSize_pos {config : DriverConfigs.GmslV4l2CameraConfig Calibration}
    (h : 0 < readSizeOf config.otpReadSize) : ¬config.otpReadSize ≤ 0 := by
  rw [Int32.le_iff_toInt_le]
  change ¬config.otpReadSize.toInt ≤ 0
  unfold readSizeOf at h
  omega

section Calibrated

variable {decode : List UInt8 → Except String (String × Calibration)} {calls : Outside Calibration}
  {config : GmslV4l2CameraConfig Calibration}

/-- Nothing is read. -/
theorem applyOtpCalibration_unread {created : Bool} (hcreate : calls.createOtpReader = .ok created)
    (hunread : ¬(config.readOtpOnStart = true ∧ ¬config.otpI2cBus < 0 ∧ created = true)) :
    ∃ calibrated, applyOtpCalibration decode calls config = .ok calibrated ∧
      calibrated.serialNumber = config.serialNumber ∧
        calibrated.calibration = config.calibration := by
  unfold applyOtpCalibration
  rw [hcreate]
  by_cases hstart : config.readOtpOnStart = true
  · by_cases hbus : config.otpI2cBus < 0
    · simp only [hstart, hbus, Bool.not_true, Bool.false_eq_true, if_false, if_true]
      exact ⟨_, rfl, rfl, rfl⟩
    · cases created with
      | false =>
        simp only [hstart, hbus, Bool.not_true, Bool.false_eq_true, if_false]
        exact ⟨_, rfl, rfl, rfl⟩
      | true => exact absurd ⟨hstart, hbus, rfl⟩ hunread
  · simp only [hstart, Bool.not_false, if_true]
    exact ⟨_, rfl, rfl, rfl⟩

/-- What is read is taken over if it has been read without an error. -/
theorem applyOtpCalibration_read (hcreate : calls.createOtpReader = .ok true)
    (hstart : config.readOtpOnStart = true) (hbus : ¬config.otpI2cBus < 0)
    {result : OtpReadResult} {r : String × Calibration}
    (hread : calls.readOtp { config with otpStatus := "attempted" } = .ok result)
    (hdecode : result.ok = true → decode result.data = .ok r) :
    ∃ calibrated, applyOtpCalibration decode calls config = .ok calibrated ∧
      if result.ok then calibrated.serialNumber = r.1 ∧ calibrated.calibration = some r.2
      else calibrated.serialNumber = config.serialNumber ∧
        calibrated.calibration = config.calibration := by
  rw [hstart] at hread
  unfold applyOtpCalibration
  rw [hcreate]
  simp only [hstart, hbus, Bool.not_true, Bool.false_eq_true, if_false, bind, Except.bind, pure,
    Except.pure, hread]
  cases hok : result.ok with
  | false =>
    simp only [Bool.not_false, if_true]
    exact ⟨_, rfl, rfl, rfl⟩
  | true =>
    simp only [Bool.not_true, Bool.false_eq_true, if_false, hdecode hok]
    exact ⟨_, rfl, rfl, rfl⟩

end Calibrated

theorem loaded_congr {other : Bus}
    (h : ∀ log, returns (bus.answer log) = returns (other.answer log)) (log : List Action) :
    loaded bus sensor log = loaded other sensor log := by
  have hheld : ∀ register log, held bus sensor register log = held other sensor register log := by
    intro register log
    induction log with
    | nil => rfl
    | cons a log ih =>
      cases a with
      | write address r value => simp only [held, h, ih]
      | openBus | read | sleep | closeBus => exact ih
  induction log with
  | nil => rfl
  | cons a log ih =>
    cases a with
    | write address r value => simp only [loaded, named, hheld, h, ih]
    | openBus | read | sleep | closeBus => exact ih

def quiet : Bus where
  answer
    | .read _ _ size :: _ => .ok (List.replicate size 0)
    | _ => .ok []
  length_read h := by
    cases h
    exact List.length_replicate ..

def answering (sensor : UInt16) (memory : Nat → UInt8) : Bus where
  answer
    | .read _ _ size :: log => .ok (window memory
        (((loaded quiet sensor log).map Prod.fst).getD 0) size)
    | _ => .ok []
  length_read h := by
    cases h
    exact length_window ..

theorem answering_returns (sensor : UInt16) (memory : Nat → UInt8) (log : List Action) :
    returns ((answering sensor memory).answer log) = true := by
  cases log with
  | nil => rfl
  | cons a log => cases a <;> rfl

theorem answering_reads (sensor : UInt16) (memory : Nat → UInt8) :
    Reads (answering sensor memory) sensor memory where
  block {log first size n bytes} hloaded _ hanswer := by
    have hquiet : loaded quiet sensor log = some (first, size) := by
      rw [← hloaded]
      apply loaded_congr
      intro log
      rw [answering_returns]
      cases log with
      | nil => rfl
      | cons a log => cases a <;> rfl
    cases hanswer
    rw [hquiet]
    rfl

def configured : DriverConfigs.GmslV4l2CameraConfig CameraCalibration :=
  { DriverConfigs.gmslDefaults with otpI2cBus := 10 }

def programmed (address : Nat) : UInt8 := sample.image.getD (address - 0x10000) 0

theorem readout_programmed : readout configured programmed = sample.image := by
  have hread : readout configured programmed =
      (List.range 0x2000).map fun i => programmed (0x10000 + i) := rfl
  rw [hread]
  apply List.ext_getElem
  · rw [List.length_map, List.length_range, length_image]
  · intro i hi hi'
    rw [List.getElem_map, List.getElem_range, programmed, Nat.add_sub_cancel_left,
      List.getD_eq_getElem _ _ hi']

def withReader : Outside CameraCalibration where
  createCapture := .ok true
  configureCapture _ := .ok none
  close := .ok ()
  node _ _ := .ok ()
  publisher _ := .ok ()
  createOtpReader := .ok true
  readOtp c := .ok (read (answering 0x36 programmed) (withFields configured c) []).2
  startThread := .ok ()

end DeviceManager.OtpSensor
