import DeviceManager.ByteImage
import DeviceManager.OrdCommands

namespace DeviceManager.OrdSettings

open BigEndian ByteImage LittleEndian Lockstep Mailbox OrdCommands OrdFrames OrdSession

/-- `error_t`, as far as a command returns it. -/
inductive ErrorT where
  | noError
  | operationFailure
  | timedOut
  deriving DecidableEq

def kSetLidarIp : UInt16 := 0x0101
def kSetLidarPort : UInt16 := 0x0102
def kSetScanSpeed : UInt16 := 0x0105
def kSetFilterLevel : UInt16 := 0x0106
def kSetTimestamp : UInt16 := 0x0107
def kSetTrackConnect : UInt16 := 0x0108
def kSetMeasureOnoff : UInt16 := 0x0109
def kSetStreamOnoff : UInt16 := 0x010A
def kSetParameterSave : UInt16 := 0x010D
def kSetDeviceReboot : UInt16 := 0x010E
def kSetScanDirection : UInt16 := 0x0115
def kGetLidarIp : UInt16 := 0x0201
def kGetLidarPort : UInt16 := 0x0202
def kGetScanSpeed : UInt16 := 0x0205
def kGetFilterLevel : UInt16 := 0x0206
def kGetTimestamp : UInt16 := 0x0207
def kGetMotorSpeed : UInt16 := 0x0208
def kGetTemperature : UInt16 := 0x0209
def kGetHighVoltage : UInt16 := 0x020A
def kGetSyncStatus : UInt16 := 0x020C
def kGetHardwareVersion : UInt16 := 0x020D
def kGetFirmwareVersion : UInt16 := 0x020E
def kGetScanDirection : UInt16 := 0x0212

/-- How much of a response to a query is handed on, in the cases of the `switch`. -/
def responseSize (command : UInt16) : Option Nat :=
  if command ∈ [kGetLidarIp, kGetLidarPort, kGetFilterLevel, kGetTimestamp, kGetSyncStatus,
      kGetScanSpeed, kGetMotorSpeed, kGetTemperature, kGetHighVoltage, kGetScanDirection] then some 4
  else if command ∈ [kGetHardwareVersion, kGetFirmwareVersion] then some 16
  else none

def stored (v : UInt32) : List UInt8 := (be32 v).reverse

/-- `DealProtocolData` from the message that it has waited for; nothing if it reads behind the end of
the message. -/
def examine (message : List UInt8) : Option (ErrorT × List UInt8) :=
  let operateResult := read32 message kHeadSize
  let queryResponeResult := read32 message (kHeadSize + 4)
  if message.length < kHeadSize + 4 then none
  else if message.getD 6 0 = 0x01 then
    if operateResult = 0 then some (.noError, [])
    else some (.operationFailure, stored operateResult)
  else if message.getD 6 0 = 0x02 then
    if message.length < kHeadSize + 8 then none
    else if operateResult = 0 then
      match responseSize (respcomm message) with
      | some size =>
        if message.length < kHeadSize + 4 + size then none
        else some (.noError, slice message (kHeadSize + 4) (kHeadSize + 4 + size))
      | none => some (.noError, stored queryResponeResult)
    else if operateResult = 1 then some (.operationFailure, stored queryResponeResult)
    else some (.noError, [])
  else some (.noError, [])

def dealProtocolData : Option (List UInt8) → Option (ErrorT × List UInt8)
  | none => some (.timedOut, [])
  | some message => examine message

/-- A call of a function that asks the device; `enabelDataStream` is the name in the source. -/
inductive Call where
  | setLidarIPAddress (address : UInt32)
  | setLidarNetPort (port : UInt16)
  | setTailFilterLevel (level : UInt32)
  | setTimestamp (timestamp : UInt32)
  | setScanSpeed (speed : UInt32)
  | trackConnect
  | enableMeasure
  | disableMeasure
  | enabelDataStream
  | disableDataStream
  | setScanDirection (direction : UInt32)
  | applyConfigs
  | deviceReboot
  | getLidarIPAddress
  | getLidarNetPort
  | getScanSpeed
  | getTailFilterLevel
  | getTimestamp
  | getMotorSpeed
  | getInternalTemperature
  | getSyncStatus
  | getFirmwareVersion
  | getHardwareVersion
  | getScanDirection

def Call.request : Call → UInt16 × List UInt8
  | .setLidarIPAddress address => (kSetLidarIp, be32 address)
  | .setLidarNetPort port => (kSetLidarPort, be16 port ++ [0, 0])
  | .setTailFilterLevel level => (kSetFilterLevel, be32 level)
  | .setTimestamp timestamp => (kSetTimestamp, be32 timestamp)
  | .setScanSpeed speed => (kSetScanSpeed, be32 speed)
  | .trackConnect => (kSetTrackConnect, be32 0x12345678)
  | .enableMeasure => (kSetMeasureOnoff, be32 1)
  | .disableMeasure => (kSetMeasureOnoff, be32 0)
  | .enabelDataStream => (kSetStreamOnoff, be32 1)
  | .disableDataStream => (kSetStreamOnoff, be32 0)
  | .setScanDirection direction => (kSetScanDirection, be32 direction)
  | .applyConfigs => (kSetParameterSave, be32 0)
  | .deviceReboot => (kSetDeviceReboot, be32 0)
  | .getLidarIPAddress => (kGetLidarIp, [])
  | .getLidarNetPort => (kGetLidarPort, [])
  | .getScanSpeed => (kGetScanSpeed, [])
  | .getTailFilterLevel => (kGetFilterLevel, [])
  | .getTimestamp => (kGetTimestamp, [])
  | .getMotorSpeed => (kGetMotorSpeed, [])
  | .getInternalTemperature => (kGetTemperature, [])
  | .getSyncStatus => (kGetSyncStatus, [])
  | .getFirmwareVersion => (kGetFirmwareVersion, [])
  | .getHardwareVersion => (kGetHardwareVersion, [])
  | .getScanDirection => (kGetScanDirection, [])

def Call.command (call : Call) : UInt16 := call.request.1

/-- What a getter hands out; a `float` is its bits. -/
inductive Value where
  | number (v : UInt32)
  | text (bytes : List UInt8)

/-- What a function makes of the response to a command that has succeeded; nothing if it reads behind
the end of the response. -/
def Call.read : Call → List UInt8 → Option (Option Value)
  | .getLidarIPAddress, response | .getScanSpeed, response | .getTailFilterLevel, response
  | .getTimestamp, response | .getMotorSpeed, response | .getSyncStatus, response
  | .getScanDirection, response =>
    if response.length < 4 then none else some (some (.number (read32 response 0)))
  | .getLidarNetPort, response =>
    if response.length < 2 then none else some (some (.number (read16 response 0).toUInt32))
  | .getInternalTemperature, response =>
    if response.length < 4 then none
    else some (some (.number (read32 (response.take 4).reverse 0)))
  | .getFirmwareVersion, response | .getHardwareVersion, response =>
    if response.length < 16 then none else some (some (.text (response.take 16)))
  | _, _ => some none

/-- The two settings that the driver keeps for the filter. -/
structure OrdDriver where
  filterLevel : UInt32
  motorSpeed : UInt32
  deriving DecidableEq

def OrdDriver.create : OrdDriver := ⟨0, 0⟩

def OrdDriver.remember (d : OrdDriver) : Call → Option Value → OrdDriver
  | .setTailFilterLevel level, _ | .getTailFilterLevel, some (.number level) =>
    { d with filterLevel := level }
  | .setScanSpeed speed, _ | .getScanSpeed, some (.number speed) => { d with motorSpeed := speed }
  | _, _ => d

structure Result where
  error : ErrorT
  value : Option Value

def OrdDriver.finish (d : OrdDriver) (call : Call) (answer : Option (List UInt8)) :
    Option (Result × OrdDriver) :=
  match dealProtocolData answer with
  | none => none
  | some (.noError, response) =>
    (call.read response).map fun value => (⟨.noError, value⟩, d.remember call value)
  | some (error, _) => some (⟨error, none⟩, d)

def drive (d : OrdDriver) : List (Call × Option (List UInt8)) → Option (List Result × OrdDriver)
  | [] => some ([], d)
  | (call, answer) :: rest =>
    match d.finish call answer with
    | none => none
    | some (result, d) => (drive d rest).map fun (results, d) => (result :: results, d)

/-- What a device makes of a request: nothing if it refuses. -/
abbrev Reply := Option (List UInt8)

def Call.size (call : Call) : Nat := (responseSize call.command).getD 0

/-- A message that carries a reply to a command. -/
def Carries (command : UInt16) (reply : Reply) (message : List UInt8) : Prop :=
  Responds command message ∧ kHeadSize + 8 ≤ message.length ∧
    match reply with
    | some payload => read32 message kHeadSize = 0 ∧
        kHeadSize + 4 + (responseSize command).getD 0 ≤ message.length ∧
        payload = slice message (kHeadSize + 4) (kHeadSize + 4 + (responseSize command).getD 0)
    | none => read32 message kHeadSize = 1

def Call.outcome (call : Call) : Option Reply → Result
  | none => ⟨.timedOut, none⟩
  | some none => ⟨.operationFailure, none⟩
  | some (some payload) => ⟨.noError, (call.read payload).getD none⟩

def OrdDriver.learn (d : OrdDriver) (call : Call) : Option Reply → OrdDriver
  | some (some payload) => d.remember call ((call.read payload).getD none)
  | _ => d

theorem type_of_responds {command : UInt16} {message : List UInt8} (h : Responds command message) :
    message.getD 6 0 = highByte command := by
  obtain ⟨-, -, rfl⟩ := h
  exact (highByte_word _ _).symm

def Call.Sets (call : Call) : Prop :=
  highByte call.command = 1 ∧ ∀ response, call.read response = some none

def Call.Gets (call : Call) : Prop :=
  highByte call.command = 2 ∧ responseSize call.command = some call.size ∧
    ∀ response : List UInt8, response.length = call.size → (call.read response).isSome

theorem Call.sets_or_gets (call : Call) : call.Sets ∨ call.Gets := by
  cases call
  case setLidarIPAddress | setLidarNetPort | setTailFilterLevel | setTimestamp | setScanSpeed
      | trackConnect | enableMeasure | disableMeasure | enabelDataStream | disableDataStream
      | setScanDirection | applyConfigs | deviceReboot =>
    refine Or.inl ⟨?_, fun _ => rfl⟩
    simp only [Call.command, Call.request]
    decide
  case getFirmwareVersion | getHardwareVersion =>
    refine Or.inr ⟨rfl, rfl, fun response hsize => ?_⟩
    have hlength : response.length = 16 := hsize
    simp [Call.read, hlength]
  all_goals
    refine Or.inr ⟨rfl, rfl, fun response hsize => ?_⟩
    have hlength : response.length = 4 := hsize
    simp [Call.read, hlength]

variable {d : OrdDriver} {call : Call} {reply : Reply} {message : List UInt8}

theorem finish_sets (hcall : call.Sets) (h : Carries call.command reply message) :
    d.finish call (some message) = some (call.outcome (some reply), d.learn call (some reply)) := by
  obtain ⟨hresponds, hlength, hreply⟩ := h
  have htype : message.getD 6 0 = 1 := (type_of_responds hresponds).trans hcall.1
  have hlong : ¬message.length < kHeadSize + 4 := by omega
  cases reply with
  | none =>
    have hresult : read32 message kHeadSize = 1 := hreply
    have hexamine : examine message = some (.operationFailure, stored 1) := by
      simp only [examine, if_neg hlong, if_pos htype, hresult]
      rfl
    simp only [OrdDriver.finish, dealProtocolData, hexamine]
    rfl
  | some payload =>
    have hresult : read32 message kHeadSize = 0 := hreply.1
    have hexamine : examine message = some (.noError, []) := by
      simp only [examine, if_neg hlong, if_pos htype, hresult]
      rfl
    simp only [OrdDriver.finish, dealProtocolData, hexamine, hcall.2, OrdDriver.learn, Call.outcome]
    rfl

theorem finish_gets (hcall : call.Gets) (h : Carries call.command reply message) :
    d.finish call (some message) = some (call.outcome (some reply), d.learn call (some reply)) := by
  obtain ⟨hresponds, hlength, hreply⟩ := h
  obtain ⟨hbyte, hsize, hread⟩ := hcall
  have htype : message.getD 6 0 = 2 := (type_of_responds hresponds).trans hbyte
  have hone : ¬message.getD 6 0 = 1 := by
    rw [htype]
    decide
  have hlong : ¬message.length < kHeadSize + 4 := by omega
  have hword : ¬message.length < kHeadSize + 8 := by omega
  cases reply with
  | none =>
    have hresult : read32 message kHeadSize = 1 := hreply
    have hexamine : examine message =
        some (.operationFailure, stored (read32 message (kHeadSize + 4))) := by
      simp only [examine, if_neg hlong, if_neg hone, if_pos htype, if_neg hword, hresult]
      rfl
    simp only [OrdDriver.finish, dealProtocolData, hexamine]
    rfl
  | some payload =>
    obtain ⟨hresult, hfits, hpayload⟩ := hreply
    rw [hsize, Option.getD_some] at hfits hpayload
    have hexamine : examine message = some (.noError, payload) := by
      simp only [examine, if_neg hlong, if_neg hone, if_pos htype, if_neg hword, hresult,
        hresponds.2.2, hsize, if_neg (Nat.not_lt.mpr hfits), ← hpayload]
      rfl
    have hall : payload.length = call.size := by
      rw [hpayload, length_slice hfits, Nat.add_sub_cancel_left]
    obtain ⟨value, hvalue⟩ := Option.isSome_iff_exists.mp (hread payload hall)
    simp only [OrdDriver.finish, dealProtocolData, hexamine, hvalue, OrdDriver.learn, Call.outcome]
    rfl

/-- What a call returns and keeps, when it gets an answer that carries a reply to its command or
none. -/
theorem finish_carries {answer : Option (List UInt8)} {reply : Option Reply}
    (h : Option.Rel (fun message reply => Carries call.command reply message) answer reply) :
    d.finish call answer = some (call.outcome reply, d.learn call reply) := by
  cases h with
  | none => rfl
  | some hcarries =>
    rcases call.sets_or_gets with hsets | hgets
    · exact finish_sets hsets hcarries
    · exact finish_gets hgets hcarries

variable {ι : Type} [DecidableEq ι] {σ : Type}

/-- A call with the messages that come for it in time and later. -/
structure Round (ι : Type) where
  thread : ι
  call : Call
  answer : Option (List UInt8)
  late : List (List UInt8)

def Round.turn (r : Round ι) : Turn ι :=
  ⟨r.thread, r.call.command, r.call.request.2, r.answer, r.late⟩

/-- Every message that comes for a call carries what the device has made of it. -/
def Served (serve : σ → Call → σ × Reply) : σ → List (Round ι) → Prop
  | _, [] => True
  | s, r :: rest =>
    (∀ message ∈ r.answer.toList ++ r.late, Carries r.call.command (serve s r.call).2 message) ∧
      Served serve (serve s r.call).1 rest

def exchanges (serve : σ → Call → σ × Reply) :
    σ → List (Round ι) → List (Exchange UInt16 (UInt16 × Reply))
  | _, [] => []
  | s, r :: rest =>
    ⟨r.call.command, r.answer.map fun _ => (r.call.command, (serve s r.call).2),
        r.late.map fun _ => (r.call.command, (serve s r.call).2)⟩ ::
      exchanges serve (serve s r.call).1 rest

/-- The replies that the calls get: the reply to the last call that was answered if that had the same
command, and else their own. -/
def replies (serve : σ → Call → σ × Reply) (s : σ) (rounds : List (Round ι)) :
    List (Option Reply) :=
  (picks Prod.fst none (exchanges serve s rounds)).map (Option.map Prod.snd)

def OrdDriver.learned (d : OrdDriver) (row : List (Call × Option Reply)) : OrdDriver :=
  row.foldl (fun d entry => d.learn entry.1 entry.2) d

def Stands (message : List UInt8) (letter : UInt16 × Reply) : Prop :=
  Carries letter.1 letter.2 message

omit [DecidableEq ι] in
theorem related_exchanges {serve : σ → Call → σ × Reply} {s : σ} {rounds : List (Round ι)}
    (h : Served serve s rounds) :
    List.Forall₂ (Exchange.Related Stands) (rounds.map fun r => r.turn.exchange)
      (exchanges serve s rounds) := by
  induction rounds generalizing s with
  | nil => exact .nil
  | cons r rest ih =>
    obtain ⟨hhere, hrest⟩ := h
    refine .cons ⟨rfl, ?_, ?_⟩ (ih hrest)
    · change Option.Rel Stands r.answer _
      cases hanswer : r.answer with
      | none => exact .none
      | some message => exact .some (hhere message (by simp [hanswer]))
    · refine List.forall₂_map_right_iff.mpr ?_
      exact List.forall₂_same.mpr fun message hm =>
        hhere message (List.mem_append_right _ hm)

omit [DecidableEq ι] in
theorem answered_of_served {serve : σ → Call → σ × Reply} {s : σ} {rounds : List (Round ι)}
    (h : Served serve s rounds) : ∀ r ∈ rounds, r.turn.Answered := by
  induction rounds generalizing s with
  | nil => simp
  | cons r rest ih =>
    obtain ⟨hhere, hrest⟩ := h
    refine List.forall_mem_cons.mpr ⟨fun message hm => (hhere message hm).1, ih hrest⟩

omit [DecidableEq ι] in
theorem drive_taken {rounds : List (Round ι)} {answers : List (Option (List UInt8))}
    {letters : List (Option (UInt16 × Reply))}
    (hcommand : List.Forall₂ (fun r answer => ∀ message ∈ answer,
      respcomm message = r.call.command) rounds answers)
    (hletters : List.Forall₂ (Option.Rel Stands) answers letters) (d : OrdDriver) :
    drive d ((rounds.map Round.call).zip answers) =
      some (List.zipWith Call.outcome (rounds.map Round.call) (letters.map (Option.map Prod.snd)),
        d.learned ((rounds.map Round.call).zip (letters.map (Option.map Prod.snd)))) := by
  induction hcommand generalizing letters d with
  | nil =>
    cases hletters
    rfl
  | @cons r answer rounds answers hhere _ ih =>
    cases hletters with
    | @cons _ letter _ letters hletter hrest =>
      have hcarries : Option.Rel (fun message reply => Carries r.call.command reply message) answer
          (letter.map Prod.snd) := by
        cases hletter with
        | none => exact .none
        | @some message pair hstands =>
          have hsame : pair.1 = r.call.command := hstands.1.2.2.symm.trans (hhere message rfl)
          refine .some ?_
          rw [← hsame]
          exact hstands
      simp only [List.map_cons, List.zip_cons_cons, drive, finish_carries hcarries, ih hrest]
      rfl

theorem returned_stands {timeout : Int32} (hne : timeout ≠ 0) (initial : UInt16)
    {serve : σ → Call → σ × Reply} {s : σ} {rounds : List (Round ι)} (hserved : Served serve s rounds)
    {actions : List (Action ι)}
    (hactions : actions.filter (fun a => !scanning a) = rounds.flatMap fun r => r.turn.actions) :
    let answers := (play step (.create timeout initial) actions).1.filterMap answerOf
    List.Forall₂ (fun r answer => ∀ message ∈ answer, respcomm message = r.call.command) rounds
        answers ∧
      List.Forall₂ (Option.Rel Stands) answers (picks Prod.fst none (exchanges serve s rounds)) := by
  have hanswered := answered_of_served hserved
  have hreturned := returned_turns hne initial (rounds.map Round.turn)
    (by simpa using hanswered) actions (by rw [hactions, List.flatMap_map])
  rw [List.map_map] at hreturned
  have hown : ∀ e ∈ rounds.map (Turn.exchange ∘ Round.turn), ∀ message ∈ e.own,
      respcomm message = e.key := by
    simp only [List.forall_mem_map, Function.comp_apply]
    intro r hr message hm
    exact (hanswered r hr message (List.mem_append_left _ (Option.mem_toList.mpr hm))).2.2
  simp only [hreturned]
  exact ⟨List.forall₂_map_left_iff.mp (key_picks hown),
    picks_related (fun message letter hstands => hstands.1.2.2) (related_exchanges hserved) .none⟩

def answer (command : UInt16) (reply : Reply) : List UInt8 :=
  sealed (be16 (UInt16.ofNat (16 + (reply.getD []).length)) ++ [0, 0, 0, 0] ++ be16 command ++
    be32 (if reply.isSome then 0 else 1) ++ reply.getD [])

theorem length_answer (command : UInt16) (reply : Reply) :
    (answer command reply).length = 16 + (reply.getD []).length := by
  simp [answer, length_sealed]
  omega

theorem carries_answer {command : UInt16} {reply : Reply}
    (hsize : ∀ payload ∈ reply, payload.length = (responseSize command).getD 0) :
    Carries command reply (answer command reply) := by
  have hlength := length_answer command reply
  have hresponds : Responds command (answer command reply) :=
    ⟨rfl, by rw [hlength, kHeadSize]; omega, word_bytes command⟩
  refine ⟨hresponds, by rw [hlength, kHeadSize]; omega, ?_⟩
  cases reply with
  | none => exact read32_be32 1 []
  | some payload =>
    have hall := hsize payload rfl
    rw [Option.getD_some] at hlength
    refine ⟨read32_be32 0 [], by rw [hlength, hall, kHeadSize]; omega, ?_⟩
    rw [← hall]
    obtain ⟨head, hhead, crc, hanswer⟩ : ∃ head : List UInt8, head.length = kHeadSize + 4 ∧
        ∃ crc, answer command (some payload) = head ++ payload ++ crc := ⟨_, rfl, _, rfl⟩
    rw [hanswer, slice_append_left (by rw [List.length_append, hhead]),
      slice_append_right (Nat.le_of_eq hhead), hhead, Nat.sub_self, Nat.add_sub_cancel_left,
      slice_zero, List.take_length]

structure Lidar where
  filterLevel : UInt32
  scanSpeed : UInt32

def Lidar.serve (s : Lidar) : Call → Lidar × Reply
  | .setTailFilterLevel level => ({ s with filterLevel := level }, some [])
  | .setScanSpeed speed =>
    if speed % 5 = 0 then ({ s with scanSpeed := speed }, some []) else (s, none)
  | .getTailFilterLevel => (s, some (be32 s.filterLevel))
  | .getScanSpeed => (s, some (be32 s.scanSpeed))
  | _ => (s, none)

def Lidar.rounds : Lidar → List Call → List (Round Unit)
  | _, [] => []
  | s, call :: calls =>
    ⟨(), call, some (answer call.command (s.serve call).2), []⟩ :: (s.serve call).1.rounds calls

theorem length_reply (s : Lidar) (call : Call) :
    ∀ payload ∈ (s.serve call).2, payload.length = (responseSize call.command).getD 0 := by
  intro payload hpayload
  unfold Lidar.serve at hpayload
  split at hpayload
  · cases hpayload
    rfl
  · split_ifs at hpayload
    · cases hpayload
      rfl
    · cases hpayload
  · cases hpayload
    rfl
  · cases hpayload
    rfl
  · cases hpayload

theorem served_rounds (s : Lidar) (calls : List Call) : Served Lidar.serve s (s.rounds calls) := by
  induction calls generalizing s with
  | nil => trivial
  | cons call calls ih =>
    refine ⟨fun message hm => ?_, ih _⟩
    obtain rfl : message = answer call.command (s.serve call).2 := by simpa using hm
    exact carries_answer (length_reply s call)

def busy (rounds : List (Round Unit)) : List (Action Unit) :=
  .receive [0, 0, 1] :: .take :: rounds.flatMap fun r => r.turn.actions

omit [DecidableEq ι] in
theorem filter_actions {turn : Turn ι} (h : turn.Answered) :
    turn.actions.filter (fun a => !scanning a) = turn.actions := by
  refine List.filter_eq_self.mpr fun a ha => ?_
  simp only [Turn.actions, List.mem_append, List.mem_cons, List.mem_map, List.not_mem_nil,
    or_false] at ha
  obtain ((((rfl | rfl) | ⟨message, hm, rfl⟩) | (rfl | rfl)) | ⟨message, hm, rfl⟩) := ha
  · rfl
  · rfl
  · rw [scanning, (h message (List.mem_append_left _ hm)).1]
    rfl
  · rfl
  · rfl
  · rw [scanning, (h message (List.mem_append_right _ hm)).1]
    rfl

theorem busy_filter (s : Lidar) (calls : List Call) :
    (busy (s.rounds calls)).filter (fun a => !scanning a) =
      (s.rounds calls).flatMap fun r => r.turn.actions := by
  have hanswered := answered_of_served (served_rounds s calls)
  change List.filter (fun a => !scanning a) ((s.rounds calls).flatMap fun r => r.turn.actions) = _
  rw [List.filter_flatMap]
  exact List.flatMap_congr fun r hr => filter_actions (hanswered r hr)

inductive Cell where
  | filterLevel
  | scanSpeed

def Cell.getter : Cell → Call
  | .filterLevel => .getTailFilterLevel
  | .scanSpeed => .getScanSpeed

def Cell.setter : Cell → UInt32 → Call
  | .filterLevel => .setTailFilterLevel
  | .scanSpeed => .setScanSpeed

def OrdDriver.cached (d : OrdDriver) : Cell → UInt32
  | .filterLevel => d.filterLevel
  | .scanSpeed => d.motorSpeed

def Cell.Concerns (cell : Cell) (call : Call) : Prop := call = cell.getter ∨ ∃ v, call = cell.setter v

/-- A device with settings: it says what they are, takes them when it does not refuse, and changes
them on no other call. -/
structure Settings (serve : σ → Call → σ × Reply) (setting : σ → Cell → UInt32) : Prop where
  said : ∀ s cell payload, (serve s cell.getter).2 = some payload → payload = be32 (setting s cell)
  taken : ∀ s cell v, (serve s (cell.setter v)).2 ≠ none →
    setting (serve s (cell.setter v)).1 cell = v
  kept : ∀ s cell call, (∀ v, call = cell.setter v → (serve s call).2 = none) →
    setting (serve s call).1 cell = setting s cell

def after (serve : σ → Call → σ × Reply) (s : σ) (rounds : List (Round ι)) : σ :=
  rounds.foldl (fun s r => (serve s r.call).1) s

theorem Cell.setter_ne_getter (cell : Cell) (v : UInt32) : cell.getter ≠ cell.setter v := by
  cases cell with
  | filterLevel => exact fun h => by cases h
  | scanSpeed => exact fun h => by cases h

theorem learn_other {cell : Cell} (hcall : ¬cell.Concerns call) (reply : Option Reply) :
    (d.learn call reply).cached cell = d.cached cell := by
  have hgetter : call ≠ cell.getter := fun h => hcall (Or.inl h)
  have hsetter : ∀ v, call ≠ cell.setter v := fun v h => hcall (Or.inr ⟨v, h⟩)
  rcases reply with _ | _ | payload
  · rfl
  · rfl
  · simp only [OrdDriver.learn]
    generalize (call.read payload).getD none = value
    unfold OrdDriver.remember
    cases cell with
    | filterLevel =>
      split
      · exact absurd rfl (hsetter _)
      · exact absurd rfl hgetter
      · rfl
      · rfl
      · rfl
    | scanSpeed =>
      split
      · rfl
      · rfl
      · exact absurd rfl (hsetter _)
      · exact absurd rfl hgetter
      · rfl

theorem learn_getter (cell : Cell) (v : UInt32) :
    (d.learn cell.getter (some (some (be32 v)))).cached cell = v := by
  have hread := read32_be32 v []
  rw [List.append_nil] at hread
  cases cell with
  | filterLevel => simp [OrdDriver.learn, Cell.getter, Call.read, OrdDriver.remember,
      OrdDriver.cached, hread]
  | scanSpeed => simp [OrdDriver.learn, Cell.getter, Call.read, OrdDriver.remember,
      OrdDriver.cached, hread]

theorem learn_setter (cell : Cell) (v : UInt32) (payload : List UInt8) :
    (d.learn (cell.setter v) (some (some payload))).cached cell = v := by
  cases cell with
  | filterLevel => rfl
  | scanSpeed => rfl

theorem learn_refused (call : Call) {reply : Option Reply}
    (h : ∀ payload, reply ≠ some (some payload)) :
    d.learn call reply = d := by
  rcases reply with _ | _ | payload
  · rfl
  · rfl
  · exact absurd rfl (h payload)

omit [DecidableEq ι] in
/-- One call: what was known of a setting still is, and what has been said or set is known. -/
theorem learn_step {serve : σ → Call → σ × Reply} {setting : σ → Cell → UInt32}
    (hsettings : Settings serve setting) (cell : Cell) (s : σ) (r : Round ι) (d : OrdDriver)
    (hset : r.answer = none → ∀ v, r.call ≠ cell.setter v)
    (h : d.cached cell = setting s cell ∨ cell.Concerns r.call ∧
      ∃ payload, (r.answer.map fun _ => (serve s r.call).2) = some (some payload)) :
    (d.learn r.call (r.answer.map fun _ => (serve s r.call).2)).cached cell =
      setting (serve s r.call).1 cell := by
  by_cases hconcerns : cell.Concerns r.call
  · rcases hconcerns with hcall | ⟨v, hcall⟩
    · have hkept : setting (serve s r.call).1 cell = setting s cell :=
        hsettings.kept s cell r.call fun v hv =>
          absurd (hcall.symm.trans hv) (cell.setter_ne_getter v)
      rw [hkept]
      by_cases hsaid : ∃ payload, (r.answer.map fun _ => (serve s r.call).2) = some (some payload)
      · obtain ⟨payload, hpayload⟩ := hsaid
        obtain ⟨message, -, hreply⟩ := Option.map_eq_some_iff.mp hpayload
        rw [hcall] at hreply
        rw [hpayload, hcall, hsettings.said s cell payload hreply, learn_getter]
      · rw [learn_refused _ fun payload hp => hsaid ⟨payload, hp⟩]
        exact h.resolve_right fun hright => hsaid hright.2
    · obtain ⟨message, hmessage⟩ := Option.ne_none_iff_exists'.mp fun hnone => hset hnone v hcall
      rw [hmessage, Option.map_some] at h ⊢
      cases hreply : (serve s r.call).2 with
      | none =>
        rw [hreply] at h
        rw [hsettings.kept s cell r.call fun _ _ => hreply, learn_refused _ fun payload hp => by
          cases hp]
        refine h.resolve_right ?_
        rintro ⟨-, payload, hp⟩
        cases hp
      | some payload =>
        rw [hcall] at hreply ⊢
        rw [learn_setter, hsettings.taken s cell v (by simp [hreply])]
  · have hknown := h.resolve_right fun hright => hconcerns hright.1
    rw [learn_other hconcerns, hknown]
    exact (hsettings.kept s cell r.call fun v hv => absurd (Or.inr ⟨v, hv⟩) hconcerns).symm

def owns (serve : σ → Call → σ × Reply) (s : σ) (rounds : List (Round ι)) : List (Option Reply) :=
  (exchanges serve s rounds).map fun e => e.own.map Prod.snd

def Cell.Informed (cell : Cell) (row : List (Call × Option Reply)) : Prop :=
  ∃ call payload, cell.Concerns call ∧ (call, some (some payload)) ∈ row

omit [DecidableEq ι] in
theorem learned_run {serve : σ → Call → σ × Reply} {setting : σ → Cell → UInt32}
    (hsettings : Settings serve setting) (cell : Cell) {rounds : List (Round ι)}
    (hset : ∀ r ∈ rounds, r.answer = none → ∀ v, r.call ≠ cell.setter v) (s : σ) (d : OrdDriver)
    (h : d.cached cell = setting s cell ∨
      cell.Informed ((rounds.map Round.call).zip (owns serve s rounds))) :
    (d.learned ((rounds.map Round.call).zip (owns serve s rounds))).cached cell =
      setting (after serve s rounds) cell := by
  induction rounds generalizing s d with
  | nil =>
    refine h.resolve_right ?_
    rintro ⟨call, payload, -, hmem⟩
    cases hmem
  | cons r rest ih =>
    obtain ⟨hhere, hrest⟩ := List.forall_mem_cons.mp hset
    have hreply : ((r.answer.map fun _ => (r.call.command, (serve s r.call).2)).map Prod.snd) =
        r.answer.map fun _ => (serve s r.call).2 := by
      rw [Option.map_map]
      rfl
    have hrow : ((r :: rest).map Round.call).zip (owns serve s (r :: rest)) =
        (r.call, r.answer.map fun _ => (serve s r.call).2) ::
          (rest.map Round.call).zip (owns serve (serve s r.call).1 rest) := by
      rw [owns, exchanges, List.map_cons, List.map_cons, hreply]
      rfl
    rw [hrow] at h ⊢
    have hstep := learn_step hsettings cell s r d hhere
    refine ih hrest (serve s r.call).1 _ ?_
    rcases h with hknown | ⟨call, payload, hconcerns, hmem⟩
    · exact Or.inl (hstep (Or.inl hknown))
    · rcases List.mem_cons.mp hmem with heq | hmem
      · obtain ⟨rfl, hsaid⟩ := Prod.mk.inj heq
        exact Or.inl (hstep (Or.inr ⟨hconcerns, payload, hsaid.symm⟩))
      · exact Or.inr ⟨call, payload, hconcerns, hmem⟩

theorem zip_zipWith {α β γ : Type*} (f : α → β → γ) (as : List α) (bs : List β) :
    as.zip (List.zipWith f as bs) = (as.zip bs).map fun p => (p.1, f p.1 p.2) := by
  induction as generalizing bs with
  | nil => rfl
  | cons a as ih =>
    cases bs with
    | nil => rfl
    | cons b bs => rw [List.zipWith_cons_cons, List.zip_cons_cons, ih, List.zip_cons_cons, List.map_cons]

def Lidar.setting (s : Lidar) : Cell → UInt32
  | .filterLevel => s.filterLevel
  | .scanSpeed => s.scanSpeed

theorem settings_lidar : Settings Lidar.serve Lidar.setting where
  said s cell payload h := by
    cases cell with
    | filterLevel => exact (Option.some.inj h).symm
    | scanSpeed => exact (Option.some.inj h).symm
  taken s cell v h := by
    cases cell with
    | filterLevel => rfl
    | scanSpeed =>
      simp only [Cell.setter, Lidar.serve] at h ⊢
      split_ifs at h ⊢
      · rfl
      · exact absurd rfl h
  kept s cell call h := by
    cases cell with
    | filterLevel =>
      cases call
      case setTailFilterLevel level => cases h level rfl
      case setScanSpeed speed =>
        simp only [Lidar.serve]
        split_ifs
        · rfl
        · rfl
      all_goals rfl
    | scanSpeed =>
      cases call
      case setScanSpeed speed =>
        have hrefused := h speed rfl
        simp only [Lidar.serve] at hrefused ⊢
        split_ifs at hrefused ⊢
        rfl
      all_goals rfl

end DeviceManager.OrdSettings
