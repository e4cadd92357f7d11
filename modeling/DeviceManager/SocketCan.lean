import DeviceManager.FrameCodec

namespace DeviceManager.SocketCan

open LittleEndian

/-- `ModbusResponseAssemblyStatus`, an error with its message. -/
inductive ModbusResponseAssemblyStatus where
  | incomplete
  | complete
  | error (message : String)
  deriving DecidableEq

structure ModbusResponseAssembler where
  bytes : List UInt8
  expectedSize : Option Nat
  deriving DecidableEq

/-- The length follows from the function code of an exception, or from the byte count. -/
def ModbusResponseAssembler.updateExpectedSize (a : ModbusResponseAssembler) :
    ModbusResponseAssembler :=
  if a.expectedSize.isSome ∨ a.bytes.length < 2 then a
  else if a.bytes.getD 1 0 = 0x83 then { a with expectedSize := some 5 }
  else if 3 ≤ a.bytes.length then
    { a with expectedSize := some ((a.bytes.getD 2 0).toNat + 5) }
  else a

def ModbusResponseAssembler.status (a : ModbusResponseAssembler) : ModbusResponseAssemblyStatus :=
  match a.expectedSize with
  | none => .incomplete
  | some expected =>
    if a.bytes.length > expected then
      .error ("Modbus 多帧响应长度超限，期望 " ++ toString expected ++ " 字节，实际 " ++
        toString a.bytes.length ++ " 字节")
    else if a.bytes.length = expected then .complete
    else .incomplete

def ModbusResponseAssembler.append (a : ModbusResponseAssembler) (fragment : List UInt8) :
    ModbusResponseAssembler × ModbusResponseAssemblyStatus :=
  if fragment.isEmpty then (a, .error "收到空 CAN 响应分片")
  else
    let a := { a with bytes := a.bytes ++ fragment }.updateExpectedSize
    (a, a.status)

def timedOut : String := "等待 BMS 响应超时"

def ModbusResponseAssembler.timeoutError (a : ModbusResponseAssembler) : String :=
  if a.bytes.isEmpty then timedOut
  else
    timedOut ++ "，已收到 " ++ toString a.bytes.length ++ " 字节" ++
      match a.expectedSize with
      | some expected => "，期望 " ++ toString expected ++ " 字节"
      | none => ""

/-- What the socket does in one exchange: whether it is connected, how the write of a CAN
frame ends, the fragments that `receive_frame` delivers, and how it fails behind them. -/
structure Bus where
  connected : Bool
  write : List UInt8 → Except String Unit
  fragments : List (List UInt8)
  failure : String

/-- The loop of `exchange_frame`. -/
def receive (failure : String) (a : ModbusResponseAssembler) :
    List (List UInt8) → Except String (List UInt8)
  | [] => .error (if failure = timedOut then a.timeoutError else failure)
  | fragment :: fragments =>
    match a.append fragment with
    | (_, .error message) => .error message
    | (a, .complete) => .ok a.bytes
    | (a, .incomplete) => receive failure a fragments

def sendFrame (bus : Bus) (frameBytes : List UInt8) : Except String Unit :=
  if frameBytes.isEmpty ∨ frameBytes.length > 8 then .error "CAN 经典帧只支持 1~8 字节 payload"
  else bus.write frameBytes

/-- What was received before the request is flushed: it is not among the fragments. -/
def exchangeFrame (bus : Bus) (requestBytes : List UInt8) : Except String (List UInt8) :=
  if !bus.connected then .error "CAN 尚未连接"
  else
    match sendFrame bus requestBytes with
    | .error message => .error message
    | .ok _ => receive bus.failure ⟨[], none⟩ bus.fragments

/-- The same loop over the bits as in the serial frames of the pager. -/
def crc16 (frameBytes : List UInt8) : UInt16 := frameBytes.foldl FrameCodec.crc16Byte 0xFFFF

def validateCrc (frameBytes : List UInt8) : Bool :=
  decide (4 ≤ frameBytes.length) &&
    decide (crc16 (frameBytes.take (frameBytes.length - 2)) =
      word (frameBytes.getD (frameBytes.length - 2) 0) (frameBytes.getD (frameBytes.length - 1) 0))

def appendCrc (frameBytes : List UInt8) : List UInt8 :=
  frameBytes ++ [lowByte (crc16 frameBytes), highByte (crc16 frameBytes)]

def request (deviceAddress : UInt8) (registerAddress registerCount : UInt16) : List UInt8 :=
  appendCrc [deviceAddress, 0x03, highByte registerAddress, lowByte registerAddress,
    highByte registerCount, lowByte registerCount]

def hex (n : Nat) : String := String.ofList (Nat.toDigits 16 n)

/-- The checks of `read_holding_registers` on a response, and the registers in it. -/
def examine (deviceAddress : UInt8) (registerCount : UInt16) (responseBytes : List UInt8) :
    Except String (List UInt8) :=
  let expectedDataBytes := registerCount.toNat * 2
  let expectedFrameSize := expectedDataBytes + 5
  if !validateCrc responseBytes then .error "BMS 响应 CRC 校验失败"
  else if responseBytes.length = 5 ∧ responseBytes.getD 1 0 = 0x83 then
    .error ("BMS 返回异常码 0x" ++ hex (responseBytes.getD 2 0).toNat)
  else if responseBytes.length ≠ expectedFrameSize then
    .error ("读寄存器响应长度异常，期望 " ++ toString expectedFrameSize ++ " 字节，实际 " ++
      toString responseBytes.length ++ " 字节")
  else if responseBytes.getD 0 0 ≠ deviceAddress ∨ responseBytes.getD 1 0 ≠ 0x03 then
    .error "读寄存器响应头不匹配"
  else if (responseBytes.getD 2 0).toNat ≠ expectedDataBytes then
    .error ("读寄存器字节数异常，期望 " ++ toString expectedDataBytes ++ "，实际 " ++
      toString (responseBytes.getD 2 0).toNat)
  else .ok ((responseBytes.drop 3).take expectedDataBytes)

/-- What the caller gets: the result and the two output arguments. -/
structure Reading where
  ok : Bool
  registerBytes : List UInt8
  errorMessage : String
  deriving DecidableEq

def readRegisters (bus : Bus) (deviceAddress : UInt8) (registerAddress registerCount : UInt16) :
    Except String (List UInt8) :=
  if registerCount = 0 then .error "寄存器数量不能为 0"
  else
    match exchangeFrame bus (request deviceAddress registerAddress registerCount) with
    | .error message => .error message
    | .ok responseBytes => examine deviceAddress registerCount responseBytes

/-- `SocketCanTransport::read_holding_registers`. -/
def readHoldingRegisters (bus : Bus) (deviceAddress : UInt8)
    (registerAddress registerCount : UInt16) (registerBytes : List UInt8) : Reading :=
  match readRegisters bus deviceAddress registerAddress registerCount with
  | .ok data => ⟨true, data, ""⟩
  | .error message => ⟨false, registerBytes, message⟩

end DeviceManager.SocketCan
