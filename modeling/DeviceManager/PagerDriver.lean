import DeviceManager.FrameCodec

namespace DeviceManager.PagerDriver

open FrameCodec

def kFrameTypeData : UInt8 := 0x01

/-- Where the read thread stands: a constructor for each place between two of its accesses to
the transport, the mutex or the handler. -/
inductive Reader where
  | ended
  | loop
  | reopening
  | opened
  | refused (message : String)
  | restored
  | reading
  | fault (message : String)
  | closed (message : String)
  | lost (message : String)
  deriving DecidableEq

/-- What the handlers get, and the losses of the link where they are detected. -/
inductive Event where
  | frame (payload : List UInt8)
  | connection (connected : Bool) (message : String)
  | readFailed (message : String)
  | writeFailed (message : String)
  deriving DecidableEq

/-- The driver in a session. `sender` is the frame that a `send` is about to write: it holds the
mutex. -/
structure Pager100LoraDriver where
  isOpen : Bool
  running : Bool
  connected : Bool
  lastError : String
  frameCount : UInt64
  txSequence : UInt8
  decoder : SerialFrameDecoder
  reader : Reader
  sender : Option (List UInt8)
  events : List Event

/-- The calls, the answers of the transport (an error message is a failure), and the steps of
the read thread that have no answer. -/
inductive Action where
  | start
  | stop
  | proceed
  | reopen (result : Option String)
  | read (result : Except String (List UInt8))
  | send (payload : List UInt8)
  | write (result : Option String)

/-- Behind a successful `configure`, which keeps the decoder. -/
def configured (decoder : SerialFrameDecoder) : Pager100LoraDriver where
  isOpen := true
  running := false
  connected := true
  lastError := ""
  frameCount := 0
  txSequence := 0
  decoder := decoder
  reader := .ended
  sender := none
  events := []

def start (d : Pager100LoraDriver) : Option Pager100LoraDriver :=
  if d.running then some d
  else if d.reader = .ended then some { d with running := true, reader := .loop }
  else none

/-- The read thread without an answer; behind the mutex where the source takes it. -/
def proceed (d : Pager100LoraDriver) : Option Pager100LoraDriver :=
  match d.reader with
  | .loop =>
    if !d.running then some { d with reader := .ended }
    else if d.isOpen then some { d with reader := .reading }
    else some { d with reader := .reopening }
  | .opened =>
    if d.sender.isSome then none
    else some { d with connected := true, lastError := "", reader := .restored }
  | .refused message =>
    if d.sender.isSome then none else some { d with lastError := message, reader := .loop }
  | .restored =>
    some { d with reader := .reading, events := d.events ++ [.connection true "串口已恢复连接"] }
  | .fault message => some { d with isOpen := false, reader := .closed message }
  | .closed message =>
    if d.sender.isSome then none
    else some { d with
      connected := false
      lastError := message
      reader := if d.connected then .lost message else .loop }
  | .lost message =>
    some { d with reader := .loop, events := d.events ++ [.connection false message] }
  | .ended | .reopening | .reading => none

def reopen (d : Pager100LoraDriver) (result : Option String) : Option Pager100LoraDriver :=
  if d.reader = .reopening then
    match result with
    | none => some { d with isOpen := true, reader := .opened }
    | some message => some { d with reader := .refused message }
  else none

/-- `handle_frame` for the frames with data. -/
def handleFrames (d : Pager100LoraDriver) (frames : List SerialFrame) : Pager100LoraDriver :=
  let data := frames.filter fun frame => frame.frameType = kFrameTypeData
  { d with
    frameCount := d.frameCount + UInt64.ofNat data.length
    events := d.events ++ data.map fun frame => .frame frame.payload }

/-- A read that was under way when the port was closed may still bring bytes. -/
def read (d : Pager100LoraDriver) (result : Except String (List UInt8)) :
    Option Pager100LoraDriver :=
  if d.reader = .reading then
    if !d.running then some { d with reader := .ended }
    else
      match result with
      | .ok chunk =>
        let fed := feed d.decoder chunk
        some (handleFrames { d with decoder := fed.2, reader := .loop } fed.1)
      | .error message =>
        some { d with
          reader := .fault ("读取串口失败: " ++ message)
          events := d.events ++ [.readFailed message] }
  else none

/-- `send` up to its write: the frame, or the message. -/
def prepare (d : Pager100LoraDriver) (payload : List UInt8) : Except String (List UInt8) :=
  if !d.isOpen then .error "串口尚未打开"
  else encodeFrame ⟨kFrameTypeData, d.txSequence, payload⟩

def send (d : Pager100LoraDriver) (payload : List UInt8) : Option Pager100LoraDriver :=
  if d.sender.isSome then none
  else
    match prepare d payload with
    | .ok frame => some { d with sender := some frame }
    | .error _ => some d

/-- A write that fails counts as a loss of the link; the read thread opens the port again. -/
def write (d : Pager100LoraDriver) (result : Option String) : Option Pager100LoraDriver :=
  if d.sender.isSome then
    match result with
    | none => some { d with txSequence := d.txSequence + 1, sender := none }
    | some message =>
      some { d with
        isOpen := false
        connected := false
        lastError := message
        sender := none
        events := d.events ++ [.writeFailed message] }
  else none

def step (d : Pager100LoraDriver) : Action → Option Pager100LoraDriver
  | .start => start d
  | .stop => some { d with running := false }
  | .proceed => proceed d
  | .reopen result => reopen d result
  | .read result => read d result
  | .send payload => send d payload
  | .write result => write d result

end DeviceManager.PagerDriver
