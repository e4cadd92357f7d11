import DeviceManager.DriverConfigs
import DeviceManager.FrameConversion
import DeviceManager.Triples
import Mathlib.Data.List.Perm.Basic

namespace DeviceManager.V4l2Capture

open Fallible Triples FrameConversion

inductive Fourcc where
  | nv12
  | nv21
  | yuyv
  | uyvy
  | rgb24
  | bgr24
  | grey
deriving DecidableEq

/-- `none` is the 0 of the source. -/
def fourccFromFormat (format : String) : Option Fourcc :=
  if format = "NV12" then some .nv12
  else if format = "NV21" then some .nv21
  else if format = "YUYV" ∨ format = "YUY2" then some .yuyv
  else if format = "UYVY" then some .uyvy
  else if format = "RGB8" then some .rgb24
  else if format = "BGR8" then some .bgr24
  else if format = "MONO8" ∨ format = "GRAY8" ∨ format = "GREY" then some .grey
  else none

/-- `v4l2_buf_type`; `unsupported` is the 0 of the source. -/
inductive BufferType where
  | unsupported
  | videoCapture
  | videoCaptureMplane
deriving DecidableEq

def capVideoCapture : UInt32 := 0x00000001

def capVideoCaptureMplane : UInt32 := 0x00001000

def capDeviceCaps : UInt32 := 0x80000000

def selectCaptureBufferType (capabilities deviceCaps : UInt32) : BufferType :=
  let effectiveCaps := if capabilities &&& capDeviceCaps ≠ 0 then deviceCaps else capabilities
  if effectiveCaps &&& capVideoCaptureMplane ≠ 0 then .videoCaptureMplane
  else if effectiveCaps &&& capVideoCapture ≠ 0 then .videoCapture
  else .unsupported

def effectiveBytesused (bytesused length : Nat) : Nat :=
  if bytesused = 0 ∨ length < bytesused then length else bytesused

structure Plane where
  start : Nat
  length : Nat
deriving DecidableEq

/-- The system calls, and the copies out of a mapping. -/
inductive Call where
  | openDevice (path : String)
  | queryCap (fd : Nat)
  | setFormat (fd : Nat) (type : BufferType) (width height : UInt32) (fourcc : Fourcc)
  | setParm (fd : Nat) (type : BufferType) (fps : UInt32)
  | requestBuffers (fd : Nat) (type : BufferType) (count : UInt32)
  | queryBuffer (fd : Nat) (type : BufferType) (index : Nat)
  | map (fd length offset : Nat)
  | enqueue (fd : Nat) (type : BufferType) (index : Nat)
  | streamOn (fd : Nat) (type : BufferType)
  | streamOff (fd : Nat) (type : BufferType)
  | unmap (plane : Plane)
  | closeDevice (fd : Nat)
  | poll (fd : Nat) (timeoutMs : Int)
  | dequeue (fd : Nat) (type : BufferType)
  | copy (plane : Plane) (size : Nat)
deriving DecidableEq

/-- `VIDEO_MAX_PLANES`, the length of the arrays that the calls fill in. -/
def videoMaxPlanes : Nat := 8

/-- What `VIDIOC_QUERYBUF` fills in; a plane is its length and its offset. -/
structure BufferInfo where
  length : Nat
  offset : Nat
  planes : List (Nat × Nat)
  planes_le : planes.length ≤ videoMaxPlanes

/-- What `VIDIOC_DQBUF` fills in; a plane is its `bytesused`. -/
structure Dequeued where
  index : Nat
  bytesused : Nat
  planes : List Nat
  planes_le : planes.length ≤ videoMaxPlanes

/-- The kernel answers a call by all calls so far, the newest first. A mapping is never at the null
address. -/
structure Kernel where
  openDevice : List Call → Except String Nat
  queryCap : List Call → Except String (UInt32 × UInt32)
  requestBuffers : List Call → Except String UInt32
  queryBuffer : List Call → Except String BufferInfo
  map : List Call → Except String Nat
  control : List Call → Except String Unit
  poll : List Call → Except String Bool
  dequeue : List Call → Except String Dequeued
  byte : List Call → Nat → UInt8
  errno : List Call → String
  map_ne_null : ∀ {log start}, map log = .ok start → start ≠ 0

/-- The fields of the class, with the calls that were made. -/
structure V4l2CaptureBackend where
  fd : Option Nat := none
  bufferType : BufferType := .videoCapture
  pixelFormat : String := ""
  width : Int32 := 0
  height : Int32 := 0
  buffers : List (List Plane) := []
  log : List Call := []

/-- An error message, or `front` of an empty vector. -/
inductive Failure where
  | message (text : String)
  | undefined

abbrev Backend : Type → Type := EStateM Failure V4l2CaptureBackend

variable (kernel : Kernel)

def note (call : Call) : Backend Unit := modify fun b => { b with log := call :: b.log }

/-- A call whose error is put behind `name`, as `errno_message` does. -/
def ask {R : Type} (answer : List Call → Except String R) (name : String) (call : Call) :
    Backend R := fun b =>
  match answer (call :: b.log) with
  | .ok r => .ok r { b with log := call :: b.log }
  | .error text => .error (.message (name ++ ": " ++ text)) { b with log := call :: b.log }

def unmapPlane (b : V4l2CaptureBackend) (plane : Plane) : V4l2CaptureBackend :=
  if plane.start ≠ 0 then { b with log := .unmap plane :: b.log } else b

def stopStreaming (b : V4l2CaptureBackend) : V4l2CaptureBackend :=
  match b.fd with
  | some fd => { b with log := .streamOff fd b.bufferType :: b.log }
  | none => b

def unmapAll (b : V4l2CaptureBackend) : V4l2CaptureBackend :=
  { b.buffers.flatten.foldl unmapPlane b with buffers := [] }

def closeDevice (b : V4l2CaptureBackend) : V4l2CaptureBackend :=
  match b.fd with
  | some fd => { b with log := .closeDevice fd :: b.log, fd := none }
  | none => b

/-- `V4l2CaptureBackend::close`. -/
def close (b : V4l2CaptureBackend) : V4l2CaptureBackend := closeDevice (unmapAll (stopStreaming b))

def planesOf (type : BufferType) (info : BufferInfo) : List (Nat × Nat) :=
  if type = .videoCaptureMplane then info.planes else [(info.length, info.offset)]

/-- A turn of the loop of `configure` over the buffers. -/
def mapBuffer (fd : Nat) (type : BufferType) (index : Nat) : Backend Unit := do
  let info ← ask kernel.queryBuffer "VIDIOC_QUERYBUF" (.queryBuffer fd type index)
  forM (planesOf type info) fun (length, offset) => do
    let start ← ask kernel.map "mmap" (.map fd length offset)
    modify fun b => { b with buffers := b.buffers.modify index (· ++ [⟨start, length⟩]) }

variable {Calibration : Type} (config : DriverConfigs.GmslV4l2CameraConfig Calibration)

/-- The part of `configure` with an open device. Each of its errors closes it. -/
def configureDevice (fourcc : Fourcc) (fd : Nat) : Backend Unit := do
  let (capabilities, deviceCaps) ← ask kernel.queryCap "VIDIOC_QUERYCAP" (.queryCap fd)
  let type := selectCaptureBufferType capabilities deviceCaps
  modify fun b => { b with bufferType := type }
  if type = .unsupported then
    throw (.message "V4L2 device does not support capture")
  ask kernel.control "VIDIOC_S_FMT"
    (.setFormat fd type config.width.toUInt32 config.height.toUInt32 fourcc)
  note (.setParm fd type config.fps.toUInt32)
  let count ← ask kernel.requestBuffers "VIDIOC_REQBUFS" (.requestBuffers fd type 4)
  let b ← get
  if count < 2 then
    throw (.message ("VIDIOC_REQBUFS: " ++ kernel.errno b.log))
  modify fun b => { b with buffers := List.replicate count.toNat [] }
  forM (List.range count.toNat) (mapBuffer kernel fd type)
  forM (List.range count.toNat) fun index =>
    ask kernel.control "VIDIOC_QBUF" (.enqueue fd type index)
  ask kernel.control "VIDIOC_STREAMON" (.streamOn fd type)
  modify fun b => { b with
    pixelFormat := config.pixelFormat
    width := config.width
    height := config.height }

/-- `V4l2CaptureBackend::configure`. -/
def configure (b : V4l2CaptureBackend) : V4l2CaptureBackend × Except Failure Unit :=
  let b := close b
  match fourccFromFormat config.pixelFormat with
  | none => (b, .error (.message ("unsupported V4L2 pixel format: " ++ config.pixelFormat)))
  | some fourcc =>
    match exit (ask kernel.openDevice ("open " ++ config.videoDevice)
        (.openDevice config.videoDevice)) b with
    | (b, .error failure) => (b, .error failure)
    | (b, .ok fd) =>
      match exit (configureDevice kernel config fourcc fd) { b with fd := some fd } with
      | (b, .error failure) => (close b, .error failure)
      | (b, .ok _) => (b, .ok ())

def copyPlane (plane : Plane) (bytesused : Nat) : Backend (List UInt8) := do
  let size := effectiveBytesused bytesused plane.length
  note (.copy plane size)
  let b ← get
  return (List.range size).map fun i => kernel.byte b.log (plane.start + i)

/-- The `front` of the planes. -/
def copyFront (planes : List Plane) (bytesused : Nat) : Backend (List UInt8) :=
  match planes with
  | [] => throw .undefined
  | plane :: _ => copyPlane kernel plane bytesused

/-- `V4l2CaptureBackend::read_frame`. -/
def readFrame (timeoutMs : Int) : Backend CapturedFrame := do
  let b ← get
  match b.fd with
  | none => throw (.message "V4L2 device is not open")
  | some fd =>
    let ready ← ask kernel.poll "poll" (.poll fd timeoutMs)
    if !ready then
      throw (.message "capture timeout")
    let buffer ← ask kernel.dequeue "VIDIOC_DQBUF" (.dequeue fd b.bufferType)
    match b.buffers[buffer.index]? with
    | none => throw (.message "V4L2 returned an out-of-range buffer index")
    | some planes =>
      let data ← match b.bufferType with
        | .videoCaptureMplane =>
          (planes.zip buffer.planes).foldlM (fun data (plane, bytesused) => do
            return data ++ (← copyPlane kernel plane bytesused)) []
        | .unsupported | .videoCapture => copyFront kernel planes buffer.bytesused
      ask kernel.control "VIDIOC_QBUF" (.enqueue fd b.bufferType buffer.index)
      return ⟨b.width, b.height, b.pixelFormat, data⟩

/-- A call of the interface; the destructor is a close. -/
inductive Request (Calibration : Type) where
  | configure (config : DriverConfigs.GmslV4l2CameraConfig Calibration)
  | readFrame (timeoutMs : Int)
  | close

inductive Answer where
  | configured (result : Except Failure Unit)
  | frame (result : Except Failure CapturedFrame)
  | closed

def serve (b : V4l2CaptureBackend) : Request Calibration → V4l2CaptureBackend × Answer
  | .configure config =>
    let (b, result) := configure kernel config b
    (b, .configured result)
  | .readFrame timeoutMs =>
    let (b, result) := exit (readFrame kernel timeoutMs) b
    (b, .frame result)
  | .close => (close b, .closed)

def serveAll (b : V4l2CaptureBackend) : List (Request Calibration) → V4l2CaptureBackend × List Answer
  | [] => (b, [])
  | request :: requests =>
    let (b, answer) := serve kernel b request
    let (b, answers) := serveAll b requests
    (b, answer :: answers)

end DeviceManager.V4l2Capture
