import DeviceManager.LittleEndian
import DeviceManager.Stuffing
import DeviceManager.Transducer
import Mathlib.Logic.Function.Iterate

namespace DeviceManager.FrameCodec

open Stuffing Transducer LittleEndian

def kFrameSof : UInt8 := 0x7E

def kFrameEsc : UInt8 := 0x7D

def kFrameXor : UInt8 := 0x20

def kMaxPayloadSize : Nat := 64

def kCrc16Init : UInt16 := 0xFFFF

def kCrc16Poly : UInt16 := 0xA001

structure SerialFrame where
  frameType : UInt8
  sequence : UInt8
  payload : List UInt8
  deriving DecidableEq

def crc16Bit (crc : UInt16) : UInt16 :=
  if crc &&& 1 ≠ 0 then (crc >>> 1) ^^^ kCrc16Poly else crc >>> 1

def crc16Byte (crc : UInt16) (value : UInt8) : UInt16 :=
  crc16Bit^[8] (crc ^^^ value.toUInt16)

def crc16 (data : List UInt8) : UInt16 := data.foldl crc16Byte kCrc16Init

def appendEscaped (output : List UInt8) (value : UInt8) : List UInt8 :=
  if value = kFrameSof ∨ value = kFrameEsc then output ++ [kFrameEsc, value ^^^ kFrameXor]
  else output ++ [value]

def frameBody (frame : SerialFrame) : List UInt8 :=
  let body := frame.frameType :: frame.sequence :: UInt8.ofNat frame.payload.length :: frame.payload
  let checksum := crc16 body
  body ++ [(checksum &&& 0xFF).toUInt8, ((checksum >>> 8) &&& 0xFF).toUInt8]

/-- `encode_frame`, with what its `std::invalid_argument` says. -/
def encodeFrame (frame : SerialFrame) : Except String (List UInt8) :=
  if frame.payload.length > kMaxPayloadSize then
    .error ("payload too large: " ++ toString frame.payload.length)
  else .ok ((frameBody frame).foldl appendEscaped [kFrameSof] ++ [kFrameSof])

structure SerialFrameDecoder where
  buffer : List UInt8
  inFrame : Bool
  escape : Bool
  deriving DecidableEq

def SerialFrameDecoder.create : SerialFrameDecoder := ⟨[], false, false⟩

/-- The body of `finish_frame` on the bytes of the buffer. -/
def finishFrame (buffer : List UInt8) : Option SerialFrame :=
  match buffer with
  | frameType :: sequence :: size :: rest =>
    let length := size.toNat
    if buffer.length < 5 then none
    else if buffer.length ≠ 3 + length + 2 ∨ length > kMaxPayloadSize then none
    else
      let receivedCrc := (rest.getD length 0).toUInt16 ||| ((rest.getD (length + 1) 0).toUInt16 <<< 8)
      if crc16 (buffer.take (3 + length)) ≠ receivedCrc then none
      else some ⟨frameType, sequence, rest.take length⟩
  | _ => none

def feedByte (d : SerialFrameDecoder) (value : UInt8) : Option SerialFrame × SerialFrameDecoder :=
  if value = kFrameSof then
    (if d.inFrame && !d.buffer.isEmpty then finishFrame d.buffer else none, ⟨[], true, false⟩)
  else if !d.inFrame then (none, d)
  else if d.escape then (none, ⟨d.buffer ++ [value ^^^ kFrameXor], true, false⟩)
  else if value = kFrameEsc then (none, { d with escape := true })
  else if (d.buffer ++ [value]).length > kMaxPayloadSize + 5 then (none, ⟨[], false, false⟩)
  else (none, { d with buffer := d.buffer ++ [value] })

/-- `SerialFrameDecoder::feed`. -/
def feed : SerialFrameDecoder → List UInt8 → List SerialFrame × SerialFrameDecoder := run feedByte

/-- The two control bytes as a stuffing code. -/
def control : Code UInt8 where
  delimiter := kFrameSof
  escape := kFrameEsc
  flip value := value ^^^ kFrameXor
  escape_ne := by decide
  flip_flip value := by rw [UInt8.xor_assoc, UInt8.xor_self, UInt8.xor_zero]
  flip_delimiter := by decide
  flip_escape := by decide

theorem foldl_appendEscaped (output values : List UInt8) :
    values.foldl appendEscaped output = output ++ values.flatMap (stuff control) := by
  induction values generalizing output with
  | nil => simp
  | cons value values ih =>
    have hone : appendEscaped output value = output ++ stuff control value := by
      unfold appendEscaped stuff
      split_ifs with h h' h'
      · rfl
      · exact (h' h).elim
      · exact (h h').elim
      · rfl
    rw [List.foldl_cons, ih, hone, List.flatMap_cons, List.append_assoc]

theorem encodeFrame_ok {frame : SerialFrame} (h : frame.payload.length ≤ kMaxPayloadSize) :
    encodeFrame frame =
      .ok (kFrameSof :: ((frameBody frame).flatMap (stuff control) ++ [kFrameSof])) := by
  rw [encodeFrame, if_neg (by omega), foldl_appendEscaped]
  rfl

theorem length_frameBody (frame : SerialFrame) :
    (frameBody frame).length = frame.payload.length + 5 := by simp [frameBody]

/-- `finish_frame` on bytes of the right length. -/
theorem finishFrame_sized {frameType sequence size low high : UInt8} {payload : List UInt8}
    (hsize : size.toNat = payload.length) (h : payload.length ≤ kMaxPayloadSize) :
    finishFrame (frameType :: sequence :: size :: (payload ++ [low, high])) =
      if crc16 (frameType :: sequence :: size :: payload) = word low high
      then some ⟨frameType, sequence, payload⟩ else none := by
  have htake : (frameType :: sequence :: size :: (payload ++ [low, high])).take
      (3 + payload.length) = frameType :: sequence :: size :: payload := by
    rw [Nat.add_comm]
    simp
  have hlength : (frameType :: sequence :: size :: (payload ++ [low, high])).length =
      3 + payload.length + 2 := by
    simp
    omega
  have hlow : (payload ++ [low, high]).getD payload.length 0 = low := by simp
  have hhigh : (payload ++ [low, high]).getD (payload.length + 1) 0 = high := by simp
  simp only [finishFrame, hsize]
  rw [if_neg (by omega), if_neg (by omega), htake, hlow, hhigh, List.take_left, ite_not]
  rfl

/-- What was encoded passes every check of `finish_frame`. -/
theorem finishFrame_body {frame : SerialFrame} (h : frame.payload.length ≤ kMaxPayloadSize) :
    finishFrame (frameBody frame) = some frame := by
  have hsize : (UInt8.ofNat frame.payload.length).toNat = frame.payload.length := by
    rw [UInt8.toNat_ofNat']
    apply Nat.mod_eq_of_lt
    unfold kMaxPayloadSize at h
    omega
  exact (finishFrame_sized hsize h).trans (if_pos (word_bytes _).symm)

def inside (buffer : List UInt8) : SerialFrameDecoder := ⟨buffer, true, false⟩

theorem feedByte_sof (d : SerialFrameDecoder) :
    feedByte d kFrameSof =
      (if d.inFrame && !d.buffer.isEmpty then finishFrame d.buffer else none, inside []) :=
  if_pos rfl

theorem feed_stuff (buffer : List UInt8) (value : UInt8)
    (h : buffer.length < kMaxPayloadSize + 5) :
    feed (inside buffer) (stuff control value) = ([], inside (buffer ++ [value])) := by
  by_cases hv : value = kFrameSof ∨ value = kFrameEsc
  · rw [stuff_reserved control hv]
    have hflip : control.flip value ≠ kFrameSof := by
      obtain rfl | rfl := hv
      · exact control.flip_delimiter
      · exact control.flip_escape
    have hback : control.flip value ^^^ kFrameXor = value := control.flip_flip value
    have hesc : feedByte (inside buffer) control.escape = (none, ⟨buffer, true, true⟩) := rfl
    have hval : feedByte ⟨buffer, true, true⟩ (control.flip value) =
        (none, inside (buffer ++ [value])) := by
      simp [feedByte, hflip, hback, inside]
    simp [feed, run_cons, hesc, hval]
  · obtain ⟨hd, he⟩ := not_or.mp hv
    rw [stuff_plain control hd he]
    have hval : feedByte (inside buffer) value = (none, inside (buffer ++ [value])) := by
      have hl : ¬ (buffer ++ [value]).length > kMaxPayloadSize + 5 := by
        rw [List.length_append, List.length_singleton]
        omega
      rw [feedByte, if_neg hd, if_neg (by simp [inside]), if_neg (by simp [inside]), if_neg he,
        inside, if_neg hl]
      rfl
    simp [feed, run_cons, hval]

theorem feed_body (buffer values : List UInt8)
    (h : buffer.length + values.length ≤ kMaxPayloadSize + 5) :
    feed (inside buffer) (values.flatMap (stuff control)) = ([], inside (buffer ++ values)) := by
  induction values generalizing buffer with
  | nil => simp [feed]
  | cons value values ih =>
    rw [List.length_cons] at h
    have hone := feed_stuff buffer value (by omega)
    have hrest := ih (buffer ++ [value]) (by simp; omega)
    rw [List.flatMap_cons, feed, run_silent hone]
    rw [feed] at hrest
    rw [hrest, List.append_assoc]
    rfl

theorem feed_rest {frame : SerialFrame} (h : frame.payload.length ≤ kMaxPayloadSize) :
    feed (inside []) ((frameBody frame).flatMap (stuff control) ++ [kFrameSof]) =
      ([frame], inside []) := by
  have hlength := length_frameBody frame
  have hbody := feed_body [] (frameBody frame) (by simp; omega)
  have hne : (frameBody frame).isEmpty = false := by
    rw [List.isEmpty_eq_false_iff, ← List.length_pos_iff]
    omega
  rw [feed, run_silent hbody, List.nil_append, run_cons, feedByte_sof]
  simp [inside, hne, finishFrame_body h]

def framed (frame : SerialFrame) : List UInt8 :=
  kFrameSof :: ((frameBody frame).flatMap (stuff control) ++ [kFrameSof])

theorem feed_framed {frame : SerialFrame} (h : frame.payload.length ≤ kMaxPayloadSize)
    (d : SerialFrameDecoder) :
    feed d (framed frame) = ((feedByte d kFrameSof).1.toList ++ [frame], inside []) := by
  have hrest := feed_rest h
  rw [feed] at hrest
  rw [framed, feed, run_cons, feedByte_sof, hrest]

/-- Between two frames nothing is pending. -/
theorem feed_frames {frames : List SerialFrame}
    (h : ∀ frame ∈ frames, frame.payload.length ≤ kMaxPayloadSize) :
    feed (inside []) (frames.flatMap framed) = (frames, inside []) := by
  induction frames with
  | nil => rfl
  | cons frame frames ih =>
    have hframe := feed_framed (h frame (List.mem_cons_self ..)) (inside [])
    have hrest := ih fun f hf => h f (List.mem_cons_of_mem _ hf)
    have hnone : (feedByte (inside []) kFrameSof).1 = none := rfl
    rw [feed] at hframe hrest
    rw [List.flatMap_cons, feed, run_append, hframe, hrest, hnone]
    rfl

/-- `encode_frame` of each item. -/
def encodeFrames (frames : List SerialFrame) : Except String (List (List UInt8)) :=
  frames.mapM encodeFrame

theorem encodeFrames_ok {frames : List SerialFrame}
    (h : ∀ frame ∈ frames, frame.payload.length ≤ kMaxPayloadSize) :
    encodeFrames frames = .ok (frames.map framed) := by
  induction frames with
  | nil => rfl
  | cons frame frames ih =>
    have hframe := encodeFrame_ok (h frame (List.mem_cons_self ..))
    have hrest := ih fun f hf => h f (List.mem_cons_of_mem _ hf)
    rw [encodeFrames] at hrest
    rw [encodeFrames, List.mapM_cons, hframe, hrest]
    rfl

/-- Calls of `feed`, one for each chunk. -/
def feedAll : SerialFrameDecoder → List (List UInt8) → List SerialFrame × SerialFrameDecoder :=
  runChunks feedByte

theorem feedAll_framed {frames : List SerialFrame}
    (h : ∀ frame ∈ frames, frame.payload.length ≤ kMaxPayloadSize) (d : SerialFrameDecoder)
    {chunks : List (List UInt8)} (hc : chunks.flatten = (frames.map framed).flatten) :
    ∃ pending : Option SerialFrame, (d = .create → pending = none) ∧
      (feedAll d chunks).1 = pending.toList ++ frames := by
  rw [feedAll, runChunks_eq, hc, ← List.flatMap_def]
  cases frames with
  | nil => exact ⟨none, by simp, rfl⟩
  | cons frame frames =>
    have hframe := feed_framed (h frame (List.mem_cons_self ..)) d
    have hrest := feed_frames fun f hf => h f (List.mem_cons_of_mem _ hf)
    rw [feed] at hframe hrest
    refine ⟨(feedByte d kFrameSof).1, ?_, ?_⟩
    · rintro rfl
      rfl
    · rw [List.flatMap_cons, run_append, hframe, hrest, List.append_assoc]
      rfl

/-- Every list of frames survives the line, however it is cut and whatever the
decoder has read before. -/
theorem frame_round_trip (frames : List SerialFrame)
    (h : ∀ frame ∈ frames, frame.payload.length ≤ kMaxPayloadSize) :
    ∃ encoded, encodeFrames frames = .ok encoded ∧
      (∀ bytes ∈ encoded, ∃ body,
        bytes = kFrameSof :: (body ++ [kFrameSof]) ∧ kFrameSof ∉ body) ∧
      ∀ past chunks : List (List UInt8), chunks.flatten = encoded.flatten →
        ∃ pending : List SerialFrame, pending.length ≤ 1 ∧ (past.flatten = [] → pending = []) ∧
          (feedAll (feedAll .create past).2 chunks).1 = pending ++ frames := by
  refine ⟨frames.map framed, encodeFrames_ok h, ?_, ?_⟩
  · intro bytes hb
    obtain ⟨frame, -, rfl⟩ := List.mem_map.mp hb
    exact ⟨_, rfl, delimiter_not_mem control _⟩
  · intro past chunks hc
    obtain ⟨pending, hfresh, hfed⟩ := feedAll_framed h (feedAll .create past).2 hc
    refine ⟨pending.toList, ?_, ?_, hfed⟩
    · cases pending <;> simp
    · intro hp
      rw [hfresh (by rw [feedAll, runChunks_eq, hp]; rfl)]
      rfl

/-- Two frames with control bytes in them, one byte at a time, behind a frame cut
off before its end. -/
theorem frame_round_trip_pending :
    (∀ frame ∈ [SerialFrame.mk 1 7 [0x7E, 0x7D], ⟨1, 8, []⟩],
      frame.payload.length ≤ kMaxPayloadSize) ∧
    ∃ encoded, encodeFrames [⟨1, 7, [0x7E, 0x7D]⟩, ⟨1, 8, []⟩] = .ok encoded ∧
      ∃ pending : List SerialFrame, pending.length ≤ 1 ∧
        (feedAll (feedAll .create [(framed ⟨1, 6, [5]⟩).dropLast]).2
          (encoded.flatten.map fun byte => [byte])).1 =
            pending ++ [⟨1, 7, [0x7E, 0x7D]⟩, ⟨1, 8, []⟩] := by
  have hsize : ∀ frame ∈ [SerialFrame.mk 1 7 [0x7E, 0x7D], ⟨1, 8, []⟩],
      frame.payload.length ≤ kMaxPayloadSize := by decide
  obtain ⟨encoded, he, -, hfed⟩ := frame_round_trip _ hsize
  have hcut : (encoded.flatten.map fun byte => [byte]).flatten = encoded.flatten := by
    rw [← List.flatMap_def, List.flatMap_singleton']
  obtain ⟨pending, hl, -, hp⟩ := hfed [(framed ⟨1, 6, [5]⟩).dropLast] _ hcut
  exact ⟨hsize, encoded, he, pending, hl, hp⟩

end DeviceManager.FrameCodec
