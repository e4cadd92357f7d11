import DeviceManager.BigEndian
import DeviceManager.OrdUtils
import Mathlib.Data.List.Basic

namespace DeviceManager.OrdFrames

open LittleEndian BigEndian ShiftRegister OrdUtils

/-- `sizeof(ordFrameHead)`. -/
def kHeadSize : Nat := 8

/-- An `ordFrameHead` in memory with the two fields that a request sets. -/
def frameHead (framelenth ctrlcomm : UInt16) : List UInt8 :=
  be16 framelenth ++ [0, 0] ++ be16 ctrlcomm ++ [0, 0]

def sealed (body : List UInt8) : List UInt8 := body ++ be32 (calcCrc32 body)

/-- The frame that `Impl::GnerateProtocolFrame` builds. -/
def gnerateProtocolFrame (ctrlCommand : UInt16) (content : List UInt8) : List UInt8 :=
  sealed (frameHead (UInt16.ofNat (kHeadSize + content.length + 4)) ctrlCommand ++ content)

def scanMark : List UInt8 := [0x4D, 0x53, 0x01, 0xF4, 0xEB, 0x90]

/-- The condition of `ReceiveHandler` on the buffer. -/
def passes (buffer : List UInt8) (bytesTransferred : Nat) : Bool :=
  let crcResult := if buffer.getD 2 0 = 0 then calcCrc32 (buffer.take (bytesTransferred - 4)) else 0
  decide (crcResult = read32 buffer (bytesTransferred - 4)) ||
    (decide (buffer.take 6 = scanMark) && decide ((read16 buffer 6).toNat = bytesTransferred))

/-- `Network::ReceiveHandler` without an error: the message for the callback if there is one, and
the buffer, whose start the datagram has overwritten. A datagram of less than four bytes makes the
check read in front of the buffer: there is no result then. -/
def receiveHandler (buffer datagram : List UInt8) : Option (Option (List UInt8) × List UInt8) :=
  let buffer := datagram ++ buffer.drop datagram.length
  if datagram.length < 4 then none
  else some (if passes buffer datagram.length then some datagram else none, buffer)

theorem length_sealed (body : List UInt8) : (sealed body).length = body.length + 4 := by
  simp [sealed]

theorem getD_sealed {body : List UInt8} {i : Nat} (h : i < body.length) :
    (sealed body).getD i 0 = body.getD i 0 := List.getD_append _ _ _ _ h

theorem word_serial (b0 b1 b2 b3 : UInt8) :
    crc32Register.word 0 (serial [b0, b1, b2, b3]) = (word32 b0 b1 b2 b3).toBitVec := by
  refine msbFirst_word _ (by rw [length_expand length_msbBits]; rfl) fun i hi => ?_
  rw [getD_expand length_msbBits _ (by simpa using hi), getD_msbBits _ (Nat.mod_lt _ (by decide)),
    getLsbD_word32 _ _ _ _ (by omega), show (32 - 1 - i) % 8 = 7 - i % 8 by omega]
  obtain h | h | h | h : i / 8 = 0 ∨ i / 8 = 1 ∨ i / 8 = 2 ∨ i / 8 = 3 := by omega
  · rw [h, show (32 - 1 - i) / 8 = 3 by omega]
    rfl
  · rw [h, show (32 - 1 - i) / 8 = 2 by omega]
    rfl
  · rw [h, show (32 - 1 - i) / 8 = 1 by omega]
    rfl
  · rw [h, show (32 - 1 - i) / 8 = 0 by omega]
    rfl

theorem run_checked {body : List UInt8} {b0 b1 b2 b3 : UInt8}
    (h : calcCrc32 body = word32 b0 b1 b2 b3) :
    crc32Register.run 0xFFFFFFFF#32 (serial (body ++ [b0, b1, b2, b3])) = 0#32 := by
  rw [serial, List.flatMap_append, crc32Register.run_check 0#32 (by rfl)]
  · rfl
  · change crc32Register.word 0 (serial [b0, b1, b2, b3]) = _
    rw [word_serial, ← h, calcCrc32_serial, BitVec.xor_zero]

theorem run_sealed (body : List UInt8) :
    crc32Register.run 0xFFFFFFFF#32 (serial (sealed body)) = 0#32 :=
  run_checked (read32_be32 (calcCrc32 body) []).symm

theorem passes_sealed {body : List UInt8} (hsize : 3 ≤ body.length) (htype : body.getD 2 0 = 0)
    (stale : List UInt8) : passes (sealed body ++ stale) (sealed body).length = true := by
  have hbyte : (sealed body ++ stale).getD 2 0 = 0 := by
    rw [List.getD_append _ _ _ _ (by rw [length_sealed]; omega), getD_sealed (by omega), htype]
  have hlen : (sealed body).length - 4 = body.length := by
    rw [length_sealed, Nat.add_sub_cancel]
  rw [passes, if_pos hbyte, hlen, sealed, List.append_assoc, List.take_left, read32_append,
    read32_be32]
  simp

theorem not_mark {buffer : List UInt8} (h : buffer.getD 2 0 = 0) : buffer.take 6 ≠ scanMark := by
  intro hmark
  have hbyte : (buffer.take 6).getD 2 0 = buffer.getD 2 0 := by
    rw [List.getD_eq_getElem?_getD, List.getElem?_take_of_lt (by decide),
      List.getD_eq_getElem?_getD]
  rw [hmark, h] at hbyte
  exact absurd hbyte (by decide)

/-- A datagram with the type of a response passes only with its checksum at the end. -/
theorem run_of_passes {datagram : List UInt8} (hsize : 4 ≤ datagram.length)
    (htype : datagram.getD 2 0 = 0) {stale : List UInt8}
    (h : passes (datagram ++ stale) datagram.length = true) :
    crc32Register.run 0xFFFFFFFF#32 (serial datagram) = 0#32 := by
  have hbyte : (datagram ++ stale).getD 2 0 = 0 := by
    rw [List.getD_append _ _ _ _ (by omega), htype]
  obtain ⟨body, b0, b1, b2, b3, rfl⟩ : ∃ body b0 b1 b2 b3, datagram = body ++ [b0, b1, b2, b3] := by
    have hdrop : (datagram.drop (datagram.length - 4)).length = 4 := by
      rw [List.length_drop]
      omega
    obtain ⟨b0, b1, b2, b3, hlast⟩ := List.length_eq_four.mp hdrop
    exact ⟨datagram.take (datagram.length - 4), b0, b1, b2, b3, by
      rw [← hlast, List.take_append_drop]⟩
  have hlen : (body ++ [b0, b1, b2, b3]).length - 4 = body.length := by simp
  rw [passes, if_pos hbyte, hlen, List.append_assoc, List.take_left, read32_append,
    ← List.append_assoc, Bool.or_eq_true, Bool.and_eq_true, decide_eq_true_iff] at h
  obtain hcrc | ⟨hmark, -⟩ := h
  · exact run_checked hcrc
  · exact absurd (of_decide_eq_true hmark) (not_mark hbyte)

/-- A response that arrives as it was sent is delivered, whatever the buffer holds; damaged by a
burst of at most 32 bits, the most significant bit of each byte first, that leaves its type, it is
dropped. -/
theorem receiveHandler_damaged (buffer buffer' body damaged : List UInt8)
    (hsize : 3 ≤ body.length) (htype : body.getD 2 0 = 0) (hkept : damaged.getD 2 0 = 0)
    (hburst : Burst 32 (serial (sealed body)) (serial damaged)) (hne : damaged ≠ sealed body) :
    (receiveHandler buffer (sealed body)).map Prod.fst = some (some (sealed body)) ∧
      (receiveHandler buffer' damaged).map Prod.fst = some none := by
  have hlength : (sealed body).length = damaged.length := length_of_burst length_msbBits hburst
  have hlong := length_sealed body
  constructor
  · simp only [receiveHandler]
    rw [if_neg (by omega), passes_sealed hsize htype]
    rfl
  · have hfails : passes (damaged ++ buffer'.drop damaged.length) damaged.length = false := by
      rw [← Bool.not_eq_true]
      intro hpasses
      have hrun := run_of_passes (by omega) hkept hpasses
      apply hne
      apply expand_injective length_msbBits msbBits_injective
      exact (crc32Register.eq_of_burst hburst ((run_sealed body).trans hrun.symm)).symm
    simp only [receiveHandler]
    rw [if_neg (by omega), hfails]
    rfl

def speedAnswer : List UInt8 := be16 20 ++ [0, 0, 0, 0, 2, 5, 0, 0, 0, 0] ++ be32 15

def damagedAnswer : List UInt8 := ((sealed speedAnswer).set 14 15).set 15 0

theorem receiveHandler_damagedAnswer :
    (receiveHandler (List.replicate 40 7) (sealed speedAnswer)).map Prod.fst =
        some (some (sealed speedAnswer)) ∧
      (receiveHandler [] damagedAnswer).map Prod.fst = some none := by
  refine receiveHandler_damaged _ _ _ _ (by decide) (by decide) (by decide +kernel) ?_
    (by decide +kernel)
  refine ⟨serial ((sealed speedAnswer).take 14), serial [0, 15], serial [15, 0],
    serial ((sealed speedAnswer).drop 16), ?_⟩
  decide +kernel

theorem length_frameHead (framelenth ctrlcomm : UInt16) :
    (frameHead framelenth ctrlcomm).length = kHeadSize := rfl

/-- A request is delivered to whoever receives it with this check, and holds what was asked. -/
theorem receiveHandler_request (buffer : List UInt8) (ctrlCommand : UInt16) (content : List UInt8) :
    let frame := gnerateProtocolFrame ctrlCommand content
    (receiveHandler buffer frame).map Prod.fst = some (some frame) ∧
      read16 frame 4 = ctrlCommand ∧
      (frame.drop kHeadSize).take (frame.length - 12) = content ∧
      (content.length ≤ 65523 → (read16 frame 0).toNat = frame.length) := by
  have hhead := length_frameHead (UInt16.ofNat (kHeadSize + content.length + 4)) ctrlCommand
  have hbody : (frameHead (UInt16.ofNat (kHeadSize + content.length + 4)) ctrlCommand ++
      content).length = kHeadSize + content.length := by
    rw [List.length_append, hhead]
  have hlength : (gnerateProtocolFrame ctrlCommand content).length =
      kHeadSize + content.length + 4 := by
    rw [gnerateProtocolFrame, length_sealed, hbody]
  refine ⟨?_, ?_, ?_, fun hmax => ?_⟩
  · have hsize : 3 ≤ (frameHead (UInt16.ofNat (kHeadSize + content.length + 4)) ctrlCommand ++
        content).length := by
      rw [hbody, kHeadSize]
      omega
    have hpasses := passes_sealed hsize rfl
    simp only [receiveHandler]
    rw [if_neg (by rw [hlength, kHeadSize]; omega), gnerateProtocolFrame, hpasses]
    rfl
  · exact read16_be16 ctrlCommand []
  · rw [hlength, gnerateProtocolFrame, sealed, List.append_assoc, List.drop_left' hhead]
    exact List.take_left' (by rw [kHeadSize]; omega)
  · have hread : read16 (gnerateProtocolFrame ctrlCommand content) 0 =
        UInt16.ofNat (kHeadSize + content.length + 4) :=
      read16_be16 (UInt16.ofNat (kHeadSize + content.length + 4)) []
    rw [hread, hlength, UInt16.toNat_ofNat']
    simp only [kHeadSize]
    omega

end DeviceManager.OrdFrames
