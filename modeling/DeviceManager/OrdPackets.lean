import DeviceManager.OrdBlocks

namespace DeviceManager.OrdPackets

open LittleEndian BigEndian OrdFrames OradarScan OrdBlocks

/-- What a device puts into a `PointCloudPacket`, with as many points as its type says. -/
structure PointCloud where
  frameLength : UInt16
  dataType : UInt8
  blockNum : UInt8
  frameCount : UInt16
  timestamp : UInt32
  syncMode : UInt8
  reserved : UInt8
  points : List (UInt16 × UInt16)
  sized : points.length = blockLength dataType

/-- The points as they stand in `pc_data`, with the higher bytes first. -/
def pcData (points : List (UInt16 × UInt16)) : List UInt8 :=
  points.flatMap fun p => be16 p.1 ++ be16 p.2

namespace PointCloud

variable (c : PointCloud)

/-- The packet in memory; `frame_count` has its lower byte first. -/
def packet : List UInt8 :=
  be16 c.frameLength ++ [c.dataType, c.blockNum, lowByte c.frameCount, highByte c.frameCount] ++
    be32 c.timestamp ++ [c.syncMode, c.reserved] ++ pcData c.points

def message : List UInt8 :=
  scanMark ++ be16 (UInt16.ofNat (kHeadSize + c.packet.length)) ++ c.packet

def block : ScanBlockData :=
  ⟨c.blockNum, c.timestamp, c.syncMode, c.frameCount, c.points.map Prod.fst, c.points.map Prod.snd,
    by rw [List.length_map, List.length_map]⟩

end PointCloud

theorem length_pcData (points : List (UInt16 × UInt16)) :
    (pcData points).length = 4 * points.length := by
  induction points with
  | nil => rfl
  | cons p points ih =>
    change (be16 p.1 ++ be16 p.2 ++ pcData points).length = _
    rw [List.length_append, ih, List.length_cons]
    simp
    omega

theorem read_pcData (field : UInt16 × UInt16 → UInt16) (shift : Nat)
    (hfield : ∀ p rest, read16 (be16 p.1 ++ be16 p.2 ++ rest) shift = field p)
    (points : List (UInt16 × UInt16)) (before : List UInt8) :
    ((List.range points.length).map fun i =>
      read16 (before ++ pcData points) (before.length + 4 * i + shift)) = points.map field := by
  induction points generalizing before with
  | nil => rfl
  | cons p points ih =>
    have hrest := ih (before ++ (be16 p.1 ++ be16 p.2))
    have hfirst : read16 (before ++ pcData (p :: points)) (before.length + 4 * 0 + shift) = field p := by
      rw [Nat.mul_zero, Nat.add_zero, read16_append]
      exact hfield p (pcData points)
    rw [List.length_cons, List.range_succ_eq_map, List.map_cons, hfirst, List.map_map, List.map_cons,
      ← hrest]
    congr 1
    apply List.map_congr_left
    intro i _
    have hplace : before.length + 4 * (i + 1) + shift =
        (before ++ (be16 p.1 ++ be16 p.2)).length + 4 * i + shift := by
      simp
      omega
    have hbytes : before ++ pcData (p :: points) =
        before ++ (be16 p.1 ++ be16 p.2) ++ pcData points := (List.append_assoc ..).symm
    change read16 (before ++ pcData (p :: points)) (before.length + 4 * (i + 1) + shift) = _
    rw [hplace, hbytes]

theorem blockLength_le (dataType : UInt8) : blockLength dataType ≤ 378 := by
  unfold blockLength
  split_ifs <;> omega

namespace PointCloud

variable (c : PointCloud)

theorem length_packet : c.packet.length = 12 + 4 * blockLength c.dataType := by
  rw [packet, List.length_append, length_pcData, c.sized]
  rfl

theorem length_message : c.message.length = kHeadSize + c.packet.length := by
  rw [message, List.length_append]
  rfl

theorem toNat_length : (UInt16.ofNat (kHeadSize + c.packet.length)).toNat = c.message.length := by
  have hle := blockLength_le c.dataType
  rw [length_message, length_packet, UInt16.toNat_ofNat', kHeadSize]
  omega

def head : List UInt8 :=
  scanMark ++ be16 (UInt16.ofNat (kHeadSize + c.packet.length)) ++
    (be16 c.frameLength ++ [c.dataType, c.blockNum, lowByte c.frameCount, highByte c.frameCount] ++
      be32 c.timestamp ++ [c.syncMode, c.reserved])

theorem message_eq : c.message = c.head ++ pcData c.points := (List.append_assoc ..).symm

theorem getScanBlockData_message : getScanBlockData c.message = some c.block := by
  have hlength : c.message.length = kPointOffset + 4 * blockLength c.dataType := by
    rw [length_message, length_packet, kPointOffset]
    omega
  have htype : c.message.getD (kHeadSize + 2) 0 = c.dataType := rfl
  have hranges := read_pcData Prod.fst 0 (fun p rest => by
    rw [List.append_assoc, read16_be16]) c.points c.head
  have hintensities := read_pcData Prod.snd 2 (fun p rest => by
    rw [List.append_assoc]
    exact (read16_append (be16 p.1) (be16 p.2 ++ rest) 0).trans (read16_be16 p.2 rest))
      c.points c.head
  rw [c.sized, ← message_eq] at hranges hintensities
  unfold getScanBlockData
  simp only [htype]
  rw [if_neg (by omega), block]
  refine congrArg some ?_
  rw [ScanBlockData.mk.injEq]
  refine ⟨rfl, ?_, rfl, word_bytes c.frameCount, hranges, hintensities⟩
  exact read32_be32 c.timestamp ([c.syncMode, c.reserved] ++ pcData c.points)

/-- Whatever the buffer holds, a packet passes the check, and it is read as it was written. -/
theorem received_message (buffer : List UInt8) :
    (receiveHandler buffer c.message).map Prod.fst = some (some c.message) ∧
      getScanBlockData c.message = some c.block := by
  refine ⟨?_, c.getScanBlockData_message⟩
  have hsize : ¬ c.message.length < 4 := by
    rw [length_message, kHeadSize]
    omega
  have hlength : (read16 (c.message ++ buffer.drop c.message.length) 6).toNat = c.message.length :=
    (congrArg UInt16.toNat (read16_be16 (UInt16.ofNat (kHeadSize + c.packet.length))
      (c.packet ++ buffer.drop c.message.length))).trans c.toNat_length
  have hpasses : passes (c.message ++ buffer.drop c.message.length) c.message.length = true := by
    rw [passes, Bool.or_eq_true, Bool.and_eq_true]
    exact Or.inr ⟨rfl, decide_eq_true hlength⟩
  simp only [receiveHandler]
  rw [if_neg hsize, if_pos hpasses]
  rfl

end PointCloud

end DeviceManager.OrdPackets
