import DeviceManager.OrdFilter
import DeviceManager.OrdPackets
import DeviceManager.OrdSettings

namespace DeviceManager.OrdScans

open BigEndian History Lockstep OradarScan OrdBlocks OrdFilter OrdPackets OrdSession OrdSettings

/-- A call of `getScanFrameData`: the frame that it fills, what `FilterLevel_` and `MotorSpeed_` are
when its loop ends, and the answers that its two queries get. -/
structure ScanCall where
  layer : FrameData
  settings : OrdDriver
  level : Option (List UInt8)
  speed : Option (List UInt8)

/-- The queries behind the loop, with `FirstGetInfo_`; nothing if one reads behind the end of its
answer. -/
def ScanCall.getInfo (c : ScanCall) (firstGetInfo : Bool) : Option (OrdDriver × Bool) :=
  if firstGetInfo then some (c.settings, true)
  else
    match c.settings.finish .getTailFilterLevel c.level with
    | none => none
    | some (result, settings) =>
      if result.error = .noError then
        (settings.finish .getScanSpeed c.speed).map fun (result, settings) =>
          (settings, decide (result.error = .noError))
      else some (settings, false)

/-- How a call ends: with a frame, without another block in time, or with a read or a write behind the
end. -/
inductive Scan where
  | frame (timestamp : UInt32) (layer : FrameData) (firstGetInfo : Bool) (rest : List ScanBlockData)
  | timedOut
  | fault

section

variable (α : Type) [LT α] [DecidableLT α] [Sub α] [Mul α] [Div α] [Floating α]

/-- The frame behind the filter, which leaves the intensities as they are. -/
def filtered (settings : OrdDriver) (layer : FrameData) : FrameData :=
  { layer with
    ranges := pointCloudFilter α settings.filterLevel settings.motorSpeed layer.ranges }

/-- `getScanFrameData` over the blocks that come in time. -/
def getScanFrameData (firstGetInfo : Bool) (c : ScanCall) (blocks : List ScanBlockData) : Scan :=
  match gather (.create c.layer) blocks with
  | .frame a rest =>
    match c.getInfo firstGetInfo with
    | some (settings, firstGetInfo) =>
      .frame a.timestamp (filtered α settings a.layer) firstGetInfo rest
    | none => .fault
  | .timedOut => .timedOut
  | .fault => .fault

def scans : Bool → List ScanCall → List ScanBlockData → List (UInt32 × FrameData)
  | _, [], _ => []
  | firstGetInfo, c :: calls, blocks =>
    match getScanFrameData α firstGetInfo c blocks with
    | .frame timestamp layer firstGetInfo rest =>
      (timestamp, layer) :: scans firstGetInfo calls rest
    | _ => []

end

/-- The settings that the filter gets in a row of calls; nothing if an answer is too short. -/
def infos : Bool → List ScanCall → Option (List OrdDriver)
  | _, [] => some []
  | firstGetInfo, c :: calls =>
    match c.getInfo firstGetInfo with
    | some (settings, firstGetInfo) => (infos firstGetInfo calls).map (settings :: ·)
    | none => none

section

variable (α : Type) [LT α] [DecidableLT α] [Sub α] [Mul α] [Div α] [Floating α]

theorem scans_stream (s : Rotations) {firstGetInfo : Bool} {calls : List ScanCall}
    {settings : List OrdDriver} (hinfos : infos firstGetInfo calls = some settings) (p more : Nat) :
    scans α firstGetInfo calls (s.stream p (12 * calls.length + more)) =
      List.zipWith (fun d frame => (frame.1, filtered α d frame.2)) settings
        ((List.range calls.length).map (s.result p)) := by
  induction calls generalizing firstGetInfo settings p more with
  | nil =>
    cases hinfos
    rfl
  | cons c calls ih =>
    have hspan := span_bounds p
    obtain ⟨a, ha, hframe⟩ := s.gather_stream c.layer p
      (n := 12 * (c :: calls).length + more) (by rw [List.length_cons]; omega)
    have hleft : 12 * (c :: calls).length + more - span p =
        12 * calls.length + (12 - span p + more) := by
      rw [List.length_cons]
      omega
    rw [infos] at hinfos
    cases hinfo : c.getInfo firstGetInfo with
    | none =>
      rw [hinfo] at hinfos
      cases hinfos
    | some info =>
      obtain ⟨d, known⟩ := info
      rw [hinfo] at hinfos
      obtain ⟨others, hothers, rfl⟩ := Option.map_eq_some_iff.mp hinfos
      have hcall : getScanFrameData α firstGetInfo c (s.stream p (12 * (c :: calls).length + more)) =
          .frame (s.result p 0).1 (filtered α d (s.result p 0).2) known
            (s.stream (p + span p) (12 * calls.length + (12 - span p + more))) := by
        rw [getScanFrameData, ha, hinfo, ← hframe.eq_result, ← hleft]
      have hrest : ((List.range (c :: calls).length).map (s.result p)) =
          s.result p 0 :: (List.range calls.length).map (s.result (p + span p)) := by
        rw [List.length_cons, List.range_succ_eq_map, List.map_cons, List.map_map]
        congr 1
        apply List.map_congr_left
        intro n _
        exact (s.result_succ p n).symm
      rw [scans, hcall, hrest, List.zipWith_cons_cons, ← ih hothers]

end

/-- A device that sends six packets a turn, all of one type. -/
structure Sweep where
  turn : Nat → Fin 6 → PointCloud
  dataType : UInt8
  blockNum : ∀ r (k : Fin 6), (turn r k).blockNum = UInt8.ofNat (k + 1)
  oneType : ∀ r k, (turn r k).dataType = dataType

namespace Sweep

variable (s : Sweep)

def rotations : Rotations where
  block r k := (s.turn r k).block
  width := blockLength s.dataType
  index_block r k := by
    have hindex : ∀ k : Fin 6, ((UInt8.ofNat (k + 1) - 1).toNat : Nat) = k := by decide
    have hblock : (s.turn r k).block.blockId = UInt8.ofNat (k + 1) := s.blockNum r k
    have hlt : ((s.turn r k).block.blockId - 1).toNat < 6 := by
      rw [hblock, hindex]
      exact k.isLt
    rw [ScanBlockData.index, dif_pos hlt]
    apply congrArg some
    apply Fin.ext
    change ((s.turn r k).block.blockId - 1).toNat = k
    rw [hblock, hindex]
  length_block r k := by
    change ((s.turn r k).points.map Prod.fst).length = _
    rw [List.length_map, (s.turn r k).sized, s.oneType]

theorem place_lt (p : Nat) : p % 6 < 6 := Nat.mod_lt p (by decide)

def messages (p : Nat) : Nat → List (List UInt8)
  | 0 => []
  | n + 1 => (s.turn (p / 6) ⟨p % 6, place_lt p⟩).message :: messages (p + 1) n

theorem length_messages (p n : Nat) : (s.messages p n).length = n := by
  induction n generalizing p with
  | zero => rfl
  | succ n ih => rw [messages, List.length_cons, ih]

theorem take_messages (p : Nat) {m n : Nat} (h : m ≤ n) :
    (s.messages p n).take m = s.messages p m := by
  induction m generalizing p n with
  | zero => rfl
  | succ m ih =>
    obtain ⟨n, rfl⟩ := Nat.exists_eq_succ_of_ne_zero (Nat.ne_of_gt (Nat.lt_of_lt_of_le m.succ_pos h))
    rw [messages, List.take_succ_cons, ih _ (Nat.le_of_succ_le_succ h), messages]

theorem filterMap_messages (p n : Nat) :
    (s.messages p n).filterMap getScanBlockData = s.rotations.stream p n := by
  induction n generalizing p with
  | zero => rfl
  | succ n ih =>
    rw [messages, List.filterMap_cons, PointCloud.getScanBlockData_message, ih]
    rfl

end Sweep

section

variable (α : Type) [LT α] [DecidableLT α] [Sub α] [Mul α] [Div α] [Floating α]

variable {ι : Type} [DecidableEq ι]

end

def steadyPacket (r : Nat) (k : Fin 6) : PointCloud where
  frameLength := 516
  dataType := 0x08
  blockNum := UInt8.ofNat (k + 1)
  frameCount := UInt16.ofNat r
  timestamp := UInt32.ofNat r
  syncMode := 0
  reserved := 0
  points := List.replicate 126 (UInt16.ofNat r, UInt16.ofNat k)
  sized := by rw [List.length_replicate]; decide

def steadySweep : Sweep := ⟨steadyPacket, 0x08, fun _ _ => rfl, fun _ _ => rfl⟩

/-- Two turns arrive, from the second packet on, and are read. -/
def steadyActions : List (Action Unit) :=
  (steadySweep.messages 1 12).map .receive ++ List.replicate 12 .take

theorem keptUp_of_length {ι : Type} {h : List (Event ι)}
    (hlen : (buffered h).length ≤ kScanBlockBufferingCount) : KeptUp h := by
  intro older holder
  have hsub : (older.filterMap bufferedOf).Sublist (h.filterMap bufferedOf) :=
    holder.sublist.filterMap bufferedOf
  have hle := hsub.length_le
  simp only [buffered, List.length_reverse] at hlen ⊢
  omega

def firstCall : ScanCall :=
  ⟨⟨[], []⟩, .create, some (answer kGetFilterLevel (some (be32 3))),
    some (answer kGetScanSpeed (some (be32 10)))⟩

end DeviceManager.OrdScans
