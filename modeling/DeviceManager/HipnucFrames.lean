import DeviceManager.Hipnuc
import Mathlib.Algebra.Group.Nat.Even
import Mathlib.Data.List.DropRight

namespace DeviceManager.HipnucFrames

open LittleEndian Transducer Hipnuc

def header (payloadLen : UInt16) : List UInt8 :=
  [kSof1, kSof2, lowByte payloadLen, highByte payloadLen]

/-- A frame: the header, the checksum with its low byte first, and the payload. -/
def wire (payload : List UInt8) : List UInt8 :=
  let payloadLen := UInt16.ofNat payload.length
  header payloadLen ++
    [lowByte (checksum payloadLen payload), highByte (checksum payloadLen payload)] ++ payload

structure Delivered (payload : List UInt8) : Prop where
  size : kImuSolLen ≤ payload.length
  tag : payload.head? = some kTagImuSol

instance (payload : List UInt8) : Decidable (Delivered payload) :=
  decidable_of_iff (kImuSolLen ≤ payload.length ∧ payload.head? = some kTagImuSol)
    ⟨fun h => ⟨h.1, h.2⟩, fun h => ⟨h.size, h.tag⟩⟩

def outcome (payload : List UInt8) : Option Delivery :=
  if Delivered payload then some (.ok (packetOf payload)) else none

theorem getD_zero_iff {payload : List UInt8} (h : kImuSolLen ≤ payload.length) :
    payload.getD 0 0 = kTagImuSol ↔ payload.head? = some kTagImuSol := by
  cases payload with
  | nil => cases h
  | cons first payload => simp

/-- `process_frame` is reached with the whole payload in the buffer. -/
theorem processFrame_eq (d : HipnucDecoder) :
    processFrame d =
      (if checksum d.payloadLen d.buf = d.crcRx then outcome d.buf else none,
        ⟨.sof1, 0, d.crcLo, d.crcRx, []⟩) := by
  unfold processFrame outcome
  by_cases hcrc : checksum d.payloadLen d.buf = d.crcRx
  · rw [if_neg (not_not_intro hcrc), if_pos hcrc]
    by_cases hsize : kImuSolLen ≤ d.buf.length
    · by_cases htag : d.buf.head? = some kTagImuSol
      · have hget := (getD_zero_iff hsize).mpr htag
        have hgood : ¬(d.buf.length < kImuSolLen ∨ d.buf.getD 0 0 ≠ kTagImuSol) := by
          rintro (hs | ht)
          · exact Nat.not_le.mpr hs hsize
          · exact ht hget
        rw [if_neg hgood, if_pos ⟨hsize, htag⟩, readPacket_ok hsize]
      · have hget := mt (getD_zero_iff hsize).mp htag
        rw [if_pos (Or.inr hget), if_neg fun h : Delivered _ => htag h.tag]
    · rw [if_pos (Or.inl (Nat.lt_of_not_le hsize)), if_neg fun h : Delivered _ => hsize h.size]
  · rw [if_pos hcrc, if_neg hcrc]

theorem run_skip {d : HipnucDecoder} (hd : d.state = .sof1) {bytes : List UInt8}
    (h : kSof1 ∉ bytes) : run feedByte d bytes = ([], d) := by
  induction bytes with
  | nil => rfl
  | cons b bytes ih =>
    obtain ⟨hb, hrest⟩ := List.ne_and_not_mem_of_not_mem_cons h
    have hstep : feedByte d b = (none, d) := by
      unfold feedByte
      rw [hd]
      simp only [if_neg hb.symm]
    rw [run_cons, hstep, ih hrest]
    rfl

theorem run_payload {d : HipnucDecoder} (hd : d.state = .data) {payload : List UInt8}
    (hne : payload ≠ []) (hlength : d.buf.length + payload.length = d.payloadLen.toNat) :
    run feedByte d payload =
      ((processFrame { d with buf := d.buf ++ payload }).1.toList,
        (processFrame { d with buf := d.buf ++ payload }).2) := by
  induction payload generalizing d with
  | nil => exact absurd rfl hne
  | cons b payload ih =>
    rw [List.length_cons] at hlength
    by_cases hlast : payload = []
    · have hfull : (d.buf ++ [b]).length = d.payloadLen.toNat := by
        rw [← hlength, hlast, List.length_append]
        rfl
      have hstep : feedByte d b = processFrame { d with buf := d.buf ++ [b] } := by
        unfold feedByte
        rw [hd]
        exact if_pos hfull
      rw [hlast, run_cons, hstep, run_nil, List.append_nil]
    · have hpositive := List.length_pos_iff.mpr hlast
      have hopen : ¬(d.buf ++ [b]).length = d.payloadLen.toNat := by
        rw [List.length_append, List.length_singleton]
        omega
      have hstep : feedByte d b = (none, { d with buf := d.buf ++ [b] }) := by
        unfold feedByte
        rw [hd]
        exact if_neg hopen
      have hlength' : (d.buf ++ [b]).length + payload.length = d.payloadLen.toNat := by
        rw [List.length_append, List.length_singleton]
        omega
      have hrest := ih (d := { d with buf := d.buf ++ [b] }) hd hlast hlength'
      rw [run_cons, hstep, hrest, List.append_assoc]
      rfl

theorem run_header {d : HipnucDecoder} (hd : d.state = .sof1) (payloadLen : UInt16) (low : UInt8) :
    run feedByte d (header payloadLen ++ [low]) =
      ([], ⟨.crc2, payloadLen, low.toUInt16, d.crcRx, []⟩) := by
  obtain ⟨state, len, crcLo, crcRx, buf⟩ := d
  obtain rfl : state = .sof1 := hd
  have hword : (lowByte payloadLen).toUInt16 ||| ((highByte payloadLen).toUInt16 <<< 8) =
      payloadLen := word_bytes payloadLen
  simp only [header, List.cons_append, List.nil_append, run_cons, feedByte, run_nil, if_true,
    Option.toList_none, List.append_nil, hword]

theorem run_wire {d : HipnucDecoder} (hd : d.state = .sof1) {payload : List UInt8}
    (h : payload.length < 65536) :
    ∃ next : HipnucDecoder, next.state = .sof1 ∧
      run feedByte d (wire payload) = ((outcome payload).toList, next) := by
  have hlen : (UInt16.ofNat payload.length).toNat = payload.length := by
    rw [UInt16.toNat_ofNat']
    omega
  simp only [wire]
  generalize UInt16.ofNat payload.length = payloadLen at hlen
  generalize hcrc : checksum payloadLen payload = crc
  have hword : (lowByte crc).toUInt16 ||| ((highByte crc).toUInt16 <<< 8) = crc := word_bytes crc
  have hhead := run_header hd payloadLen (lowByte crc)
  have hsplit : header payloadLen ++ [lowByte crc, highByte crc] ++ payload =
      (header payloadLen ++ [lowByte crc]) ++ (highByte crc :: payload) := rfl
  rw [hsplit, run_silent hhead, run_cons]
  by_cases hzero : payloadLen = 0
  · have hnil : payload = [] := by
      rw [hzero] at hlen
      exact List.length_eq_zero_iff.mp hlen.symm
    rw [hnil] at hcrc
    refine ⟨⟨.sof1, 0, (lowByte crc).toUInt16, crc, []⟩, rfl, ?_⟩
    simp only [feedByte, hword, hzero, if_true, hnil, run_nil, List.append_nil, processFrame_eq]
    rw [← hzero, if_pos hcrc]
  · have hne : payload ≠ [] := by
      rintro rfl
      exact hzero (UInt16.toNat_inj.mp hlen)
    have hstep : feedByte ⟨.crc2, payloadLen, (lowByte crc).toUInt16, d.crcRx, []⟩ (highByte crc) =
        (none, ⟨.data, payloadLen, (lowByte crc).toUInt16, crc, []⟩) := by
      simp only [feedByte, hword, if_neg hzero]
    have hpayload := run_payload (d := ⟨.data, payloadLen, (lowByte crc).toUInt16, crc, []⟩) rfl hne
      (by rw [List.length_nil, Nat.zero_add, hlen])
    refine ⟨⟨.sof1, 0, (lowByte crc).toUInt16, crc, []⟩, rfl, ?_⟩
    rw [hstep, hpayload, processFrame_eq]
    simp only [List.nil_append, hcrc, if_true, Option.toList_none]

theorem run_frames {d : HipnucDecoder} (hd : d.state = .sof1) {payloads : List (List UInt8)}
    (h : ∀ payload ∈ payloads, payload.length < 65536) :
    (run feedByte d (payloads.flatMap wire)).1 = payloads.filterMap outcome := by
  induction payloads generalizing d with
  | nil => rfl
  | cons payload payloads ih =>
    obtain ⟨hp, hrest⟩ := List.forall_mem_cons.mp h
    obtain ⟨next, hnext, hrun⟩ := run_wire hd hp
    rw [List.flatMap_cons, run_append, hrun, ih hnext hrest, List.filterMap_cons]
    cases outcome payload <;> rfl

/-- The packets that are due, in the order of their frames. -/
def due (payloads : List (List UInt8)) : List Delivery :=
  (payloads.filter (Delivered ·)).map fun payload => .ok (packetOf payload)

theorem filterMap_outcome (payloads : List (List UInt8)) :
    payloads.filterMap outcome = due payloads := by
  unfold due
  induction payloads with
  | nil => rfl
  | cons payload payloads ih =>
    by_cases h : Delivered payload
    · have hsome : outcome payload = some (.ok (packetOf payload)) := if_pos h
      rw [List.filterMap_cons_some hsome, ih, List.filter_cons_of_pos (by simpa using h)]
      rfl
    · have hnone : outcome payload = none := if_neg h
      rw [List.filterMap_cons_none hnone, ih, List.filter_cons_of_neg (by simpa using h)]

def trailing (garbage : List UInt8) : Nat := (garbage.rtakeWhile (· = kSof1)).length

theorem trailing_start (garbage : List UInt8) :
    trailing (garbage ++ [kSof1]) = trailing garbage + 1 := by
  rw [trailing, List.rtakeWhile_concat_pos _ _ _ (by decide), List.length_append]
  rfl

theorem trailing_other (garbage : List UInt8) {b : UInt8} (h : b ≠ kSof1) :
    trailing (garbage ++ [b]) = 0 := by
  rw [trailing, List.rtakeWhile_concat_neg _ _ _ (by simpa using h), List.length_nil]

/-- After an odd number of first start bytes the last one is behind the garbage. -/
theorem suffix_of_odd {garbage : List UInt8} (h : ¬Even (trailing garbage)) :
    [kSof1] <:+ garbage := by
  have hne : garbage.rtakeWhile (· = kSof1) ≠ [] := by
    intro hnil
    rw [trailing, hnil] at h
    exact h Even.zero
  rw [Ne, List.rtakeWhile_eq_nil_iff] at hne
  push Not at hne
  obtain ⟨hg, hlast⟩ := hne
  refine ⟨garbage.dropLast, ?_⟩
  rw [← of_decide_eq_true hlast]
  exact List.dropLast_append_getLast hg

/-- Each first start byte toggles between the two states that look for a frame. -/
theorem run_garbage {garbage : List UInt8} (h : ¬[kSof1, kSof2] <:+: garbage) :
    run feedByte .create garbage =
      ([], { HipnucDecoder.create with state := if Even (trailing garbage) then .sof1 else .sof2 }) := by
  induction garbage using List.reverseRecOn with
  | nil => rfl
  | append_singleton garbage b ih =>
    have hpair : ¬[kSof1, kSof2] <:+: garbage := fun hi =>
      h (hi.trans (List.prefix_append _ _).isInfix)
    rw [run_append, ih hpair, List.nil_append, run_cons]
    by_cases hb : b = kSof1
    · rw [hb, trailing_start]
      by_cases heven : Even (trailing garbage)
      · rw [if_pos heven, if_neg (Nat.not_even_iff_odd.mpr heven.add_one)]
        rfl
      · rw [if_neg heven, if_pos (Nat.not_even_iff_odd.mp heven).add_one]
        rfl
    · rw [trailing_other garbage hb, if_pos Even.zero]
      by_cases heven : Even (trailing garbage)
      · rw [if_pos heven]
        simp only [feedByte, if_neg hb]
        rfl
      · have hsof2 : b ≠ kSof2 := by
          rintro rfl
          obtain ⟨front, rfl⟩ := suffix_of_odd heven
          exact h ⟨front, [], by simp⟩
        rw [if_neg heven]
        simp only [feedByte, if_neg hsof2]
        rfl

def zeroPacket (deviceId : UInt8) : List UInt8 := kTagImuSol :: deviceId :: List.replicate 74 0

theorem delivered_zeroPacket (deviceId : UInt8) : Delivered (zeroPacket deviceId) := by
  refine ⟨?_, rfl⟩
  simp [zeroPacket, kImuSolLen]

set_option maxRecDepth 10000 in
theorem wire_zeroPacket (deviceId : UInt8) (h : deviceId = 0 ∨ deviceId = 1) :
    ∃ rest, wire (zeroPacket deviceId) = kSof1 :: rest ∧ kSof1 ∉ rest := by
  refine ⟨(wire (zeroPacket deviceId)).tail, rfl, ?_⟩
  obtain rfl | rfl := h <;> decide +kernel

theorem run_zeroPacket {d : HipnucDecoder} (hd : d.state = .sof1) (deviceId : UInt8) :
    (run feedByte d (wire (zeroPacket deviceId))).1 = [.ok (packetOf (zeroPacket deviceId))] := by
  have hlength : (zeroPacket deviceId).length < 65536 := by simp [zeroPacket]
  obtain ⟨next, -, hrun⟩ := run_wire hd hlength
  rw [hrun, outcome, if_pos (delivered_zeroPacket deviceId)]
  rfl

/-- The frame is lost when its first byte is taken for a wrong second one. -/
theorem run_lost : (run feedByte { HipnucDecoder.create with state := .sof2 }
    (wire (zeroPacket 0))).1 = [] := by
  obtain ⟨rest, hwire, hquiet⟩ := wire_zeroPacket 0 (Or.inl rfl)
  have hstep : feedByte { HipnucDecoder.create with state := .sof2 } kSof1 =
      (none, HipnucDecoder.create) := rfl
  rw [hwire, run_cons, hstep, run_skip rfl hquiet]
  rfl

theorem feedAll_lost {garbage : List UInt8} (h : ¬[kSof1, kSof2] <:+: garbage)
    (hodd : ¬Even (trailing garbage)) :
    (feedAll .create [garbage ++ wire (zeroPacket 0)]).1 = [] := by
  rw [feedAll, runChunks_eq, List.flatten_singleton, run_silent (run_garbage h), if_neg hodd,
    run_lost]

theorem due_zeroPacket : due [zeroPacket 0] ≠ [] := by
  rw [due, List.filter_cons_of_pos (by simpa using delivered_zeroPacket 0)]
  exact List.cons_ne_nil _ _

/-- Behind garbage without a pair of start bytes all the packets arrive exactly when the
garbage does not end in a first start byte that the decoder still waits on. -/
theorem feedAll_frames_iff (garbage : List UInt8) (h : ¬[kSof1, kSof2] <:+: garbage) :
    (∀ payloads chunks : List (List UInt8), payloads ≠ [] →
      (∀ payload ∈ payloads, payload.length < 65536) →
      chunks.flatten = garbage ++ payloads.flatMap wire →
      (due payloads).Sublist (feedAll .create chunks).1) ↔
      Even (trailing garbage) := by
  constructor
  · intro hall
    by_contra hodd
    have hsub := hall [zeroPacket 0] [garbage ++ wire (zeroPacket 0)] (by simp)
      (by simp [zeroPacket]) (by simp)
    rw [feedAll_lost h hodd, List.sublist_nil] at hsub
    exact due_zeroPacket hsub
  · intro heven payloads chunks _ hsizes hflatten
    rw [feedAll, runChunks_eq, hflatten, run_silent (run_garbage h), if_pos heven,
      run_frames rfl hsizes, filterMap_outcome]

theorem feedAll_frames_iff_noise :
    (∀ payloads chunks : List (List UInt8), payloads ≠ [] →
      (∀ payload ∈ payloads, payload.length < 65536) →
      chunks.flatten = [0x00, 0x5A, 0x5A] ++ payloads.flatMap wire →
      (due payloads).Sublist (feedAll .create chunks).1) ↔
      Even (trailing [0x00, 0x5A, 0x5A]) :=
  feedAll_frames_iff [0x00, 0x5A, 0x5A] (by decide)

/-- One start byte in front of a packet loses the packet. -/
theorem feedAll_start_byte :
    ¬∀ (garbage : List UInt8) (payloads chunks : List (List UInt8)),
      ¬[kSof1, kSof2] <:+: garbage → payloads ≠ [] →
      (∀ payload ∈ payloads, payload.length < 65536) →
      chunks.flatten = garbage ++ payloads.flatMap wire →
      (due payloads).Sublist (feedAll .create chunks).1 := by
  intro hall
  have hsub := hall [kSof1] [zeroPacket 0] [[kSof1] ++ wire (zeroPacket 0)] (by decide) (by simp)
    (by simp [zeroPacket]) (by simp)
  rw [feedAll_lost (by decide) (by decide), List.sublist_nil] at hsub
  exact due_zeroPacket hsub

end DeviceManager.HipnucFrames
