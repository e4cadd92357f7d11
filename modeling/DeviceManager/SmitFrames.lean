import DeviceManager.SmitProtocol
import Mathlib.Data.List.GetD

namespace DeviceManager.SmitFrames

open Draining SmitProtocol

variable {α : Type} [LT α] [DecidableLT α] [Add α] [Sub α] [Mul α] [Div α] [Floating α]

theorem turn_short {buffer : List UInt8} (h : buffer.length ≤ 3) :
    (turn buffer : Option (List (Callback α) × Nat)) = none := if_pos (Nat.lt_succ_of_le h)

theorem turn_drop {buffer : List UInt8} (hlength : kHeaderLength ≤ buffer.length)
    (hsof : buffer.getD 0 0 ≠ kSof1 ∨ buffer.getD 1 0 ≠ kSof2) :
    (turn buffer : Option (List (Callback α) × Nat)) = some ([], 1) := by
  unfold turn
  rw [if_neg (Nat.not_lt.mpr hlength), if_pos hsof]

theorem turn_oversized {buffer : List UInt8} (hlength : kHeaderLength ≤ buffer.length)
    (hsof : buffer.getD 0 0 = kSof1 ∧ buffer.getD 1 0 = kSof2)
    (hmax : kMaxFrameLength < totalLength buffer) :
    (turn buffer : Option (List (Callback α) × Nat)) = some ([], 2) := by
  unfold turn
  rw [if_neg (Nat.not_lt.mpr hlength), if_neg (by simpa using hsof), if_pos hmax]

/-- The loop stops without a header, or before a frame that is not complete. -/
theorem stop_cases {buffer : List UInt8}
    (h : (turn buffer : Option (List (Callback α) × Nat)) = none) :
    buffer.length ≤ 3 ∨
      (buffer.getD 0 0 = kSof1 ∧ buffer.getD 1 0 = kSof2) ∧
        totalLength buffer ≤ kMaxFrameLength ∧ buffer.length < totalLength buffer := by
  unfold turn at h
  split_ifs at h with hlength hsof hmax hhalf
  · exact Or.inl (Nat.le_of_lt_succ hlength)
  · push Not at hsof
    exact Or.inr ⟨hsof, Nat.not_lt.mp hmax, hhalf⟩

/-- What a turn does: a byte is dropped, two bytes are dropped, or a frame is read. -/
theorem turn_cases {buffer : List UInt8} {out : List (Callback α)} {n : Nat}
    (h : turn buffer = some (out, n)) :
    4 ≤ buffer.length ∧
      ((buffer.getD 0 0 ≠ kSof1 ∨ buffer.getD 1 0 ≠ kSof2) ∧ out = [] ∧ n = 1 ∨
        (buffer.getD 0 0 = kSof1 ∧ buffer.getD 1 0 = kSof2) ∧
          (kMaxFrameLength < totalLength buffer ∧ out = [] ∧ n = 2 ∨
            totalLength buffer ≤ kMaxFrameLength ∧ totalLength buffer ≤ buffer.length ∧
              out = (processFrame ((buffer.take (totalLength buffer)).drop kHeaderLength)).toList ∧
              n = totalLength buffer)) := by
  unfold turn at h
  split_ifs at h with hlength hsof hmax hhalf
  all_goals
    obtain ⟨rfl, rfl⟩ := Prod.mk.inj (Option.some.inj h)
    refine ⟨Nat.not_lt.mp hlength, ?_⟩
  · exact Or.inl ⟨hsof, rfl, rfl⟩
  · push Not at hsof
    exact Or.inr ⟨hsof, Or.inl ⟨hmax, rfl, rfl⟩⟩
  · push Not at hsof
    exact Or.inr ⟨hsof, Or.inr ⟨Nat.not_lt.mp hmax, Nat.not_lt.mp hhalf, rfl, rfl⟩⟩

theorem getD_append {buffer : List UInt8} {i : Nat} (h : i < buffer.length) (more : List UInt8) :
    (buffer ++ more).getD i 0 = buffer.getD i 0 := List.getD_append buffer more 0 i h

theorem totalLength_append {buffer : List UInt8} (h : 4 ≤ buffer.length) (more : List UInt8) :
    totalLength (buffer ++ more) = totalLength buffer := by
  unfold totalLength
  rw [getD_append (by omega), getD_append (by omega)]

theorem kHeaderLength_le (buffer : List UInt8) : kHeaderLength ≤ totalLength buffer :=
  Nat.le_add_left _ _

theorem turn_stable : Stable (turn : Turn UInt8 (Callback α)) where
  pos h := by
    obtain ⟨-, ⟨-, -, rfl⟩ | ⟨-, ⟨-, -, rfl⟩ | ⟨-, -, -, rfl⟩⟩⟩ := turn_cases h
    · exact Nat.one_pos
    · exact Nat.two_pos
    · exact Nat.lt_of_lt_of_le (by decide) (kHeaderLength_le _)
  le h := by
    obtain ⟨hlength, ⟨-, -, rfl⟩ | ⟨-, ⟨-, -, rfl⟩ | ⟨-, hle, -, rfl⟩⟩⟩ := turn_cases h
    · omega
    · omega
    · exact hle
  append {buffer out n} h more := by
    obtain ⟨hlength, hcases⟩ := turn_cases h
    have h0 : (buffer ++ more).getD 0 0 = buffer.getD 0 0 := getD_append (by omega) more
    have h1 : (buffer ++ more).getD 1 0 = buffer.getD 1 0 := getD_append (by omega) more
    have htotal := totalLength_append hlength more
    have hlong : ¬(buffer ++ more).length < kHeaderLength := by
      rw [List.length_append]
      exact Nat.not_lt.mpr (Nat.le_add_right_of_le hlength)
    unfold turn
    rw [h0, h1, htotal, if_neg hlong]
    obtain ⟨hsof, rfl, rfl⟩ | ⟨hsof, ⟨hmax, rfl, rfl⟩ | ⟨hmax, hle, rfl, rfl⟩⟩ := hcases
    · rw [if_pos hsof]
    · rw [if_neg (by simpa using hsof), if_pos hmax]
    · have hhalf : ¬(buffer ++ more).length < totalLength buffer := by
        rw [List.length_append]
        exact Nat.not_lt.mpr (Nat.le_add_right_of_le hle)
      rw [if_neg (by simpa using hsof), if_neg (Nat.not_lt.mpr hmax), if_neg hhalf,
        List.take_append_of_le_length hle]

theorem length_of_stop {buffer : List UInt8}
    (h : (turn buffer : Option (List (Callback α) × Nat)) = none) : buffer.length ≤ 2047 := by
  obtain hshort | ⟨-, hmax, hhalf⟩ := stop_cases h
  · omega
  · unfold kMaxFrameLength at hmax
    omega

theorem feed_overfull {buffer chunk : List UInt8} (h : 10000 < (buffer ++ chunk).length) :
    (feed buffer chunk : Option (List (Callback α) × List UInt8)) = some ([], []) := if_pos h

theorem feed_room {buffer chunk : List UInt8} (h : (buffer ++ chunk).length ≤ 10000)
    (callbacks : List (Callback α)) (rest : List UInt8) :
    feed buffer chunk = some (callbacks, rest) ↔ Drains turn (buffer ++ chunk) callbacks rest := by
  have hroom : ¬(buffer ++ chunk).length > kMaxBufferLength := Nat.not_lt.mpr h
  unfold feed
  rw [if_neg hroom]
  exact turn_stable.drain_iff (Nat.lt_succ_self _)

theorem feed_cases (buffer chunk : List UInt8) :
    10000 < (buffer ++ chunk).length ∨
      ∃ (callbacks : List (Callback α)) (rest : List UInt8),
        feed buffer chunk = some (callbacks, rest) ∧ Drains turn (buffer ++ chunk) callbacks rest := by
  refine or_iff_not_imp_left.mpr fun hfull => ?_
  obtain ⟨⟨callbacks, rest⟩, hdrain⟩ := (turn_stable (α := α)).terminates
    (Nat.lt_succ_self (buffer ++ chunk).length)
  have hdrains : Drains turn (buffer ++ chunk) callbacks rest := ⟨_, hdrain⟩
  exact ⟨callbacks, rest, (feed_room (Nat.le_of_not_lt hfull) _ _).mpr hdrains, hdrains⟩

theorem feed_iff {buffer chunk : List UInt8} (hbuffer : buffer.length ≤ 2047)
    (hchunk : chunk.length ≤ 7953) (callbacks : List (Callback α)) (rest : List UInt8) :
    feed buffer chunk = some (callbacks, rest) ↔ Drains turn (buffer ++ chunk) callbacks rest := by
  refine feed_room ?_ callbacks rest
  rw [List.length_append]
  omega

/-- The chunks are read as their concatenation, and every one of them leaves a short buffer. -/
theorem feedAll_drains {chunks : List (List UInt8)} {buffer : List UInt8}
    (hstop : (turn buffer : Option (List (Callback α) × Nat)) = none)
    (hchunks : ∀ chunk ∈ chunks, chunk.length ≤ 7953) :
    ∃ (callbacks : List (Callback α)) (rest : List UInt8),
      feedAll buffer chunks = some (callbacks, rest) ∧
        Drains turn (buffer ++ chunks.flatten) callbacks rest := by
  induction chunks generalizing buffer with
  | nil =>
    refine ⟨[], buffer, rfl, ?_⟩
    rw [List.flatten_nil, List.append_nil]
    exact Drains.stop hstop
  | cons chunk chunks ih =>
    obtain ⟨hchunk, hrest⟩ := List.forall_mem_cons.mp hchunks
    obtain ⟨⟨first, left⟩, hfirst⟩ := (turn_stable (α := α)).terminates
      (Nat.lt_succ_self (buffer ++ chunk).length)
    have hdrains : Drains turn (buffer ++ chunk) first left := ⟨_, hfirst⟩
    obtain ⟨more, rest, hmore, hlast⟩ := ih hdrains.stopped hrest
    refine ⟨first ++ more, rest, ?_, ?_⟩
    · rw [feedAll, (feed_iff (length_of_stop hstop) hchunk first left).mpr hdrains]
      simp only [Option.bind_eq_bind, Option.bind_some, hmore]
      rfl
    · rw [List.flatten_cons, ← List.append_assoc]
      exact turn_stable.drains_append hdrains hlast

/-- Chunks that leave room in the buffer. -/
def Admissible (chunks : List (List UInt8)) : Prop :=
  ∀ chunk ∈ chunks, chunk ≠ [] ∧ chunk.length ≤ 7953

theorem turn_nil : (turn [] : Option (List (Callback α) × Nat)) = none := rfl

/-- Every call of `feed` ends, the buffer that it leaves is short enough for the next chunk, and
where the stream is cut matters neither for the callbacks nor for the buffer. -/
theorem feedAll_chunks (chunks : List (List UInt8)) (hchunks : Admissible chunks) :
    (∀ fed, fed <+: chunks → ∃ (callbacks : List (Callback α)) (rest : List UInt8),
      feedAll [] fed = some (callbacks, rest) ∧ rest.length ≤ 2047 ∧
        ∀ chunk ∈ chunks, ¬(rest ++ chunk).length > kMaxBufferLength) ∧
      ∀ others, Admissible others → others.flatten = chunks.flatten →
        (feedAll [] others : Option (List (Callback α) × List UInt8)) = feedAll [] chunks := by
  have hshort : ∀ {some : List (List UInt8)}, Admissible some →
      ∀ chunk ∈ some, chunk.length ≤ 7953 := fun h chunk hc => (h chunk hc).2
  constructor
  · intro fed hfed
    obtain ⟨callbacks, rest, hrun, hdrains⟩ := feedAll_drains (α := α) turn_nil
      (fun chunk hc => hshort hchunks chunk (hfed.subset hc))
    have hlength := length_of_stop hdrains.stopped
    refine ⟨callbacks, rest, hrun, hlength, fun chunk hc => ?_⟩
    have hchunk := hshort hchunks chunk hc
    rw [List.length_append, kMaxBufferLength]
    omega
  · intro others hothers hflatten
    obtain ⟨callbacks, rest, hrun, hdrains⟩ := feedAll_drains (α := α) turn_nil (hshort hchunks)
    obtain ⟨callbacks', rest', hrun', hdrains'⟩ := feedAll_drains (α := α) turn_nil (hshort hothers)
    rw [hflatten] at hdrains'
    obtain ⟨rfl, rfl⟩ := hdrains.unique hdrains'
    rw [hrun, hrun']

theorem feedAll_chunks_split :
    (feedAll [] [[1, 2, 0xA5], [0x5A, 0, 1, 7, 8]] : Option (List (Callback ℚ) × List UInt8)) =
      feedAll [] [[1], [2, 0xA5, 0x5A, 0, 1, 7, 8]] := by
  refine (feedAll_chunks (α := ℚ) [[1], [2, 0xA5, 0x5A, 0, 1, 7, 8]] ?_).2 _ ?_ rfl
  all_goals
    unfold Admissible
    decide

/-- A frame: the start bytes, the length with its high byte first, and the payload. -/
def frame (payload : List UInt8) : List UInt8 :=
  kSof1 :: kSof2 :: UInt8.ofNat (payload.length / 256) :: UInt8.ofNat (payload.length % 256) ::
    payload

def CrcCorrect (payload : List UInt8) : Prop :=
  payload.getLast? = some (crc8 payload.dropLast)

instance (payload : List UInt8) : Decidable (CrcCorrect payload) :=
  inferInstanceAs (Decidable (_ = _))

/-- What a payload is worth: a configuration, the sign of a bad packet, points, or nothing. -/
def expected (payload : List UInt8) : Option (Callback α) :=
  if payload.head? = some kMsgIdConfig ∧ CrcCorrect payload ∧
      kConfigPayloadMinLength ≤ payload.length then
    some (.config (configOf payload))
  else if payload.head? = some kMsgIdPointCloud ∧ ¬CrcCorrect payload ∧ 2 ≤ payload.length then
    some (.points (emptyPacket false))
  else if payload.head? = some kMsgIdPointCloud ∧ CrcCorrect payload ∧ 9 < payload.length ∧
      pointCountOf payload ≤ kMaxPoints ∧
      ¬(deltaAngle payload < (kDeltaAngleMin : α) ∨ kDeltaAngleMax < (deltaAngle payload : α)) then
    some (.points (packetOf payload))
  else none

theorem crcCorrect_iff {payload : List UInt8} (h : payload ≠ []) :
    crc8 (payload.take (payload.length - 1)) = payload.getD (payload.length - 1) 0 ↔
      CrcCorrect payload := by
  have hlast := List.getLast_eq_getElem h
  have hget : payload.getD (payload.length - 1) 0 = payload.getLast h := by
    rw [hlast, List.getD_eq_getElem _ _ (by have := List.length_pos_iff.mpr h; omega)]
  rw [CrcCorrect, hget, List.getLast?_eq_some_getLast h, ← List.dropLast_eq_take,
    Option.some_inj, eq_comm]

omit [Div α] in
theorem parsePoints_correct (payload : List UInt8) :
    (parsePoints payload true : Option (Callback α)) =
      if 9 < payload.length ∧ pointCountOf payload ≤ kMaxPoints ∧
          ¬(deltaAngle payload < (kDeltaAngleMin : α) ∨ kDeltaAngleMax < (deltaAngle payload : α))
      then some (.points (packetOf payload)) else none := by
  have htrue : ¬(!true) = true := by decide
  unfold parsePoints
  rw [if_neg htrue]
  by_cases hlength : payload.length ≤ 9
  · rw [if_pos hlength, if_neg fun h => absurd h.1 (Nat.not_lt.mpr hlength)]
  · rw [if_neg hlength]
    by_cases hmax : pointCountOf payload > kMaxPoints
    · rw [if_pos hmax, if_neg fun h => absurd h.2.1 (Nat.not_le.mpr hmax)]
    · rw [if_neg hmax]
      by_cases hdelta : deltaAngle payload < (kDeltaAngleMin : α) ∨
          kDeltaAngleMax < (deltaAngle payload : α)
      · rw [if_pos hdelta, if_neg fun h => h.2.2 hdelta]
      · rw [if_neg hdelta, if_pos ⟨Nat.not_le.mp hlength, Nat.not_lt.mp hmax, hdelta⟩]

theorem processFrame_expected (payload : List UInt8) :
    (processFrame payload : Option (Callback α)) = expected payload := by
  match payload with
  | [] | [_] => simp [processFrame, expected, kConfigPayloadMinLength]
  | msgId :: second :: rest =>
    have hcrc := crcCorrect_iff (List.cons_ne_nil msgId (second :: rest))
    have hlength : 2 ≤ (msgId :: second :: rest).length := Nat.le_add_left _ _
    have hpoints : kMsgIdPointCloud ≠ kMsgIdConfig := by decide
    generalize hp : msgId :: second :: rest = payload at *
    have hhead : payload.head? = some msgId := by rw [← hp]; rfl
    have hfirst : payload.getD 0 0 = msgId := by rw [← hp]; rfl
    unfold processFrame expected
    rw [if_neg (Nat.not_lt.mpr hlength), hhead, hfirst]
    simp only [hcrc, Option.some_inj, hlength, and_true]
    by_cases hc : CrcCorrect payload
    · simp only [hc, not_true, and_false, true_and, if_false, decide_true, if_true]
      by_cases h1 : msgId = kMsgIdPointCloud
      · simp only [h1, hpoints, if_true, true_and, false_and, if_false, parsePoints_correct]
      · by_cases h2 : msgId = kMsgIdConfig
        · simp only [h2, hpoints.symm, if_true, true_and, false_and, if_false]
          by_cases h33 : payload.length < kConfigPayloadMinLength
          · rw [if_neg (Nat.not_le.mpr h33)]
            exact if_pos h33
          · rw [if_pos (Nat.not_lt.mp h33)]
            exact if_neg h33
        · simp only [h1, h2, if_false, false_and]
    · simp only [hc, not_false_iff, and_true, false_and, and_false, if_false, decide_false]
      by_cases h1 : msgId = kMsgIdPointCloud
      · simp only [h1, if_true]
        rfl
      · simp [h1]

theorem drains_payload {buffer rest : List UInt8} {callbacks : List (Callback α)}
    (h : Drains turn buffer callbacks rest) :
    ∀ callback ∈ callbacks, ∃ payload, payload.length + 4 ≤ 2048 ∧
      expected payload = some callback := by
  refine h.forall_mem fun {buffer out n} hturn callback hc => ?_
  obtain ⟨-, ⟨-, rfl, -⟩ | ⟨-, ⟨-, rfl, -⟩ | ⟨hmax, hle, rfl, -⟩⟩⟩ := turn_cases hturn
  · cases hc
  · cases hc
  · refine ⟨_, ?_, (processFrame_expected _).symm.trans (Option.mem_toList.mp hc)⟩
    have hheader := kHeaderLength_le buffer
    unfold kHeaderLength kMaxFrameLength at *
    rw [List.length_drop, List.length_take]
    omega

theorem length_frame (payload : List UInt8) : (frame payload).length = payload.length + 4 := rfl

theorem totalLength_frame {payload : List UInt8} (h : payload.length + 4 ≤ 2048)
    (rest : List UInt8) : totalLength (frame payload ++ rest) = payload.length + 4 := by
  show (UInt8.ofNat (payload.length / 256)).toNat * 256 +
    (UInt8.ofNat (payload.length % 256)).toNat + 4 = _
  rw [UInt8.toNat_ofNat', UInt8.toNat_ofNat']
  omega

theorem turn_frame {payload : List UInt8} (h : payload.length + 4 ≤ 2048) (rest : List UInt8) :
    turn (frame payload ++ rest) =
      some ((expected payload : Option (Callback α)).toList, (frame payload).length) := by
  have htotal := totalLength_frame h rest
  have hlength : (frame payload ++ rest).length = payload.length + 4 + rest.length := by
    rw [List.length_append, length_frame]
  have hlong : ¬(frame payload ++ rest).length < kHeaderLength := by
    rw [hlength, kHeaderLength]
    omega
  have hsof : ¬((frame payload ++ rest).getD 0 0 ≠ kSof1 ∨ (frame payload ++ rest).getD 1 0 ≠ kSof2) :=
    fun h => h.elim (fun h => h rfl) fun h => h rfl
  have hpayload : ((frame payload ++ rest).take (payload.length + 4)).drop kHeaderLength = payload := by
    rw [List.take_left' (length_frame payload)]
    rfl
  have hmax : ¬payload.length + 4 > kMaxFrameLength := Nat.not_lt.mpr h
  unfold turn
  rw [if_neg hlong, if_neg hsof, htotal, if_neg hmax, if_neg (by omega), hpayload,
    processFrame_expected, length_frame]

theorem drains_frames {payloads : List (List UInt8)}
    (h : ∀ payload ∈ payloads, payload.length + 4 ≤ 2048) :
    Drains turn (payloads.flatMap frame) (payloads.filterMap (expected (α := α))) [] := by
  induction payloads with
  | nil => exact Drains.stop turn_nil
  | cons payload payloads ih =>
    obtain ⟨hp, hrest⟩ := List.forall_mem_cons.mp h
    have hdrop : ((payload :: payloads).flatMap frame).drop (frame payload).length =
        payloads.flatMap frame := by
      rw [List.flatMap_cons, List.drop_left]
    have hnext := Drains.next (turn_frame (α := α) hp (payloads.flatMap frame))
      (by rw [← List.flatMap_cons, hdrop]; exact ih hrest)
    rw [List.flatMap_cons, List.filterMap_cons]
    cases hexpected : (expected payload : Option (Callback α)) with
    | none =>
      rw [hexpected] at hnext
      exact hnext
    | some callback =>
      rw [hexpected] at hnext
      exact hnext

theorem drains_garbage {garbage stream rest : List UInt8} {out : List (Callback α)}
    (hgarbage : ¬[kSof1, kSof2] <:+: garbage) (hstream : ∀ next ∈ stream.head?, next ≠ kSof2)
    (h : Drains turn stream out rest) : ∃ rest, Drains turn (garbage ++ stream) out rest := by
  induction garbage with
  | nil => exact ⟨rest, h⟩
  | cons value garbage ih =>
    obtain ⟨last, hlast⟩ := ih fun hpair => hgarbage (hpair.trans (List.suffix_cons _ _).isInfix)
    by_cases hlength : kHeaderLength ≤ (value :: garbage ++ stream).length
    · have hsof : (value :: garbage ++ stream).getD 0 0 ≠ kSof1 ∨
          (value :: garbage ++ stream).getD 1 0 ≠ kSof2 := by
        by_contra hboth
        push Not at hboth
        obtain ⟨hfirst, hsecond⟩ := hboth
        cases garbage with
        | nil =>
          cases stream with
          | nil => cases hsecond
          | cons next stream => exact hstream next rfl hsecond
        | cons second garbage =>
          obtain rfl : value = kSof1 := hfirst
          obtain rfl : second = kSof2 := hsecond
          exact hgarbage ⟨[], garbage, rfl⟩
      exact ⟨last, Drains.next (turn_drop hlength hsof) hlast⟩
    · have hshort := Nat.le_of_lt_succ (Nat.lt_of_not_le hlength)
      have hnone : (turn stream : Option (List (Callback α) × Nat)) = none := by
        refine turn_short (Nat.le_trans ?_ hshort)
        rw [List.length_append]
        exact Nat.le_add_left _ _
      obtain ⟨rfl, -⟩ := h.unique (Drains.stop hnone)
      exact ⟨_, Drains.stop (turn_short hshort)⟩

/-- Behind garbage without a pair of start bytes every frame is read, whatever it carries. -/
theorem feedAll_frames (garbage : List UInt8) (payloads chunks : List (List UInt8))
    (hgarbage : ¬[kSof1, kSof2] <:+: garbage)
    (hpayloads : ∀ payload ∈ payloads, payload.length + 4 ≤ 2048) (hchunks : Admissible chunks)
    (hflatten : chunks.flatten = garbage ++ payloads.flatMap frame) :
    ∃ rest, feedAll [] chunks = some (payloads.filterMap (expected (α := α)), rest) := by
  have hhead : ∀ next ∈ (payloads.flatMap frame).head?, next ≠ kSof2 := by
    cases payloads with
    | nil => exact fun next h => by cases h
    | cons payload payloads =>
      rintro next ⟨⟩
      decide
  obtain ⟨callbacks, rest, hrun, hdrains⟩ := feedAll_drains (α := α) turn_nil
    fun chunk hc => (hchunks chunk hc).2
  obtain ⟨last, hlast⟩ := drains_garbage hgarbage hhead (drains_frames (α := α) hpayloads)
  rw [List.nil_append, hflatten] at hdrains
  obtain ⟨rfl, rfl⟩ := hdrains.unique hlast
  exact ⟨_, hrun⟩

/-- Garbage that ends with a start byte, a payload with start bytes in it, and a bad packet. -/
theorem feedAll_frames_sticky :
    ∃ rest, feedAll [] [[7, 0xA5], [0xA5, 0x5A, 0, 3, 9, 0xA5, 0x5A, 0xA5], [0x5A, 0, 2, 1, 5]] =
      some ([[9, 0xA5, 0x5A], [1, 5]].filterMap (expected (α := ℚ)), rest) := by
  refine feedAll_frames [7, 0xA5] [[9, 0xA5, 0x5A], [1, 5]] _ (by decide) (by decide) ?_ rfl
  unfold Admissible
  decide

end DeviceManager.SmitFrames
