import DeviceManager.HipnucFrames

namespace DeviceManager.HipnucSoundness

open LittleEndian Transducer Hipnuc HipnucFrames

/-- The bytes of the frame that the decoder is in. -/
def pending (d : HipnucDecoder) : List UInt8 :=
  match d.state with
  | .sof1 => []
  | .sof2 => [kSof1]
  | .len1 => [kSof1, kSof2]
  | .len2 => [kSof1, kSof2, lowByte d.payloadLen]
  | .crc1 => header d.payloadLen
  | .crc2 => header d.payloadLen ++ [lowByte d.crcLo]
  | .data => header d.payloadLen ++ [lowByte d.crcRx, highByte d.crcRx] ++ d.buf

/-- What the fields of the decoder hold, by its state: those of an earlier frame are not read. -/
def Intact (d : HipnucDecoder) : Prop :=
  match d.state with
  | .sof1 | .sof2 | .len1 => True
  | .len2 => highByte d.payloadLen = 0
  | .crc1 => d.buf = []
  | .crc2 => d.buf = [] ∧ highByte d.crcLo = 0
  | .data => d.buf.length < d.payloadLen.toNat

/-- The stream holds the frames of these payloads, one behind the other. -/
inductive Carries : List UInt8 → List (List UInt8) → Prop
  | nil : Carries [] []
  | skip {stream : List UInt8} {payloads : List (List UInt8)} (b : UInt8)
      (h : Carries stream payloads) : Carries (b :: stream) payloads
  | frame {stream : List UInt8} {payloads : List (List UInt8)} {payload : List UInt8}
      (hd : Delivered payload) (hmax : payload.length < 65536) (h : Carries stream payloads) :
      Carries (wire payload ++ stream) (payload :: payloads)

theorem Carries.skip_append {stream : List UInt8} {payloads : List (List UInt8)}
    (skipped : List UInt8) (h : Carries stream payloads) : Carries (skipped ++ stream) payloads := by
  induction skipped with
  | nil => exact h
  | cons b skipped ih => exact ih.skip b

/-- A step keeps or drops the bytes of the frame, or the frame is complete and is delivered. -/
inductive Reads (d : HipnucDecoder) (b : UInt8) : Option Delivery × HipnucDecoder → Prop
  | waits {next : HipnucDecoder} (skipped : List UInt8) (hi : Intact next)
      (hp : pending d ++ [b] = skipped ++ pending next) : Reads d b (none, next)
  | delivers {next : HipnucDecoder} {payload : List UInt8} (hi : Intact next)
      (hd : Delivered payload) (hmax : payload.length < 65536)
      (hp : pending d ++ [b] = wire payload ++ pending next) :
      Reads d b (some (.ok (packetOf payload)), next)

/-- A complete frame is delivered, or dropped as a whole. -/
theorem reads_frame {d e : HipnucDecoder} {b : UInt8}
    (hlength : e.buf.length = e.payloadLen.toNat)
    (hp : pending d ++ [b] = header e.payloadLen ++ [lowByte e.crcRx, highByte e.crcRx] ++ e.buf) :
    Reads d b (processFrame e) := by
  have hlen : UInt16.ofNat e.buf.length = e.payloadLen := by
    rw [hlength, UInt16.ofNat_toNat]
  rw [processFrame_eq]
  by_cases hcrc : checksum e.payloadLen e.buf = e.crcRx
  · rw [if_pos hcrc, outcome]
    by_cases hd : Delivered e.buf
    · rw [if_pos hd]
      refine .delivers trivial hd ?_ ?_
      · rw [hlength]
        exact UInt16.toNat_lt _
      · rw [hp, ← hcrc, wire, hlen]
        exact (List.append_nil _).symm
    · rw [if_neg hd]
      exact .waits (pending d ++ [b]) trivial (List.append_nil _).symm
  · rw [if_neg hcrc]
    exact .waits (pending d ++ [b]) trivial (List.append_nil _).symm

theorem feedByte_reads {d : HipnucDecoder} (h : Intact d) (b : UInt8) : Reads d b (feedByte d b) := by
  obtain ⟨state, payloadLen, crcLo, crcRx, buf⟩ := d
  cases state with
  | sof1 =>
    by_cases hb : b = kSof1
    · rw [hb]
      exact .waits [] trivial rfl
    · simp only [feedByte, if_neg hb]
      exact .waits [b] trivial rfl
  | sof2 =>
    by_cases hb : b = kSof2
    · rw [hb]
      exact .waits [] trivial rfl
    · simp only [feedByte, if_neg hb]
      exact .waits [kSof1, b] trivial rfl
  | len1 =>
    refine .waits [] ?_ ?_
    · show highByte b.toUInt16 = 0
      rw [← word_zero, highByte_word]
    · show [kSof1, kSof2, b] = [kSof1, kSof2, lowByte b.toUInt16]
      rw [← word_zero, lowByte_word]
  | len2 =>
    refine .waits [] rfl ?_
    show [kSof1, kSof2, lowByte payloadLen, b] = header (payloadLen ||| (b.toUInt16 <<< 8))
    rw [or_high h, header, lowByte_word, highByte_word]
  | crc1 =>
    refine .waits [] ⟨h, ?_⟩ ?_
    · show highByte b.toUInt16 = 0
      rw [← word_zero, highByte_word]
    · show header payloadLen ++ [b] = header payloadLen ++ [lowByte b.toUInt16]
      rw [← word_zero, lowByte_word]
  | crc2 =>
    obtain ⟨hbuf, hcrc⟩ := h
    have hkept : header payloadLen ++ [lowByte crcLo] ++ [b] = header payloadLen ++
        [lowByte (crcLo ||| (b.toUInt16 <<< 8)), highByte (crcLo ||| (b.toUInt16 <<< 8))] ++ buf := by
      rw [or_high hcrc, lowByte_word, highByte_word, show buf = [] from hbuf]
      rfl
    by_cases hzero : payloadLen = 0
    · simp only [feedByte, if_pos hzero]
      refine reads_frame ?_ hkept
      rw [show buf = [] from hbuf, hzero]
      rfl
    · simp only [feedByte, if_neg hzero]
      refine .waits [] ?_ hkept
      show buf.length < payloadLen.toNat
      have hpositive : payloadLen.toNat ≠ 0 := fun hn => hzero (UInt16.toNat_inj.mp hn)
      rw [show buf = [] from hbuf]
      exact Nat.pos_of_ne_zero hpositive
  | data =>
    have hkept : header payloadLen ++ [lowByte crcRx, highByte crcRx] ++ buf ++ [b] =
        header payloadLen ++ [lowByte crcRx, highByte crcRx] ++ (buf ++ [b]) := List.append_assoc _ _ _
    by_cases hfull : (buf ++ [b]).length = payloadLen.toNat
    · simp only [feedByte, if_pos hfull]
      exact reads_frame hfull hkept
    · simp only [feedByte, if_neg hfull]
      refine .waits [] ?_ hkept
      show (buf ++ [b]).length < payloadLen.toNat
      have hlt : buf.length < payloadLen.toNat := h
      rw [List.length_append, List.length_singleton] at hfull ⊢
      omega

theorem run_intact {d : HipnucDecoder} (h : Intact d) (bytes : List UInt8) :
    Intact (run feedByte d bytes).2 := by
  induction bytes generalizing d with
  | nil => exact h
  | cons b bytes ih =>
    have hreads := feedByte_reads h b
    rw [run_cons]
    generalize feedByte d b = result at hreads
    cases hreads with
    | waits _ hi _ => exact ih hi
    | delivers hi _ _ _ => exact ih hi

theorem run_sound {d : HipnucDecoder} (h : Intact d) (stream : List UInt8) :
    ∃ payloads, Carries (pending d ++ stream) payloads ∧
      (run feedByte d stream).1 = payloads.map fun payload => .ok (packetOf payload) := by
  induction stream generalizing d with
  | nil => exact ⟨[], Carries.nil.skip_append (pending d), rfl⟩
  | cons b stream ih =>
    have hreads := feedByte_reads h b
    have hsplit : pending d ++ b :: stream = pending d ++ [b] ++ stream := by simp
    rw [hsplit, run_cons]
    generalize feedByte d b = result at hreads
    cases hreads with
    | waits skipped hi hp =>
      obtain ⟨payloads, hcarries, hrun⟩ := ih hi
      refine ⟨payloads, ?_, hrun⟩
      rw [hp, List.append_assoc]
      exact hcarries.skip_append skipped
    | delivers hi hd hmax hp =>
      obtain ⟨payloads, hcarries, hrun⟩ := ih hi
      refine ⟨_ :: payloads, ?_, congrArg (_ :: ·) hrun⟩
      rw [hp, List.append_assoc]
      exact hcarries.frame hd hmax

/-- Every packet is that of a frame in the stream, in the order of the frames, and no read went
past a payload. -/
theorem feedAll_sound (chunks : List (List UInt8)) :
    ∃ payloads, Carries chunks.flatten payloads ∧
      (feedAll .create chunks).1 = payloads.map fun payload => .ok (packetOf payload) := by
  rw [feedAll, runChunks_eq]
  exact run_sound (d := .create) trivial _

end DeviceManager.HipnucSoundness
