import DeviceManager.HipnucSoundness
import DeviceManager.SerialDriver

namespace DeviceManager.Ch020Sessions

open LittleEndian Transducer Hipnuc HipnucFrames HipnucSoundness Lockstep SerialDriver

structure Ch020ImuConfig where
  readChunkSize : Nat

/-- What lives longer than the port: the decoder, and the frames for `snapshot`. -/
structure Ch020Decoding where
  decoder : HipnucDecoder
  frameCount : Nat

/-- `Ch020ImuDriver`: nothing is done to the decoder when the port is opened. -/
def ch020ImuDriver : Device Ch020ImuConfig Ch020Decoding Delivery where
  readChunkSize config := config.readChunkSize
  setup _ s := s
  opened s := { s with frameCount := 0 }
  cleaned s := s
  reopened s := s
  feed s chunk :=
    let fed := feed s.decoder chunk
    (fed.1, ⟨fed.2, s.frameCount + fed.1.length⟩)

def initial (_ : Ch020ImuConfig) : Ch020Decoding := ⟨.create, 0⟩

abbrev Ch020ImuDriver := Driver Ch020ImuConfig Ch020Decoding

def Between (d : Ch020ImuDriver) : Prop := d.device.decoder.state = .sof1

def Same (d e : HipnucDecoder) : Prop :=
  d.state = e.state ∧
    match d.state with
    | .sof1 | .sof2 | .len1 => True
    | .len2 => d.payloadLen = e.payloadLen
    | .crc1 => d.payloadLen = e.payloadLen ∧ d.buf = e.buf
    | .crc2 => d.payloadLen = e.payloadLen ∧ d.buf = e.buf ∧ d.crcLo = e.crcLo
    | .data => d.payloadLen = e.payloadLen ∧ d.buf = e.buf ∧ d.crcRx = e.crcRx

theorem same_refl (d : HipnucDecoder) : Same d d := by
  obtain ⟨state, payloadLen, crcLo, crcRx, buf⟩ := d
  cases state <;> simp [Same]

theorem feedByte_same {d e : HipnucDecoder} (h : Same d e) (b : UInt8) :
    (feedByte d b).1 = (feedByte e b).1 ∧ Same (feedByte d b).2 (feedByte e b).2 := by
  obtain ⟨state, payloadLen, crcLo, crcRx, buf⟩ := d
  obtain ⟨state', payloadLen', crcLo', crcRx', buf'⟩ := e
  obtain ⟨hstate, h⟩ := h
  obtain rfl : state = state' := hstate
  cases state with
  | sof1 =>
    refine ⟨rfl, ?_⟩
    by_cases hb : b = kSof1
    · simp only [feedByte, if_pos hb]
      exact ⟨rfl, trivial⟩
    · simp only [feedByte, if_neg hb]
      exact ⟨rfl, trivial⟩
  | sof2 =>
    refine ⟨rfl, rfl, ?_⟩
    by_cases hb : b = kSof2
    · simp only [feedByte, if_pos hb]
    · simp only [feedByte, if_neg hb]
  | len1 => exact ⟨rfl, rfl, rfl⟩
  | len2 =>
    obtain rfl : payloadLen = payloadLen' := h
    exact ⟨rfl, rfl, rfl, rfl⟩
  | crc1 =>
    obtain ⟨rfl, rfl⟩ : payloadLen = payloadLen' ∧ buf = buf' := h
    exact ⟨rfl, rfl, rfl, rfl, rfl⟩
  | crc2 =>
    -- the received checksum is overwritten, so that the two decoders are the same from here on
    obtain ⟨rfl, rfl, rfl⟩ : payloadLen = payloadLen' ∧ buf = buf' ∧ crcLo = crcLo' := h
    exact ⟨rfl, same_refl _⟩
  | data =>
    obtain ⟨rfl, rfl, rfl⟩ : payloadLen = payloadLen' ∧ buf = buf' ∧ crcRx = crcRx' := h
    by_cases hfull : (buf ++ [b]).length = payloadLen.toNat
    · simp only [feedByte, if_pos hfull, processFrame_eq]
      exact ⟨trivial, rfl, trivial⟩
    · simp only [feedByte, if_neg hfull]
      exact ⟨trivial, rfl, rfl, rfl, rfl⟩

theorem run_same {d e : HipnucDecoder} (h : Same d e) (bytes : List UInt8) :
    (run feedByte d bytes).1 = (run feedByte e bytes).1 ∧
      Same (run feedByte d bytes).2 (run feedByte e bytes).2 := by
  induction bytes generalizing d e with
  | nil => exact ⟨rfl, h⟩
  | cons b bytes ih =>
    obtain ⟨hout, hnext⟩ := feedByte_same h b
    obtain ⟨hrest, hlast⟩ := ih hnext
    rw [run_cons, run_cons, hout, hrest]
    exact ⟨rfl, hlast⟩

theorem same_between {d e : HipnucDecoder} (hd : d.state = .sof1) (he : e.state = .sof1) :
    Same d e := by
  unfold Same
  rw [hd, he]
  exact ⟨rfl, trivial⟩

/-- How many zeros it takes until the next byte ends the frame that the decoder is in. -/
def remaining (d : HipnucDecoder) : Nat :=
  match d.state with
  | .sof1 => 0
  | .sof2 => 1
  | .len1 => 4
  | .len2 => 3 + d.payloadLen.toNat
  | .crc1 => 2 + d.payloadLen.toNat
  | .crc2 => 1 + d.payloadLen.toNat
  | .data => d.payloadLen.toNat - d.buf.length

theorem feedByte_zero {d : HipnucDecoder} (h : Intact d) {n : Nat} (hn : remaining d = n + 2) :
    (feedByte d 0).1 = none ∧ Intact (feedByte d 0).2 ∧ remaining (feedByte d 0).2 = n + 1 := by
  obtain ⟨state, payloadLen, crcLo, crcRx, buf⟩ := d
  cases state with
  | sof1 | sof2 => cases hn
  | len1 =>
    obtain rfl : n = 2 := Nat.succ.inj (Nat.succ.inj hn.symm)
    exact ⟨rfl, (by decide : highByte (0 : UInt8).toUInt16 = 0), rfl⟩
  | len2 =>
    have hzero : payloadLen ||| ((0 : UInt8).toUInt16 <<< 8) = payloadLen := by
      have hshift : (0 : UInt8).toUInt16 <<< 8 = 0 := by decide
      rw [hshift, UInt16.or_zero]
    have hlen : 3 + payloadLen.toNat = n + 2 := hn
    refine ⟨rfl, rfl, ?_⟩
    show 2 + (payloadLen ||| ((0 : UInt8).toUInt16 <<< 8)).toNat = n + 1
    rw [hzero]
    omega
  | crc1 =>
    have hlen : 2 + payloadLen.toNat = n + 2 := hn
    refine ⟨rfl, ⟨h, (by decide : highByte (0 : UInt8).toUInt16 = 0)⟩, ?_⟩
    show 1 + payloadLen.toNat = n + 1
    omega
  | crc2 =>
    obtain ⟨hbuf, -⟩ := h
    obtain rfl : buf = [] := hbuf
    have hlen : 1 + payloadLen.toNat = n + 2 := hn
    have hne : payloadLen ≠ 0 := by
      rintro rfl
      exact absurd hlen (by simp)
    simp only [feedByte, if_neg hne]
    refine ⟨trivial, ?_, ?_⟩
    · show 0 < payloadLen.toNat
      omega
    · show payloadLen.toNat - 0 = n + 1
      omega
  | data =>
    have hlen : payloadLen.toNat - buf.length = n + 2 := hn
    have hopen : ¬(buf ++ [(0 : UInt8)]).length = payloadLen.toNat := by
      rw [List.length_append, List.length_singleton]
      omega
    simp only [feedByte, if_neg hopen]
    refine ⟨trivial, ?_, ?_⟩
    · show (buf ++ [(0 : UInt8)]).length < payloadLen.toNat
      rw [List.length_append, List.length_singleton]
      omega
    · show payloadLen.toNat - (buf ++ [(0 : UInt8)]).length = n + 1
      rw [List.length_append, List.length_singleton]
      omega

theorem feedByte_last {d : HipnucDecoder} (h : Intact d) (hn : remaining d = 1) :
    (feedByte d kSof1).2.state = .sof1 := by
  obtain ⟨state, payloadLen, crcLo, crcRx, buf⟩ := d
  cases state with
  | sof1 | len1 => cases hn
  | sof2 => rfl
  | len2 =>
    have hlen : 3 + payloadLen.toNat = 1 := hn
    omega
  | crc1 =>
    have hlen : 2 + payloadLen.toNat = 1 := hn
    omega
  | crc2 =>
    have hlen : 1 + payloadLen.toNat = 1 := hn
    have hzero : payloadLen = 0 := UInt16.toNat_inj.mp (by simpa using hlen)
    simp only [feedByte, if_pos hzero, processFrame_eq]
  | data =>
    have hlen : payloadLen.toNat - buf.length = 1 := hn
    have hfull : (buf ++ [kSof1]).length = payloadLen.toNat := by
      rw [List.length_append, List.length_singleton]
      omega
    simp only [feedByte, if_pos hfull, processFrame_eq]

theorem remaining_pos {d : HipnucDecoder} (h : Intact d) (hstate : d.state ≠ .sof1) :
    0 < remaining d := by
  obtain ⟨state, payloadLen, crcLo, crcRx, buf⟩ := d
  cases state with
  | sof1 => exact absurd rfl hstate
  | sof2 => exact Nat.one_pos
  | len1 => exact Nat.succ_pos 3
  | len2 | crc1 | crc2 => exact Nat.add_pos_left (by decide) _
  | data => exact Nat.sub_pos_of_lt h

/-- Inside a frame there is a number of zeros after which the next frame is not seen: its first
byte ends the old one. -/
theorem exists_swallow {d : HipnucDecoder} (h : Intact d) (n : Nat) (hn : remaining d = n + 1) :
    ∃ out, ∀ rest, kSof1 ∉ rest →
      (run feedByte d (List.replicate n 0 ++ kSof1 :: rest)).1 = out := by
  induction n generalizing d with
  | zero =>
    refine ⟨(feedByte d kSof1).1.toList, fun rest hrest => ?_⟩
    rw [List.replicate_zero, List.nil_append, run_cons, run_skip (feedByte_last h hn) hrest,
      List.append_nil]
  | succ n ih =>
    obtain ⟨hnone, hintact, hleft⟩ := feedByte_zero h hn
    obtain ⟨out, hout⟩ := ih hintact hleft
    refine ⟨out, fun rest hrest => ?_⟩
    rw [List.replicate_succ, List.cons_append, run_cons, hnone, hout rest hrest]
    rfl

theorem feed_play (s : Ch020Decoding) (chunks : List (List UInt8)) :
    (play ch020ImuDriver.feed s chunks).1 = (run feedByte s.decoder chunks.flatten).1 := by
  induction chunks generalizing s with
  | nil => rfl
  | cons chunk chunks ih =>
    have htail := ih (ch020ImuDriver.feed s chunk).2
    rw [play_cons, List.flatten_cons, run_append, htail]
    rfl

theorem Reachable.intact {d : Ch020ImuDriver} (h : Reachable ch020ImuDriver initial d) :
    Intact d.device.decoder := by
  refine h.invariant (P := fun _ s => Intact s.decoder) (fun _ => trivial) (fun _ _ _ hs => hs)
    (fun _ _ hs => hs) (fun _ _ hs => hs) (fun _ _ hs => hs) fun _ s chunk hs => ?_
  exact run_intact hs chunk

theorem lockstep_same (size : Nat) :
    Lockstep ch020ImuDriver size fun s t => Same s.decoder t.decoder where
  reopened _ _ h := h
  feed _ _ chunk h _ := run_same h chunk

theorem opening_decoder (s : Ch020Decoding) (o : Action Ch020ImuConfig) :
    (opening ch020ImuDriver s o).decoder = s.decoder := by
  cases o <;> rfl

theorem after_singles {d : Ch020ImuDriver} {o : Action Ch020ImuConfig} (ho : Opens d o)
    (hsize : (step ch020ImuDriver d o).2.config.readChunkSize ≠ 0) (bytes : List UInt8) :
    after ch020ImuDriver d o (reads (singles bytes)) = (run feedByte d.device.decoder bytes).1 := by
  rw [after_reads ho (singles_fit hsize bytes), feed_play, opening_decoder, flatten_singles]

/-- The drivers that deliver the packets of a frame of their own session are those whose
decoder stands between two frames: a frame that has begun before swallows the first one. -/
theorem between_of_after {d : Ch020ImuDriver} (hd : Reachable ch020ImuDriver initial d)
    {o : Action Ch020ImuConfig} (ho : Opens d o)
    (hsize : (step ch020ImuDriver d o).2.config.readChunkSize ≠ 0)
    (hall : ∀ n deviceId, deviceId = 0 ∨ deviceId = 1 →
      after ch020ImuDriver d o (reads (singles (List.replicate n 0 ++ wire (zeroPacket deviceId)))) =
        [.ok (packetOf (zeroPacket deviceId))]) : Between d := by
  by_contra hstate
  have hintact := Reachable.intact hd
  have hpos := remaining_pos hintact hstate
  obtain ⟨out, hout⟩ := exists_swallow hintact (remaining d.device.decoder - 1) (by omega)
  -- what the old frame delivers does not depend on the device of the new one
  have hpacket : ∀ deviceId, deviceId = 0 ∨ deviceId = 1 →
      out = [.ok (packetOf (zeroPacket deviceId))] := by
    intro deviceId hid
    obtain ⟨rest, hwire, hquiet⟩ := wire_zeroPacket deviceId hid
    rw [← hall (remaining d.device.decoder - 1) deviceId hid, after_singles ho hsize, hwire,
      hout rest hquiet]
  have hids := (hpacket 0 (Or.inl rfl)).symm.trans (hpacket 1 (Or.inr rfl))
  have := congrArg ImuSolPacket.deviceId (Except.ok.inj (List.cons.inj hids).1)
  exact absurd this (by decide)

/-- A session delivers the same as that of any driver that is opened between two frames exactly
when it is opened between two frames itself, or has no room to read. -/
theorem session_iff {d : Ch020ImuDriver} (hd : Reachable ch020ImuDriver initial d)
    {o : Action Ch020ImuConfig} (ho : Opens d o) :
    (∀ e, Reachable ch020ImuDriver initial e → Opens e o → Between e →
      (step ch020ImuDriver e o).2.config = (step ch020ImuDriver d o).2.config →
      ∀ later, (∀ a ∈ later, InSession a) →
        after ch020ImuDriver d o later = after ch020ImuDriver e o later) ↔
      (step ch020ImuDriver d o).2.config.readChunkSize = 0 ∨ Between d := by
  constructor
  · intro hall
    refine or_iff_not_imp_left.mpr fun hsize => between_of_after hd ho hsize ?_
    intro n deviceId hid
    -- the other driver was opened before and has read nothing
    let config := (step ch020ImuDriver d o).2.config
    obtain ⟨heo, hconfig⟩ := interrupted_opens initial ho (Or.inl (rfl : ([] : List UInt8) = []))
    have hzeros : kSof1 ∉ List.replicate n 0 := fun hm =>
      absurd (List.eq_of_mem_replicate hm) (by decide)
    have hsize' : (step ch020ImuDriver (interrupted ch020ImuDriver initial config [])
        o).2.config.readChunkSize ≠ 0 := by
      rw [hconfig]
      exact hsize
    have hclean : (interrupted ch020ImuDriver initial config []).device.decoder = .create := rfl
    rw [hall _ (interrupted_reachable _ config []) heo rfl hconfig _ (inSession_reads _),
      after_singles heo hsize', hclean, run_append, run_skip rfl hzeros, run_zeroPacket rfl,
      List.nil_append]
  · intro hcond e _ heo hbetween hconfig later hlater
    obtain hsize | hstate := hcond
    · have hsize' : ch020ImuDriver.readChunkSize (step ch020ImuDriver e o).2.config = 0 := by
        rw [hconfig]
        exact hsize
      rw [after_mute hsize' hlater]
      exact after_mute hsize hlater
    · have hsame : Same (opening ch020ImuDriver d.device o).decoder
          (opening ch020ImuDriver e.device o).decoder := by
        rw [opening_decoder, opening_decoder]
        exact same_between hstate hbetween
      have halike := opens_alike (R := fun s t => Same s.decoder t.decoder) ho heo hconfig.symm hsame
      rw [after, after, play_alike (lockstep_same _) halike hlater]

/-- Three bytes of a frame, and then the port failed. -/
def cutOff : Ch020ImuDriver := interrupted ch020ImuDriver initial ⟨256⟩ [0x5A, 0xA5, 0x4C]

theorem session_iff_cutOff :
    (∀ e, Reachable ch020ImuDriver initial e → Opens e (.reopen none) → Between e →
      (step ch020ImuDriver e (.reopen none)).2.config =
        (step ch020ImuDriver cutOff (.reopen none)).2.config →
      ∀ later, (∀ a ∈ later, InSession a) →
        after ch020ImuDriver cutOff (.reopen none) later =
          after ch020ImuDriver e (.reopen none) later) ↔
      (step ch020ImuDriver cutOff (.reopen none)).2.config.readChunkSize = 0 ∨ Between cutOff :=
  session_iff (interrupted_reachable _ _ _) ⟨rfl, rfl, rfl⟩

/-- One byte of a frame before the fault, and the first packet after it is lost. -/
theorem session_spliced :
    ¬∀ (d e : Ch020ImuDriver) (o : Action Ch020ImuConfig),
      Reachable ch020ImuDriver initial d → Reachable ch020ImuDriver initial e →
      Opens d o → Opens e o →
      (step ch020ImuDriver e o).2.config = (step ch020ImuDriver d o).2.config →
      ∀ later, (∀ a ∈ later, InSession a) →
        after ch020ImuDriver d o later = after ch020ImuDriver e o later := by
  intro hall
  have hequal := hall (interrupted ch020ImuDriver initial ⟨256⟩ [0x5A])
    (interrupted ch020ImuDriver initial ⟨256⟩ []) (.reopen none)
    (interrupted_reachable _ _ _) (interrupted_reachable _ _ _) ⟨rfl, rfl, rfl⟩ ⟨rfl, rfl, rfl⟩ rfl
    (reads (singles (wire (zeroPacket 0)))) (inSession_reads _)
  have hopens : Opens (interrupted ch020ImuDriver initial ⟨256⟩ [0x5A]) (.reopen none) :=
    ⟨rfl, rfl, rfl⟩
  have hopens' : Opens (interrupted ch020ImuDriver initial ⟨256⟩ []) (.reopen none) :=
    ⟨rfl, rfl, rfl⟩
  have hsize : ((256 : Nat) ≠ 0) := by decide
  rw [after_singles hopens hsize, after_singles hopens' hsize] at hequal
  have hlost : (run feedByte { HipnucDecoder.create with state := .sof2 }
      (wire (zeroPacket 0))).1 = (run feedByte .create (wire (zeroPacket 0))).1 := hequal
  rw [run_lost, run_zeroPacket rfl] at hlost
  cases hlost

end DeviceManager.Ch020Sessions
