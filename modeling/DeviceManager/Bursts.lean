import DeviceManager.FrameGrammar
import DeviceManager.ModbusRead
import DeviceManager.ShiftRegister
import Mathlib.Data.List.Forall2

namespace DeviceManager.Bursts

open LittleEndian Stuffing Transducer FrameCodec FrameGrammar ShiftRegister

/-- The register behind `crc16`. -/
def crc16Register : Register 16 := lsbFirst 0xA001#16 (by decide)

/-- The bits of a text in the order in which `crc16` reads them: the least significant bit of each
byte first. -/
abbrev serial (bytes : List UInt8) : List Bool := bytes.flatMap lsbBits

theorem and_one_ne_zero (crc : UInt16) : crc &&& 1 ≠ 0 ↔ crc.toBitVec.getLsbD 0 = true := by
  rw [Ne, ← UInt16.toBitVec_inj, UInt16.toBitVec_and]
  change ¬crc.toBitVec &&& 1#16 = 0#16 ↔ _
  rw [BitVec.and_one_eq_setWidth_ofBool_getLsbD]
  cases crc.toBitVec.getLsbD 0 <;> decide

theorem toBitVec_crc16Bit (crc : UInt16) :
    (crc16Bit crc).toBitVec = crc16Register.shift crc.toBitVec := by
  change _ = lsbShift 0xA001#16 crc.toBitVec
  unfold crc16Bit lsbShift
  by_cases h : crc &&& 1 ≠ 0
  · rw [if_pos h, if_pos ((and_one_ne_zero crc).mp h)]
    rfl
  · rw [if_neg h, if_neg fun hbit => h ((and_one_ne_zero crc).mpr hbit), BitVec.xor_zero]
    rfl

theorem word_lsbBits (b : UInt8) : crc16Register.word 0 (lsbBits b) = b.toUInt16.toBitVec := by
  refine lsbFirst_word _ (by rw [length_lsbBits]; decide) fun i hi => ?_
  rw [UInt8.toBitVec_toUInt16, BitVec.getLsbD_setWidth]
  obtain hlt | hge := Nat.lt_or_ge i 8
  · rw [getD_lsbBits b hlt]
    simp [hi]
  · rw [BitVec.getLsbD_of_ge _ _ hge, List.getD_eq_default _ _ (by simpa using hge), Bool.and_false]

theorem toBitVec_crc16Byte (crc : UInt16) (value : UInt8) :
    (crc16Byte crc value).toBitVec =
      crc16Register.shift^[8] (crc.toBitVec ^^^ crc16Register.word 0 (lsbBits value)) := by
  have hsemi : Function.Semiconj UInt16.toBitVec crc16Bit crc16Register.shift := toBitVec_crc16Bit
  rw [word_lsbBits, ← UInt16.toBitVec_xor]
  exact hsemi.iterate_right 8 _

theorem run_serial (crc : UInt16) (bytes : List UInt8) :
    crc16Register.run crc.toBitVec (serial bytes) = (bytes.foldl crc16Byte crc).toBitVec := by
  rw [← foldl_expand crc16Register length_lsbBits _ _ (by decide)]
  induction bytes generalizing crc with
  | nil => rfl
  | cons b bytes ih => rw [List.foldl_cons, List.foldl_cons, ← toBitVec_crc16Byte, ih]

theorem word_serial (low high : UInt8) :
    crc16Register.word 0 (serial [low, high]) = (word low high).toBitVec := by
  refine lsbFirst_word _ (by rw [length_expand length_lsbBits]; rfl) fun i hi => ?_
  rw [getD_expand length_lsbBits _ (by simpa using hi), getD_lsbBits _ (Nat.mod_lt _ (by decide)),
    word, UInt16.toBitVec_or, UInt16.toBitVec_shiftLeft, UInt8.toBitVec_toUInt16,
    UInt8.toBitVec_toUInt16, BitVec.getLsbD_or]
  obtain hlt | hge := Nat.lt_or_ge i 8
  · rw [Nat.div_eq_of_lt hlt, Nat.mod_eq_of_lt hlt]
    simp [hlt, hi]
  · rw [show i / 8 = 1 by omega, show i % 8 = i - 8 by omega]
    have hnot : ¬i < 8 := by omega
    simp [hnot, hi, BitVec.getLsbD_of_ge low.toBitVec i hge]

theorem run_checked {body : List UInt8} {low high : UInt8} (h : crc16 body = word low high) :
    crc16Register.run 0xFFFF#16 (serial (body ++ [low, high])) = 0#16 := by
  have hbody : crc16Register.run 0xFFFF#16 (serial body) = (crc16 body).toBitVec :=
    run_serial 0xFFFF body
  rw [serial, List.flatMap_append, crc16Register.run_check 0#16 (by rfl)]
  · rfl
  · change crc16Register.word 0 (serial [low, high]) = _
    rw [word_serial, hbody, h, BitVec.xor_zero]

/-- Of two checked texts that a burst of sixteen bits takes into each other there is only one. -/
theorem eq_of_checked {xs ys : List UInt8} (hburst : Burst 16 (serial xs) (serial ys))
    (hxs : crc16Register.run 0xFFFF#16 (serial xs) = 0#16)
    (hys : crc16Register.run 0xFFFF#16 (serial ys) = 0#16) : xs = ys := by
  apply expand_injective length_lsbBits lsbBits_injective
  exact crc16Register.eq_of_burst hburst (hxs.trans hys.symm)

theorem run_frameBody (frame : SerialFrame) :
    crc16Register.run 0xFFFF#16 (serial (frameBody frame)) = 0#16 :=
  run_checked (word_bytes _).symm

/-- What passes the checks of `finish_frame` is the body of the frame that comes out. -/
theorem finishFrame_checked {buffer : List UInt8} {frame : SerialFrame}
    (h : finishFrame buffer = some frame) :
    crc16Register.run 0xFFFF#16 (serial buffer) = 0#16 := by
  match buffer with
  | [] | [_] | [_, _] => cases h
  | frameType :: sequence :: size :: rest =>
    simp only [finishFrame] at h
    split_ifs at h with hshort hlength hcrc
    push Not at hlength hcrc
    have hrest : rest.length = size.toNat + 2 := by
      have hbuffer := hlength.1
      simp only [List.length_cons] at hbuffer
      omega
    have hdrop : (rest.drop size.toNat).length = 2 := by simp [hrest]
    obtain ⟨low, high, hlast⟩ := List.length_eq_two.mp hdrop
    have hsplit : rest = rest.take size.toNat ++ [low, high] := by
      rw [← hlast, List.take_append_drop]
    have htake : (rest.take size.toNat).length = size.toNat := by simp [hrest]
    have hlow : rest.getD size.toNat 0 = low := by
      rw [hsplit, List.getD_append_right _ _ _ _ htake.le, htake, Nat.sub_self]
      rfl
    have hhigh : rest.getD (size.toNat + 1) 0 = high := by
      rw [hsplit, List.getD_append_right _ _ _ _ (by omega), htake, Nat.add_sub_cancel_left]
      rfl
    rw [hlow, hhigh, Nat.add_comm 3, List.take_succ_cons, List.take_succ_cons,
      List.take_succ_cons] at hcrc
    rw [hsplit]
    have hrun := run_checked hcrc
    exact hrun

theorem finishFrame_damaged {frame : SerialFrame} {damaged : List UInt8}
    (hburst : Burst 16 (serial (frameBody frame)) (serial damaged))
    (hne : damaged ≠ frameBody frame) : finishFrame damaged = none := by
  cases h : finishFrame damaged with
  | none => rfl
  | some accepted =>
    exact absurd (eq_of_checked hburst (run_frameBody frame) (finishFrame_checked h)).symm hne

/-- The control bytes of two texts stand at the same places. -/
def SameControl (xs ys : List UInt8) : Prop :=
  List.Forall₂ (fun x y => (x = kFrameSof ↔ y = kFrameSof) ∧ (x = kFrameEsc ↔ y = kFrameEsc)) xs ys

theorem take_serial_cons (b : UInt8) (bytes : List UInt8) (n : Nat) :
    (serial (b :: bytes)).take n = (lsbBits b).take n ++ (serial bytes).take (n - 8) :=
  List.take_append

theorem drop_serial_cons (b : UInt8) (bytes : List UInt8) (n : Nat) :
    (serial (b :: bytes)).drop n = (lsbBits b).drop n ++ (serial bytes).drop (n - 8) :=
  List.drop_append

theorem take_serial_inj {b b' : UInt8} {bytes bytes' : List UInt8} {n : Nat}
    (h : (serial (b :: bytes)).take n = (serial (b' :: bytes')).take n) :
    (lsbBits b).take n = (lsbBits b').take n ∧
      (serial bytes).take (n - 8) = (serial bytes').take (n - 8) := by
  rw [take_serial_cons, take_serial_cons] at h
  exact List.append_inj h (by simp)

theorem drop_serial_inj {b b' : UInt8} {bytes bytes' : List UInt8} {n : Nat}
    (h : (serial (b :: bytes)).drop n = (serial (b' :: bytes')).drop n) :
    (lsbBits b).drop n = (lsbBits b').drop n ∧
      (serial bytes).drop (n - 8) = (serial bytes').drop (n - 8) := by
  rw [drop_serial_cons, drop_serial_cons] at h
  exact List.append_inj h (by simp)

theorem window_cons {us vs : List UInt8} {m k : Nat} (b : UInt8)
    (ht : (serial us).take m = (serial vs).take m)
    (hd : (serial us).drop (m + k) = (serial vs).drop (m + k)) :
    (serial (b :: us)).take (m + 8) = (serial (b :: vs)).take (m + 8) ∧
      (serial (b :: us)).drop (m + 8 + k) = (serial (b :: vs)).drop (m + 8 + k) := by
  constructor
  · rw [take_serial_cons, take_serial_cons, Nat.add_sub_cancel, ht]
  · rw [drop_serial_cons, drop_serial_cons, Nat.sub_add_comm (Nat.le_add_left 8 m),
      Nat.add_sub_cancel, hd]

theorem take_xor {b b' : UInt8} {n : Nat} (h : (lsbBits b).take n = (lsbBits b').take n)
    (m : UInt8) : (lsbBits (b ^^^ m)).take n = (lsbBits (b' ^^^ m)).take n := by
  rw [lsbBits_xor, lsbBits_xor, List.take_zipWith, List.take_zipWith, h]

theorem drop_xor {b b' : UInt8} {n : Nat} (h : (lsbBits b).drop n = (lsbBits b').drop n)
    (m : UInt8) : (lsbBits (b ^^^ m)).drop n = (lsbBits (b' ^^^ m)).drop n := by
  rw [lsbBits_xor, lsbBits_xor, List.drop_zipWith, List.drop_zipWith, h]

/-- Two texts with their escapes at the same places, and what is left of both without them. -/
inductive Aligned : List UInt8 → List UInt8 → List UInt8 → List UInt8 → Prop
  | nil : Aligned [] [] [] []
  | cut : Aligned [kFrameEsc] [kFrameEsc] [] []
  | plain {x y : UInt8} {xs ys us vs : List UInt8} :
    Aligned xs ys us vs → Aligned (x :: xs) (y :: ys) (x :: us) (y :: vs)
  | escaped {x y : UInt8} {xs ys us vs : List UInt8} : Aligned xs ys us vs →
    Aligned (kFrameEsc :: x :: xs) (kFrameEsc :: y :: ys) ((x ^^^ kFrameXor) :: us)
      ((y ^^^ kFrameXor) :: vs)

theorem SameControl.aligned {xs ys : List UInt8} (h : SameControl xs ys) :
    Aligned xs ys (unstuff control xs) (unstuff control ys) := by
  induction xs using unstuff.induct control generalizing ys with
  | case1 =>
    cases h
    exact .nil
  | case2 =>
    obtain _ | ⟨⟨-, hesc⟩, ⟨⟩⟩ := h
    rw [hesc.mp rfl]
    exact .cut
  | case3 x hx =>
    obtain _ | ⟨⟨-, hesc⟩, ⟨⟩⟩ := h
    rw [unstuff_plain control hx, unstuff_plain control (mt hesc.mpr hx)]
    exact .plain .nil
  | case4 x rest ih =>
    obtain _ | ⟨⟨-, hesc⟩, _ | ⟨-, hrest⟩⟩ := h
    rw [hesc.mp rfl]
    exact .escaped (ih hrest)
  | case5 x next rest hx ih =>
    obtain _ | ⟨⟨-, hesc⟩, hrest⟩ := h
    rw [unstuff_plain control hx, unstuff_plain control (mt hesc.mpr hx)]
    exact .plain (ih hrest)

namespace Aligned

variable {xs ys us vs : List UInt8} (h : Aligned xs ys us vs)
include h

theorem length : us.length = vs.length := by
  induction h with
  | nil => rfl
  | cut => rfl
  | plain _ ih => exact congrArg Nat.succ ih
  | escaped _ ih => exact congrArg Nat.succ ih

/-- Without their escapes the texts still differ if they did. -/
theorem eq (heq : us = vs) : xs = ys := by
  induction h with
  | nil => rfl
  | cut => rfl
  | plain _ ih =>
    obtain ⟨rfl, hrest⟩ := List.cons.inj heq
    rw [ih hrest]
  | escaped _ ih =>
    obtain ⟨hbyte, hrest⟩ := List.cons.inj heq
    rw [Function.Involutive.injective control.flip_flip hbyte, ih hrest]

theorem drop {k : Nat} (hd : (serial xs).drop k = (serial ys).drop k) :
    (serial us).drop k = (serial vs).drop k := by
  induction h generalizing k with
  | nil => rfl
  | cut => rfl
  | plain _ ih =>
    obtain ⟨hbyte, hd⟩ := drop_serial_inj hd
    rw [drop_serial_cons, drop_serial_cons, hbyte, ih hd]
  | escaped _ ih =>
    obtain ⟨-, hd⟩ := drop_serial_inj hd
    obtain ⟨hbyte, hd⟩ := drop_serial_inj hd
    rw [drop_serial_cons, drop_serial_cons, drop_xor (drop_mono hbyte (Nat.sub_le _ _)),
      ih (drop_mono hd (Nat.sub_le _ _))]

theorem burst {k : Nat} (hburst : Burst k (serial xs) (serial ys)) :
    Burst k (serial us) (serial vs) := by
  obtain ⟨-, n, ht, hd⟩ := burst_iff.mp hburst
  refine burst_iff.mpr ⟨?_, ?_⟩
  · rw [length_expand length_lsbBits, length_expand length_lsbBits, h.length]
  · clear hburst
    induction h generalizing n with
    | nil => exact ⟨0, rfl, rfl⟩
    | cut => exact ⟨0, rfl, rfl⟩
    | @plain x y xs ys us vs hrest ih =>
      obtain ⟨hbyte, ht⟩ := take_serial_inj ht
      obtain ⟨hbyte', hd⟩ := drop_serial_inj hd
      rcases Nat.lt_or_ge n 8 with hlt | hge
      · -- the burst begins in this byte
        refine ⟨n, ?_, ?_⟩
        · rw [take_serial_cons, take_serial_cons, hbyte, Nat.sub_eq_zero_of_le hlt.le]
          rfl
        · rw [drop_serial_cons, drop_serial_cons, hbyte', hrest.drop hd]
      · rw [List.take_of_length_le (by simpa using hge), List.take_of_length_le (by simpa using hge)]
          at hbyte
        obtain ⟨m, htm, hdm⟩ := ih (n - 8) ht (by rwa [← Nat.sub_add_comm hge])
        rw [lsbBits_injective hbyte]
        exact ⟨m + 8, window_cons y htm hdm⟩
    | @escaped x y xs ys us vs hrest ih =>
      obtain ⟨-, ht⟩ := take_serial_inj ht
      obtain ⟨hbyte, ht⟩ := take_serial_inj ht
      obtain ⟨-, hd⟩ := drop_serial_inj hd
      obtain ⟨hbyte', hd⟩ := drop_serial_inj hd
      rcases Nat.lt_or_ge n 16 with hlt | hge
      · -- it begins in the escape or in the byte behind it
        refine ⟨n - 8, ?_, ?_⟩
        · rw [take_serial_cons, take_serial_cons, take_xor hbyte,
            Nat.sub_eq_zero_of_le (Nat.sub_le_iff_le_add.mpr hlt.le)]
          rfl
        · rw [drop_serial_cons, drop_serial_cons, drop_xor (drop_mono hbyte' (by omega)),
            hrest.drop (drop_mono hd (by omega))]
      · rw [List.take_of_length_le (by simp; omega), List.take_of_length_le (by simp; omega)]
          at hbyte
        obtain ⟨m, htm, hdm⟩ := ih (n - 8 - 8) ht (by
          rwa [show n - 8 - 8 + k = n + k - 8 - 8 by omega])
        rw [lsbBits_injective hbyte]
        exact ⟨m + 8, window_cons _ htm hdm⟩

end Aligned

theorem SameControl.sof_mem_iff {xs ys : List UInt8} (h : SameControl xs ys) :
    kFrameSof ∈ xs ↔ kFrameSof ∈ ys := by
  induction h with
  | nil => exact Iff.rfl
  | cons hxy _ ih => rw [List.mem_cons, List.mem_cons, eq_comm, hxy.1, eq_comm, ih]

theorem SameControl.segment {frame : SerialFrame} {damaged : List UInt8}
    (h : SameControl (framed frame) damaged) : ∃ segment,
      damaged = kFrameSof :: (segment ++ [kFrameSof]) ∧ kFrameSof ∉ segment ∧
        SameControl ((frameBody frame).flatMap (stuff control)) segment := by
  obtain _ | ⟨⟨hsof, -⟩, hrest⟩ := h
  obtain rfl := hsof.mp rfl
  rename_i rest
  have hsegment := (List.forall₂_take_append rest _ _ hrest.flip).flip
  have hlast := (List.forall₂_drop_append rest _ _ hrest.flip).flip
  generalize hdrop : rest.drop _ = last at hlast
  obtain _ | ⟨⟨hend, -⟩, ⟨⟩⟩ := hlast
  rw [hend.mp rfl] at hdrop
  refine ⟨rest.take ((frameBody frame).flatMap (stuff control)).length, ?_, ?_, hsegment⟩
  · rw [← hdrop, List.take_append_drop]
  · exact mt (SameControl.sof_mem_iff hsegment).mpr (delimiter_not_mem control _)

/-- What is left of a damaged frame is not accepted. -/
theorem accepted_damaged {frame : SerialFrame} {segment : List UInt8}
    (hcontrol : SameControl ((frameBody frame).flatMap (stuff control)) segment)
    (hburst : Burst 16 (serial ((frameBody frame).flatMap (stuff control))) (serial segment))
    (hne : segment ≠ (frameBody frame).flatMap (stuff control)) :
    accepted (unstuff control segment) = none := by
  have haligned := hcontrol.aligned
  rw [unstuff_flatMap] at haligned
  rw [← finishFrame_accepted]
  exact finishFrame_damaged (haligned.burst hburst) fun hbody => hne (haligned.eq hbody.symm).symm

theorem feed_around (before after : List SerialFrame) {segment : List UInt8}
    (hbefore : ∀ f ∈ before, f.payload.length ≤ kMaxPayloadSize)
    (hafter : ∀ f ∈ after, f.payload.length ≤ kMaxPayloadSize)
    (hsof : kFrameSof ∉ segment) (hnone : accepted (unstuff control segment) = none) :
    (feed .create (before.flatMap framed ++
        (kFrameSof :: (segment ++ [kFrameSof]) ++ after.flatMap framed))).1 = before ++ after := by
  have hsegment := feed_segment hsof [] false
  have hempty : restOf false segment = unstuff control segment := rfl
  rw [List.nil_append, hempty, hnone, Option.toList_none, feed] at hsegment
  have hframes := feed_frames hafter
  rw [feed] at hframes
  have hrest : ∀ d, (feedByte d kFrameSof).1 = none →
      run feedByte d (kFrameSof :: (segment ++ [kFrameSof]) ++ after.flatMap framed) =
        (after, inside []) := fun d hquiet => by
    have hsof : feedByte d kFrameSof = (none, inside []) := Prod.ext hquiet (by rw [feedByte_sof])
    rw [List.cons_append, run_cons, hsof, inside, run_silent hsegment, hframes]
    rfl
  rw [feed]
  cases before with
  | nil => rw [List.flatMap_nil, List.nil_append, hrest .create rfl, List.nil_append]
  | cons first before =>
    have hfirst := feed_framed (hbefore first (List.mem_cons_self ..)) .create
    have hothers := feed_frames fun f hf => hbefore f (List.mem_cons_of_mem _ hf)
    rw [feed] at hfirst hothers
    rw [List.flatMap_cons, List.append_assoc, run_append, hfirst, run_append, hothers,
      hrest (inside []) rfl]
    rfl

/-- A burst of at most sixteen bits on the bytes of a frame, as they stand on the line, costs that
frame and no other, however the line is cut, if it neither makes nor unmakes a control byte. -/
theorem feedAll_damaged (before after : List SerialFrame) (frame : SerialFrame)
    (damaged : List UInt8) (chunks : List (List UInt8))
    (hsize : ∀ f ∈ before ++ after, f.payload.length ≤ kMaxPayloadSize)
    (hburst : Burst 16 (serial (framed frame)) (serial damaged))
    (hcontrol : SameControl (framed frame) damaged) (hne : damaged ≠ framed frame)
    (hchunks : chunks.flatten = before.flatMap framed ++ (damaged ++ after.flatMap framed)) :
    (feedAll .create chunks).1 = before ++ after := by
  obtain ⟨segment, rfl, hsof, hsegment⟩ := hcontrol.segment
  have hinner : Burst 16 (serial ((frameBody frame).flatMap (stuff control))) (serial segment) := by
    change Burst 16 (lsbBits kFrameSof ++ serial (_ ++ _)) (lsbBits kFrameSof ++ serial (_ ++ _))
      at hburst
    have htail := hburst.of_append_left
    rw [serial, serial, List.flatMap_append, List.flatMap_append] at htail
    exact htail.of_append_right
  have hdiffers : segment ≠ (frameBody frame).flatMap (stuff control) := by
    rintro rfl
    exact hne rfl
  rw [feedAll, runChunks_eq, hchunks]
  exact feed_around before after (fun f hf => hsize f (List.mem_append_left _ hf))
    (fun f hf => hsize f (List.mem_append_right _ hf)) hsof
    (accepted_damaged hsegment hinner hdiffers)

/-- In the second of three frames the byte behind an escape is hit. -/
theorem feedAll_damaged_second :
    (feedAll .create [framed ⟨1, 6, [5]⟩ ++ [0x7E, 1, 7, 2, 0x7D, 0x5F, 0x7D, 0x5D, 88, 245, 0x7E],
      framed ⟨1, 8, []⟩]).1 = [⟨1, 6, [5]⟩, ⟨1, 8, []⟩] := by
  refine feedAll_damaged [⟨1, 6, [5]⟩] [⟨1, 8, []⟩] ⟨1, 7, [0x7E, 0x7D]⟩
    [0x7E, 1, 7, 2, 0x7D, 0x5F, 0x7D, 0x5D, 88, 245, 0x7E] _ ?_ ?_ ?_ ?_ ?_
  · decide
  · refine ⟨(serial (framed ⟨1, 7, [0x7E, 0x7D]⟩)).take 40, lsbBits 0x5E, lsbBits 0x5F,
      (serial (framed ⟨1, 7, [0x7E, 0x7D]⟩)).drop 48, ?_⟩
    decide +kernel
  · have hframed : framed ⟨1, 7, [0x7E, 0x7D]⟩ =
        [0x7E, 1, 7, 2, 0x7D, 0x5E, 0x7D, 0x5D, 88, 245, 0x7E] := by decide +kernel
    rw [hframed]
    unfold SameControl
    simp only [List.forall₂_cons, List.forall₂_nil_left_iff]
    decide
  · decide +kernel
  · simp

open SocketCan ModbusRead

theorem run_appendCrc (body : List UInt8) :
    crc16Register.run 0xFFFF#16 (serial (appendCrc body)) = 0#16 :=
  run_checked (word_bytes _).symm

theorem length_response {deviceAddress : UInt8} {registerCount : UInt16} {data bytes : List UInt8}
    (h : IsResponse deviceAddress registerCount data bytes) :
    bytes.length = 2 * registerCount.toNat + 5 := by
  obtain ⟨hdata, -, rfl⟩ := h
  rw [length_appendCrc]
  simp only [List.length_cons, hdata]

theorem readRegisters_response {bus : Bus} {deviceAddress : UInt8}
    {registerAddress registerCount : UInt16} {data : List UInt8}
    (h : readRegisters bus deviceAddress registerAddress registerCount = .ok data) :
    ∃ bytes, bytes <+: bus.fragments.flatten ∧
      IsResponse deviceAddress registerCount data bytes := by
  unfold readRegisters at h
  by_cases hzero : registerCount = 0
  · rw [if_pos hzero] at h
    cases h
  · have hcount : 0 < registerCount := UInt16.pos_iff_ne_zero.mpr hzero
    rw [if_neg hzero] at h
    cases hexchange : exchangeFrame bus (request deviceAddress registerAddress registerCount) with
    | error message =>
      rw [hexchange] at h
      cases h
    | ok bytes =>
      rw [hexchange] at h
      refine ⟨bytes, ?_, (examine_ok hcount).mp h⟩
      unfold exchangeFrame at hexchange
      by_cases hconnected : bus.connected = true
      · cases hsend : sendFrame bus (request deviceAddress registerAddress registerCount) with
        | error message => simp [hconnected, hsend] at hexchange
        | ok _ =>
          simp only [hconnected, hsend, Bool.not_true, Bool.false_eq_true, if_false] at hexchange
          obtain ⟨consumed, ⟨more, hmore⟩, -, rfl⟩ := receive_consumes hexchange
          rw [← hmore, List.flatten_append]
          exact List.prefix_append _ _
      · simp [hconnected] at hexchange

/-- The bits of a text in the order in which a CAN bus sends them: the most significant bit of each
byte first. -/
abbrev onBus (bytes : List UInt8) : List Bool := bytes.flatMap msbBits

theorem drop_onBus_inj {b b' : UInt8} {bytes bytes' : List UInt8} {n : Nat}
    (h : (onBus (b :: bytes)).drop n = (onBus (b' :: bytes')).drop n) :
    (msbBits b).drop n = (msbBits b').drop n ∧
      (onBus bytes).drop (n - 8) = (onBus bytes').drop (n - 8) := by
  rw [onBus, onBus, List.flatMap_cons, List.flatMap_cons, List.drop_append, List.drop_append] at h
  exact List.append_inj h (by simp)

theorem onBus_injective {xs ys : List UInt8} (h : onBus xs = onBus ys) : xs = ys :=
  expand_injective length_msbBits msbBits_injective h

/-- Three bytes, of which the outer ones differ in the bits that are next to the one between. -/
def Straddles (xs ys : List UInt8) : Prop :=
  ∃ before x x' x'' y y' y'' after, xs = before ++ ([x, x', x''] ++ after) ∧
    ys = before ++ ([y, y', y''] ++ after) ∧ (msbBits x).take 7 = (msbBits y).take 7 ∧
      (msbBits x'').drop 1 = (msbBits y'').drop 1

theorem onBus_here {x y : UInt8} {xs ys : List UInt8} {n : Nat} (hlen : xs.length = ys.length)
    (hn : n < 8) (hbyte : (msbBits x).take n = (msbBits y).take n)
    (hd : (onBus xs).drop (n + 10 - 8) = (onBus ys).drop (n + 10 - 8)) :
    Burst 16 (serial (x :: xs)) (serial (y :: ys)) ∨ Straddles (x :: xs) (y :: ys) := by
  cases xs with
  | nil =>
    rw [List.length_eq_zero_iff.mp hlen.symm]
    exact Or.inl ⟨[], lsbBits x, lsbBits y, [], by simp, by simp, rfl, by simp⟩
  | cons x' xs =>
    obtain _ | ⟨y', ys⟩ := ys
    · exact absurd hlen (by simp)
    obtain ⟨-, hd⟩ := drop_onBus_inj hd
    rcases Nat.lt_or_ge n 7 with hearly | hlate
    · rw [show n + 10 - 8 - 8 = 0 by omega] at hd
      rw [onBus_injective hd]
      exact Or.inl ⟨[], lsbBits x ++ lsbBits x', lsbBits y ++ lsbBits y', serial ys,
        by simp, by simp, by simp, by simp⟩
    · obtain rfl : n = 7 := by omega
      cases xs with
      | nil =>
        rw [List.length_eq_zero_iff.mp (Nat.succ.inj hlen).symm]
        exact Or.inl ⟨[], serial [x, x'], serial [y, y'], [], by simp, by simp, rfl, by simp⟩
      | cons x'' xs =>
        obtain _ | ⟨y'', ys⟩ := ys
        · exact absurd hlen (by simp)
        obtain ⟨hlast, hd⟩ := drop_onBus_inj hd
        rw [onBus_injective hd]
        exact Or.inr ⟨[], x, x', x'', y, y', y'', ys, rfl, rfl, hbyte, hlast⟩

/-- Ten bits on the bus stand in two bytes or reach over one. -/
theorem serial_of_onBus {xs ys : List UInt8} (h : Burst 10 (onBus xs) (onBus ys)) :
    Burst 16 (serial xs) (serial ys) ∨ Straddles xs ys := by
  have hlen := length_of_burst length_msbBits h
  obtain ⟨-, n, ht, hd⟩ := burst_iff.mp h
  clear h
  induction xs generalizing ys n with
  | nil =>
    rw [List.length_eq_zero_iff.mp hlen.symm]
    exact Or.inl (burst_refl 16 _)
  | cons x xs ih =>
    cases ys with
    | nil => exact absurd hlen (by simp)
    | cons y ys =>
      have hlen := Nat.succ.inj hlen
      rw [onBus, onBus, List.flatMap_cons, List.flatMap_cons, List.take_append, List.take_append]
        at ht
      obtain ⟨hbyte, ht⟩ := List.append_inj ht (by simp)
      obtain ⟨-, hd⟩ := drop_onBus_inj hd
      rcases Nat.lt_or_ge n 8 with hlt | hge
      · -- the burst begins in this byte
        exact onBus_here hlen hlt hbyte hd
      · rw [List.take_of_length_le (by simpa using hge), List.take_of_length_le (by simpa using hge)]
          at hbyte
        rw [msbBits_injective hbyte]
        rcases ih hlen (n - 8) ht (by rwa [← Nat.sub_add_comm hge]) with hburst | hstraddles
        · exact Or.inl (hburst.append_left (lsbBits y))
        · obtain ⟨before, a, a', a'', b, b', b'', after, rfl, rfl, hfirst, hlast⟩ := hstraddles
          exact Or.inr ⟨y :: before, a, a', a'', b, b', b'', after, rfl, rfl, hfirst, hlast⟩

theorem first_difference : ∀ e : Fin 256,
    (msbBits (.ofNat e)).take 7 = List.replicate 7 false → UInt8.ofNat e ∈ ([0, 1] : List UInt8) := by
  decide +kernel

theorem last_difference : ∀ e : Fin 256,
    (msbBits (.ofNat e)).drop 1 = List.replicate 7 false →
      UInt8.ofNat e ∈ ([0, 0x80] : List UInt8) := by
  decide +kernel

/-- No difference of three bytes that reaches over the one between escapes the register. -/
theorem straddling_seen : ∀ e : Fin 256, ∀ a ∈ ([0, 1] : List UInt8),
    ∀ b ∈ ([0, 0x80] : List UInt8), crc16Register.run 0#16 (serial [a, .ofNat e, b]) = 0#16 →
      a = 0 ∧ UInt8.ofNat e = 0 ∧ b = 0 := by
  decide +kernel

theorem serial_xor {xs ys : List UInt8} (hlen : xs.length = ys.length) :
    serial (List.zipWith (· ^^^ ·) xs ys) = List.zipWith xor (serial xs) (serial ys) := by
  induction xs generalizing ys with
  | nil => rfl
  | cons x xs ih =>
    cases ys with
    | nil => exact absurd hlen (by simp)
    | cons y ys =>
      have hrest := ih (Nat.succ.inj hlen)
      rw [serial] at hrest
      rw [List.zipWith_cons_cons, serial, List.flatMap_cons, lsbBits_xor, hrest]
      exact (List.zipWith_append (by simp)).symm

theorem xor_self_bits (bits : List Bool) :
    List.zipWith xor bits bits = List.replicate bits.length false := by
  rw [List.zipWith_self]
  simp

theorem eq_of_straddles {xs ys : List UInt8} (h : Straddles xs ys) {c : BitVec 16}
    (hrun : crc16Register.run c (serial xs) = crc16Register.run c (serial ys)) : xs = ys := by
  obtain ⟨before, x, x', x'', y, y', y'', after, rfl, rfl, hfirst, hlast⟩ := h
  have hfin : ∀ e : UInt8, ∃ k : Fin 256, UInt8.ofNat k = e := fun e =>
    ⟨⟨e.toNat, e.toNat_lt⟩, UInt8.ofNat_toNat⟩
  have hzero : crc16Register.run 0#16 (serial [x ^^^ y, x' ^^^ y', x'' ^^^ y'']) = 0#16 := by
    simp only [serial, List.flatMap_append, crc16Register.run_append] at hrun
    have hinner := crc16Register.run_injective _ hrun
    have hxor := crc16Register.run_xor (crc16Register.run c (serial before))
      (crc16Register.run c (serial before))
      (show (serial [x, x', x'']).length = (serial [y, y', y'']).length from rfl)
    rw [← @serial_xor [x, x', x''] [y, y', y''] rfl, BitVec.xor_self] at hxor
    exact hxor.trans ((congrArg (· ^^^ _) hinner).trans BitVec.xor_self)
  have hfirst' : x ^^^ y ∈ ([0, 1] : List UInt8) := by
    obtain ⟨k, hk⟩ := hfin (x ^^^ y)
    rw [← hk]
    apply first_difference
    rw [hk, msbBits_xor, List.take_zipWith, hfirst, xor_self_bits]
    rfl
  have hlast' : x'' ^^^ y'' ∈ ([0, 0x80] : List UInt8) := by
    obtain ⟨k, hk⟩ := hfin (x'' ^^^ y'')
    rw [← hk]
    apply last_difference
    rw [hk, msbBits_xor, List.drop_zipWith, hlast, xor_self_bits]
    rfl
  obtain ⟨k, hk⟩ := hfin (x' ^^^ y')
  rw [← hk] at hzero
  obtain ⟨h1, h2, h3⟩ := straddling_seen k _ hfirst' _ hlast' hzero
  rw [hk] at h2
  rw [UInt8.xor_eq_zero_iff.mp h1, UInt8.xor_eq_zero_iff.mp h2, UInt8.xor_eq_zero_iff.mp h3]

/-- Of two checked texts that ten bits on the bus take into each other there is only one. -/
theorem eq_of_checked_onBus {xs ys : List UInt8} (hburst : Burst 10 (onBus xs) (onBus ys))
    (hxs : crc16Register.run 0xFFFF#16 (serial xs) = 0#16)
    (hys : crc16Register.run 0xFFFF#16 (serial ys) = 0#16) : xs = ys := by
  rcases serial_of_onBus hburst with hserial | hstraddles
  · exact eq_of_checked hserial hxs hys
  · exact eq_of_straddles hstraddles (hxs.trans hys.symm)

-- eleven bits on the bus can go unseen
example : crc16Register.run 0#16 (serial [0x01, 0xC1, 0xC0]) = 0#16 := by decide +kernel

/-- A response that a burst has damaged is never taken for data, however it is cut into frames and
whatever follows it: a burst of at most sixteen bits in the order in which `crc16` takes them, or of
at most ten in the order in which the bus sends them. -/
theorem readHoldingRegisters_damaged (bus : Bus) (deviceAddress : UInt8)
    (registerAddress registerCount : UInt16) (registerBytes data response damaged : List UInt8)
    (hresponse : IsResponse deviceAddress registerCount data response)
    (hburst : Burst 16 (serial response) (serial damaged) ∨
      Burst 10 (onBus response) (onBus damaged))
    (hne : damaged ≠ response) (hfragments : damaged <+: bus.fragments.flatten) :
    let reading := readHoldingRegisters bus deviceAddress registerAddress registerCount registerBytes
    reading.ok = false ∧ reading.registerBytes = registerBytes := by
  unfold readHoldingRegisters
  cases hread : readRegisters bus deviceAddress registerAddress registerCount with
  | error message => exact ⟨rfl, rfl⟩
  | ok read =>
    exfalso
    obtain ⟨bytes, hbytes, hisResponse⟩ := readRegisters_response hread
    have hsize : damaged.length = response.length := hburst.elim
      (fun h => (length_of_burst length_lsbBits h).symm)
      fun h => (length_of_burst length_msbBits h).symm
    have hlength : bytes.length = damaged.length := by
      rw [hsize, length_response hisResponse, length_response hresponse]
    have hsame : bytes = damaged := by
      rw [List.prefix_iff_eq_take.mp hbytes, List.prefix_iff_eq_take.mp hfragments, hlength]
    obtain ⟨-, -, hcrc⟩ := hisResponse
    obtain ⟨-, -, rfl⟩ := hresponse
    have hchecked : crc16Register.run 0xFFFF#16 (serial damaged) = 0#16 := by
      rw [← hsame, hcrc]
      exact run_appendCrc _
    apply hne
    rcases hburst with hserial | honBus
    · exact (eq_of_checked hserial (run_appendCrc _) hchecked).symm
    · exact (eq_of_checked_onBus honBus (run_appendCrc _) hchecked).symm

/-- The response with ten bits on the bus turned, in pieces and with a byte behind it. -/
theorem readHoldingRegisters_damaged_two :
    (readHoldingRegisters { piecewise with
      fragments := [[1], [3, 4, 0x13], [0xCB, 0xD6, 0x78, 0x81, 0x07], [9]] } 1 0x100 2 [7]).ok =
        false := by
  refine (readHoldingRegisters_damaged _ 1 0x100 2 [7] [0x12, 0x34, 0x56, 0x78]
    [1, 3, 4, 0x12, 0x34, 0x56, 0x78, 0x81, 0x07] [1, 3, 4, 0x13, 0xCB, 0xD6, 0x78, 0x81, 0x07]
    ?_ (Or.inr ?_) (by decide) ?_).1
  · refine ⟨rfl, by decide, ?_⟩
    decide +kernel
  · refine ⟨onBus [1, 3, 4] ++ (msbBits 0x12).take 7, false :: (msbBits 0x34 ++ [false]),
      true :: (msbBits 0xCB ++ [true]), (msbBits 0x56).drop 1 ++ onBus [0x78, 0x81, 0x07], ?_⟩
    decide +kernel
  · exact ⟨[9], rfl⟩

end DeviceManager.Bursts
