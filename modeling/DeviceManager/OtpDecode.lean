import DeviceManager.ByteImage
import DeviceManager.LittleEndian
import Mathlib.Data.Fin.VecNotation
import Mathlib.Data.List.Basic

namespace DeviceManager.OtpDecode

open ShiftRegister ByteImage

/-- The doubles are their bits. -/
structure CameraCalibration where
  width : UInt32
  height : UInt32
  distortionModel : String
  d : List UInt64
  k : Fin 9 → UInt64
  r : Fin 9 → UInt64
  p : Fin 12 → UInt64

/-- The bits of `1.0`. -/
def one : UInt64 := 0x3FF0000000000000

def defaultCalibration : CameraCalibration where
  width := 0
  height := 0
  distortionModel := ""
  d := []
  k := fun _ => 0
  r := ![one, 0, 0, 0, one, 0, 0, 0, one]
  p := ![0, 0, 0, 0, 0, 0, 0, 0, 0, 0, one, 0]

def readLeU16 (data : List UInt8) (offset : Nat) : UInt16 :=
  LittleEndian.word (data.getD offset 0) (data.getD (offset + 1) 0)

def readLeU32 (data : List UInt8) (offset : Nat) : UInt32 :=
  (data.getD offset 0).toUInt32 ||| ((data.getD (offset + 1) 0).toUInt32 <<< 8) |||
    ((data.getD (offset + 2) 0).toUInt32 <<< 16) ||| ((data.getD (offset + 3) 0).toUInt32 <<< 24)

def readLeDouble (data : List UInt8) (offset : Nat) : UInt64 :=
  (List.range 8).foldl
    (fun raw index => raw ||| ((data.getD (offset + index) 0).toUInt64 <<< UInt64.ofNat (index * 8)))
    0

def crc32Bit (crc : UInt32) : UInt32 := (crc >>> 1) ^^^ (0xEDB88320 &&& (0 - (crc &&& 1)))

def crc32Byte (crc : UInt32) (byte : UInt8) : UInt32 := crc32Bit^[8] (crc ^^^ byte.toUInt32)

/-- `crc32` of the bytes from the one place up to the other. -/
def crc32 (data : List UInt8) (first last : Nat) : UInt32 :=
  (slice data first last).foldl crc32Byte 0xFFFFFFFF ^^^ 0xFFFFFFFF

def allBytesAre (data : List UInt8) (value : UInt8) : Bool := data.all (· == value)

/-- The loop of `read_otp_serial_number` over the bytes that are left. -/
def serialNumberOf : List UInt8 → List Char
  | [] => []
  | value :: rest =>
    if value = 0x00 ∨ value = 0xFF then []
    else if value < 0x20 ∨ 0x7E < value then serialNumberOf rest
    else Char.ofNat value.toNat :: serialNumberOf rest

def readOtpSerialNumber (data : List UInt8) : String :=
  String.ofList (serialNumberOf (slice data 0x120 0x130))

/-- What `decode_ox01f10_otp` reads once the checks are passed. -/
def otpCalibration (data : List UInt8) : CameraCalibration :=
  let fx := readLeDouble data 0x65
  let fy := readLeDouble data 0x6D
  let cx := readLeDouble data 0x75
  let cy := readLeDouble data 0x7D
  { defaultCalibration with
    width := (readLeU16 data 0x60).toUInt32
    height := (readLeU16 data 0x62).toUInt32
    k := ![fx, 0, cx, 0, fy, cy, 0, 0, one]
    r := ![one, 0, 0, 0, one, 0, 0, 0, one]
    p := ![fx, 0, cx, 0, 0, fy, cy, 0, 0, 0, one, 0]
    distortionModel := if data.getD 0x64 0 = 0x02 then "equidistant" else "plumb_bob"
    d := if data.getD 0x64 0 = 0x02 then
        [readLeDouble data 0xC5, readLeDouble data 0xCD, readLeDouble data 0xD5,
          readLeDouble data 0xDD]
      else
        [readLeDouble data 0x85, readLeDouble data 0x8D, readLeDouble data 0x95,
          readLeDouble data 0x9D, readLeDouble data 0xA5] }

/-- `std::hex`. -/
def hex (v : UInt32) : String := String.ofList (Nat.toDigits 16 v.toNat)

/-- `decode_ox01f10_otp` with the serial number that it stores. -/
def decodeOx01f10Otp (data : List UInt8) : Except String (String × CameraCalibration) :=
  if data.length < 0x145 then
    .error "otp data is shorter than OX01F10 calibration block"
  else if allBytesAre data 0x00 ∨ allBytesAre data 0xFF then
    .error "otp data is blank"
  else if crc32 data 0x60 0x11C ≠ readLeU32 data 0x11C then
    .error ("otp crc32_4 mismatch: calculated 0x" ++ hex (crc32 data 0x60 0x11C) ++
      " stored 0x" ++ hex (readLeU32 data 0x11C))
  else if crc32 data 0x120 0x130 ≠ readLeU32 data 0x141 then
    .error ("otp crc32_5 mismatch: calculated 0x" ++ hex (crc32 data 0x120 0x130) ++
      " stored 0x" ++ hex (readLeU32 data 0x141))
  else if readOtpSerialNumber data = "" then
    .error "otp serial number is empty"
  else .ok (readOtpSerialNumber data, otpCalibration data)

theorem allBytesAre_serialNumber {data : List UInt8} {value : UInt8}
    (hvalue : value = 0x00 ∨ value = 0xFF) (h : allBytesAre data value = true) :
    readOtpSerialNumber data = "" := by
  have hall : ∀ b ∈ slice data 0x120 0x130, b = value := fun b hb =>
    eq_of_beq (List.all_eq_true.mp h b (List.mem_of_mem_take (List.mem_of_mem_drop hb)))
  unfold readOtpSerialNumber
  cases hserial : slice data 0x120 0x130 with
  | nil => rfl
  | cons b rest =>
    rw [hserial] at hall
    rw [serialNumberOf, hall b (List.mem_cons_self ..), if_pos hvalue]

/-- Data is decoded exactly when it is long enough, both checksums are right and there is a serial
number; blank data has none. -/
theorem decodeOx01f10Otp_eq_ok {data : List UInt8} {r : String × CameraCalibration} :
    decodeOx01f10Otp data = .ok r ↔
      0x145 ≤ data.length ∧ crc32 data 0x60 0x11C = readLeU32 data 0x11C ∧
        crc32 data 0x120 0x130 = readLeU32 data 0x141 ∧ readOtpSerialNumber data ≠ "" ∧
          r = (readOtpSerialNumber data, otpCalibration data) := by
  unfold decodeOx01f10Otp
  split_ifs with hshort hblank hbody hserial hempty
  · simp only [false_iff, not_and]
    intro hle
    omega
  · simp only [false_iff, not_and]
    intro _ _ _ hne
    rcases hblank with hzero | hones
    · exact absurd (allBytesAre_serialNumber (Or.inl rfl) hzero) hne
    · exact absurd (allBytesAre_serialNumber (Or.inr rfl) hones) hne
  · simp only [false_iff, not_and]
    intro _ hcrc
    exact absurd hcrc hbody
  · simp only [false_iff, not_and]
    intro _ _ hcrc
    exact absurd hcrc hserial
  · simp only [false_iff, not_and]
    intro _ _ _ hne
    exact absurd hempty hne
  · rw [Except.ok.injEq]
    push Not at hbody hserial
    constructor
    · rintro rfl
      exact ⟨by omega, hbody, hserial, hempty, rfl⟩
    · rintro ⟨-, -, -, -, rfl⟩
      rfl

/-- The register behind `crc32`. -/
def crc32Register : Register 32 := lsbFirst 0xEDB88320#32 (by decide)

/-- The bits of a text in the order in which `crc32` reads them: the least significant bit of each
byte first. -/
abbrev serial (bytes : List UInt8) : List Bool := bytes.flatMap lsbBits

theorem toBitVec_crc32Bit (crc : UInt32) :
    (crc32Bit crc).toBitVec = crc32Register.shift crc.toBitVec := by
  change _ = lsbShift 0xEDB88320#32 crc.toBitVec
  have hlow : (crc &&& 1).toBitVec = BitVec.setWidth 32 (BitVec.ofBool (crc.toBitVec.getLsbD 0)) := by
    rw [UInt32.toBitVec_and]
    exact BitVec.and_one_eq_setWidth_ofBool_getLsbD
  have hmask : (0xEDB88320 &&& (0 - (crc &&& 1)) : UInt32).toBitVec =
      if crc.toBitVec.getLsbD 0 then 0xEDB88320#32 else 0#32 := by
    rw [UInt32.toBitVec_and, UInt32.toBitVec_sub, hlow]
    cases crc.toBitVec.getLsbD 0 <;> decide
  rw [crc32Bit, UInt32.toBitVec_xor, hmask, lsbShift]
  rfl

theorem word_lsbBits (b : UInt8) : crc32Register.word 0 (lsbBits b) = b.toUInt32.toBitVec := by
  refine lsbFirst_word _ (by rw [length_lsbBits]; decide) fun i hi => ?_
  rw [UInt8.toBitVec_toUInt32, BitVec.getLsbD_setWidth]
  obtain hlt | hge := Nat.lt_or_ge i 8
  · rw [getD_lsbBits b hlt]
    simp [hi]
  · rw [BitVec.getLsbD_of_ge _ _ hge, List.getD_eq_default _ _ (by simpa using hge), Bool.and_false]

theorem run_serial (crc : UInt32) (bytes : List UInt8) :
    crc32Register.run crc.toBitVec (serial bytes) = (bytes.foldl crc32Byte crc).toBitVec := by
  have hsemi : Function.Semiconj UInt32.toBitVec crc32Bit crc32Register.shift := toBitVec_crc32Bit
  rw [← foldl_expand crc32Register length_lsbBits _ _ (by decide)]
  induction bytes generalizing crc with
  | nil => rfl
  | cons b bytes ih =>
    have hbyte : (crc32Byte crc b).toBitVec =
        crc32Register.shift^[8] (crc.toBitVec ^^^ crc32Register.word 0 (lsbBits b)) := by
      rw [word_lsbBits, ← UInt32.toBitVec_xor]
      exact hsemi.iterate_right 8 _
    rw [List.foldl_cons, List.foldl_cons, ← hbyte, ih]

theorem getLsbD_readLeU32 (data : List UInt8) (offset : Nat) {i : Nat} (hi : i < 32) :
    (readLeU32 data offset).toBitVec.getLsbD i =
      (data.getD (offset + i / 8) 0).toBitVec.getLsbD (i % 8) := by
  have hhigh : ∀ (b : UInt8) (j : Nat), 8 ≤ j → b.toBitVec.getLsbD j = false := fun b j hj =>
    BitVec.getLsbD_of_ge _ _ hj
  -- the byte that the bit comes from; the bytes below it are too short, those above begin later
  obtain h | h | h | h : i / 8 = 0 ∨ i / 8 = 1 ∨ i / 8 = 2 ∨ i / 8 = 3 := by omega
  · rw [h, show i % 8 = i by omega]
    have h8 : i < 8 := by omega
    have h16 : i < 16 := by omega
    have h24 : i < 24 := by omega
    simp [readLeU32, hi, h8, h16, h24]
  · rw [h, show i % 8 = i - 8 by omega]
    have h8 : ¬i < 8 := by omega
    have h16 : i < 16 := by omega
    have h24 : i < 24 := by omega
    simp [readLeU32, hi, h8, h16, h24, hhigh _ i (by omega)]
  · rw [h, show i % 8 = i - 16 by omega]
    have h8 : ¬i < 8 := by omega
    have h16 : ¬i < 16 := by omega
    have h24 : i < 24 := by omega
    simp [readLeU32, hi, h8, h16, h24, hhigh _ i (by omega), hhigh _ (i - 8) (by omega)]
  · rw [h, show i % 8 = i - 24 by omega]
    have h8 : ¬i < 8 := by omega
    have h16 : ¬i < 16 := by omega
    have h24 : ¬i < 24 := by omega
    simp [readLeU32, hi, h8, h16, h24, hhigh _ i (by omega), hhigh _ (i - 8) (by omega),
      hhigh _ (i - 16) (by omega)]

theorem word_readLeU32 {data : List UInt8} {offset : Nat} (h : offset + 4 ≤ data.length) :
    crc32Register.word 0 (serial (slice data offset (offset + 4))) =
      (readLeU32 data offset).toBitVec := by
  have hlen : (slice data offset (offset + 4)).length = 4 := by
    rw [length_slice h]
    omega
  refine lsbFirst_word _ (by rw [length_expand length_lsbBits, hlen]) fun i hi => ?_
  rw [getD_expand length_lsbBits _ (by omega), getD_lsbBits _ (Nat.mod_lt _ (by decide)),
    getD_slice (by omega), getLsbD_readLeU32 data offset hi]

/-- A slice with its checksum behind it leaves what an empty one leaves. -/
theorem run_checked {data : List UInt8} {first last : Nat} (hle : first ≤ last)
    (hfits : last + 4 ≤ data.length) (h : crc32 data first last = readLeU32 data last) :
    crc32Register.run 0xFFFFFFFF#32 (serial (slice data first (last + 4))) =
      crc32Register.shift^[32] 0xFFFFFFFF#32 := by
  have hbody : crc32Register.run 0xFFFFFFFF#32 (serial (slice data first last)) =
      ((slice data first last).foldl crc32Byte 0xFFFFFFFF).toBitVec := run_serial 0xFFFFFFFF _
  have hlen : (slice data last (last + 4)).length = 4 := by
    rw [length_slice hfits]
    omega
  rw [← slice_append hle (Nat.le_add_right last 4), serial, List.flatMap_append]
  apply crc32Register.run_check
  · rw [length_expand length_lsbBits, hlen]
  · change crc32Register.word 0 (serial (slice data last (last + 4))) = _
    rw [word_readLeU32 hfits, ← h, hbody, crc32, UInt32.toBitVec_xor]
    rfl

theorem crc32_congr {data damaged : List UInt8} {first last : Nat}
    (h : slice data first last = slice damaged first last) :
    crc32 data first last = crc32 damaged first last := by
  rw [crc32, crc32, h]

theorem readLeU32_injective {data damaged : List UInt8} {offset : Nat}
    (hdata : offset + 4 ≤ data.length) (hdamaged : offset + 4 ≤ damaged.length) :
    readLeU32 data offset = readLeU32 damaged offset ↔
      slice data offset (offset + 4) = slice damaged offset (offset + 4) := by
  have hlen : (slice data offset (offset + 4)).length = 4 := by
    rw [length_slice hdata]
    omega
  have hlen' : (slice damaged offset (offset + 4)).length = 4 := by
    rw [length_slice hdamaged]
    omega
  constructor
  · intro h
    rw [← UInt32.toBitVec_inj, ← word_readLeU32 hdata, ← word_readLeU32 hdamaged] at h
    apply expand_injective length_lsbBits lsbBits_injective
    refine crc32Register.word_inj ?_ ?_ h
    · rw [length_expand length_lsbBits, length_expand length_lsbBits, hlen, hlen']
    · rw [length_expand length_lsbBits, hlen]
  · intro h
    rw [← UInt32.toBitVec_inj, ← word_readLeU32 hdata, ← word_readLeU32 hdamaged, h]

/-- The same in the bytes that the checksums stand for, and in the stored checksums. -/
def Unharmed (data damaged : List UInt8) : Prop :=
  slice data 0x60 0x120 = slice damaged 0x60 0x120 ∧
    slice data 0x120 0x130 = slice damaged 0x120 0x130 ∧
      slice data 0x141 0x145 = slice damaged 0x141 0x145

instance (data damaged : List UInt8) : Decidable (Unharmed data damaged) :=
  inferInstanceAs (Decidable (_ ∧ _ ∧ _))

section Reading

variable {data damaged : List UInt8} {a b offset : Nat}
  (hsame : slice data a b = slice damaged a b) (hfirst : a ≤ offset)
include hsame hfirst

theorem readLeU16_congr (hlast : offset + 2 ≤ b) :
    readLeU16 data offset = readLeU16 damaged offset := by
  rw [readLeU16, readLeU16, getD_within hsame hfirst (by omega),
    getD_within hsame (by omega) (by omega)]

theorem readLeDouble_congr (hlast : offset + 8 ≤ b) :
    readLeDouble data offset = readLeDouble damaged offset := by
  unfold readLeDouble
  apply List.foldl_ext
  intro raw index hindex
  have hlt := List.mem_range.mp hindex
  rw [getD_within hsame (by omega) (by omega)]

end Reading

theorem otpCalibration_congr {data damaged : List UInt8}
    (h : slice data 0x60 0x11C = slice damaged 0x60 0x11C) :
    otpCalibration data = otpCalibration damaged := by
  have hdouble : ∀ offset, 0x60 ≤ offset → offset + 8 ≤ 0x11C →
      readLeDouble data offset = readLeDouble damaged offset := fun _ => readLeDouble_congr h
  have hword : ∀ offset, 0x60 ≤ offset → offset + 2 ≤ 0x11C →
      readLeU16 data offset = readLeU16 damaged offset := fun _ => readLeU16_congr h
  have hmodel : data.getD 0x64 0 = damaged.getD 0x64 0 := getD_within h (by decide) (by decide) 0
  unfold otpCalibration
  simp only [hmodel, hword, hdouble, Nat.reduceLeDiff, Nat.reduceAdd]

/-- One burst of at most 32 bits does not reach both the serial number and its checksum. -/
theorem unharmed_of_burst {data damaged : List UInt8} {r r' : String × CameraCalibration}
    (hburst : Burst 32 (serial data) (serial damaged)) (h : decodeOx01f10Otp data = .ok r)
    (h' : decodeOx01f10Otp damaged = .ok r') : Unharmed data damaged := by
  obtain ⟨hsize, hbody, hserial, -, -⟩ := decodeOx01f10Otp_eq_ok.mp h
  obtain ⟨hsize', hbody', hserial', -, -⟩ := decodeOx01f10Otp_eq_ok.mp h'
  have hpart : ∀ first last, Burst 32 (serial (slice data first last))
      (serial (slice damaged first last)) := fun first last => by
    rw [serial, serial, expand_slice length_lsbBits, expand_slice length_lsbBits]
    exact burst_slice hburst
  have hfirst : slice data 0x60 0x120 = slice damaged 0x60 0x120 := by
    apply expand_injective length_lsbBits lsbBits_injective
    apply crc32Register.eq_of_burst (hpart 0x60 0x120)
    rw [run_checked (by decide) (by omega) hbody, run_checked (by decide) (by omega) hbody']
  obtain hsame | hsame :=
    burst_far (a := 8 * 0x120) (b := 8 * 0x130) (c := 8 * 0x141) (d := 8 * 0x145) hburst (by decide)
  · rw [← expand_slice length_lsbBits, ← expand_slice length_lsbBits] at hsame
    have hnumber := expand_injective length_lsbBits lsbBits_injective hsame
    refine ⟨hfirst, hnumber, ?_⟩
    rw [← readLeU32_injective hsize hsize', ← hserial, ← hserial', crc32_congr hnumber]
  · rw [← expand_slice length_lsbBits, ← expand_slice length_lsbBits] at hsame
    have hstored := expand_injective length_lsbBits lsbBits_injective hsame
    refine ⟨hfirst, ?_, hstored⟩
    apply expand_injective length_lsbBits lsbBits_injective
    apply crc32Register.eq_of_burst (hpart 0x120 0x130)
    change crc32Register.run (0xFFFFFFFF : UInt32).toBitVec _ =
      crc32Register.run (0xFFFFFFFF : UInt32).toBitVec _
    rw [← readLeU32_injective hsize hsize', ← hserial, ← hserial', crc32, crc32] at hstored
    rw [run_serial, run_serial, (UInt32.xor_left_inj _).mp hstored]

theorem decode_unharmed {data damaged : List UInt8} {r : String × CameraCalibration}
    (hlength : damaged.length = data.length) (hunharmed : Unharmed data damaged)
    (h : decodeOx01f10Otp data = .ok r) : decodeOx01f10Otp damaged = .ok r := by
  obtain ⟨hfirst, hnumber, hstored⟩ := hunharmed
  obtain ⟨hsize, hbody, hserial, hne, rfl⟩ := decodeOx01f10Otp_eq_ok.mp h
  have hsize' : 0x145 ≤ damaged.length := by rwa [hlength]
  have hcalibration := slice_within hfirst (le_refl 0x60) (show 0x11C ≤ 0x120 by decide)
  have hchecksum := slice_within hfirst (show 0x60 ≤ 0x11C by decide) (le_refl 0x120)
  have hname : readOtpSerialNumber data = readOtpSerialNumber damaged := by
    rw [readOtpSerialNumber, readOtpSerialNumber, hnumber]
  apply decodeOx01f10Otp_eq_ok.mpr
  refine ⟨hsize', ?_, ?_, ?_, ?_⟩
  · rw [← crc32_congr hcalibration, hbody]
    exact (readLeU32_injective (by omega) (by omega)).mpr hchecksum
  · rw [← crc32_congr hnumber, hserial]
    exact (readLeU32_injective hsize hsize').mpr hstored
  · rwa [← hname]
  · rw [hname, otpCalibration_congr hcalibration]

/-- What a burst of at most 32 bits, in the order of `serial`, makes of decoded data. -/
theorem decodeOx01f10Otp_damaged (data damaged : List UInt8) (r : String × CameraCalibration)
    (hburst : Burst 32 (serial data) (serial damaged)) (h : decodeOx01f10Otp data = .ok r) :
    if Unharmed data damaged then decodeOx01f10Otp damaged = .ok r
    else ∃ message, decodeOx01f10Otp damaged = .error message := by
  split_ifs with hunharmed
  · exact decode_unharmed (length_of_burst length_lsbBits hburst).symm hunharmed h
  · cases h' : decodeOx01f10Otp damaged with
    | error message => exact ⟨message, rfl⟩
    | ok r' => exact absurd (unharmed_of_burst hburst h h') hunharmed

end DeviceManager.OtpDecode
